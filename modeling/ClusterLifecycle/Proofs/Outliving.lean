import ClusterLifecycle.Proofs.Errands
import ClusterLifecycle.Proofs.Teardown

/-!
A cluster's access to the cloud outlives the cluster, over whole runs.

* `Course`: deletions and status passes one after another, each with its log and cut short anywhere;
  whatever stands behind the services, they may answer anything and fail at any time;
* `Session`: the commands of an operator in any order, from the creation of the record on;
* `access_outlives_cluster`: access is taken only in a pass that has found the cluster gone, the
  record is marked as deleted only after all of it has been taken, and only then is it removed.
-/

namespace ClusterLifecycle

open Program

/-- Something that has been done to a cluster: the record that it was given and its log, and the
record that a pass has left if it came to its end. -/
inductive Episode where
  | deletion (c : Cluster) (log : Log services)
  | pass (c : Cluster) (log : Log services) (left : Option Cluster)

namespace Episode

/-- A pass has taken the cluster down. -/
def Completes (d : Deployment) : Episode → Prop
  | deletion .. => False
  | pass c log _ => d.Completes c log

/-- A deletion takes nothing. A pass is orderly, and the record in hand becomes that of a deleted
cluster only once the cluster has been taken down. -/
def Rightful (d : Deployment) : Episode → Prop
  | deletion c log => ∀ x ∈ log, ¬d.Takes c x.request
  | pass c log left => d.Orderly c log ∧ ∀ c', left = some c' → c'.status = .deleteComplete →
      c.status = .deleteComplete ∨ d.Completes c log

end Episode

/-- The record that a pass leaves in hand where it has come to its end. -/
def leftBy : Program services (Result Unit × Cluster) → Option Cluster
  | .done (_, c) => some c
  | .ask .. => none

section
variable {ρ : Type}

/-- What may have been done to a cluster. Each operation is given some record of it and may be cut
short at any point. In between its caller may change the record that is stored, but does not mark it
as that of a deleted cluster. -/
inductive Course (k : Keeper ρ) (d : Deployment) (c : Cluster) : List Episode → ρ → Prop
  | start {records : ρ} (living : k.Shows c.uuid (· ≠ .deleteComplete) records) :
      Course k d c [] records
  | delete {episodes : List Episode} {c' : Cluster} {records records' : ρ} {log : Log services}
      {p : Program services (Result Unit)} (before : Course k d c episodes records)
      (follows : c.Follows c')
      (reached : Reaches (Freely k) (d.deleteCluster c').run (records, []) p (records', log)) :
      Course k d c (episodes ++ [.deletion c' log]) records'
  | pass {episodes : List Episode} {c' : Cluster} {records records' : ρ} {log : Log services}
      {p : Program services (Result Unit × Cluster)} (before : Course k d c episodes records)
      (follows : c.Follows c')
      (reached : Reaches (Freely k) (d.updateClusterStatus.run.run c') (records, []) p
        (records', log)) :
      Course k d c (episodes ++ [.pass c' log (leftBy p)]) records'
  | caller {episodes : List Episode} {records records' : ρ} (before : Course k d c episodes records)
      (marks : ∀ P, k.Shows c.uuid (fun status => status = .deleteComplete → P) records →
        k.Shows c.uuid (fun status => status = .deleteComplete → P) records') :
      Course k d c episodes records'

variable {k : Keeper ρ} {d : Deployment} {c : Cluster} {records : ρ}

/-- Deleting takes no access, and stores nothing. -/
theorem keeps_nothingTaken {P : Status → Prop} (faithful : k.Faithful c.uuid)
    (start : k.Shows c.uuid P records) :
    (d.deleteCluster c).Keeps (Freely k) (fun _ _ _ s => (∀ x ∈ s.2, ¬d.Takes c x.request) ∧
      k.Shows c.uuid P s.1) (fun _ s => (∀ x ∈ s.2, ¬d.Takes c x.request) ∧ k.Shows c.uuid P s.1)
      (fun _ s => True ∧ (∀ x ∈ s.2, ¬d.Takes c x.request) ∧ k.Shows c.uuid P s.1)
      (records, []) := by
  have only := Deployment.only_deleteCluster d c
    (G := fun q => ¬d.Takes c q ∧ Keeper.Fits c.uuid P q)
    fun t other => ⟨fun takes => other (Deployment.takes_secret takes), trivial⟩
  refine only.keeps (fun q s a s' ⟨keeps, fits⟩ ⟨before, shown⟩ answered => ?_) ⟨by simp, start⟩
  obtain ⟨records', log'⟩ := s'
  obtain ⟨attended, rfl⟩ := answered
  have after : (∀ x ∈ s.2 ++ [(⟨q, a⟩ : Exchange services)], ¬d.Takes c x.request) ∧
      k.Shows c.uuid P records' := by
    refine ⟨fun x hx => ?_, shown.exchange faithful fits attended⟩
    rcases List.mem_append.1 hx with hx | hx
    · exact before x hx
    · rw [List.mem_singleton.1 hx]
      exact keeps
  exact ⟨after, after⟩

/-- Whatever has been done was rightful, and a record of a deleted cluster is stored only after a
pass has taken the cluster down. -/
theorem Course.rightful {episodes : List Episode} (faithful : k.Faithful c.uuid)
    (h : Course k d c episodes records) :
    (∀ e ∈ episodes, e.Rightful d) ∧ k.Shows c.uuid
      (fun status => status = .deleteComplete → ∃ e ∈ episodes, e.Completes d) records := by
  induction h with
  | start living => exact ⟨by simp, living.mono fun _ other is => absurd is other⟩
  | @delete episodes c' records records' log p _ follows reached ih =>
    obtain ⟨rightful, shown⟩ := ih
    rw [← follows.uuid] at faithful shown
    have kept := keeps_nothingTaken (d := d) faithful shown
    obtain ⟨nothing, shown⟩ := Ensures.throughout ⟨by simp, shown⟩ kept reached
    refine ⟨fun e he => ?_, ?_⟩
    · rcases List.mem_append.1 he with he | he
      · exact rightful e he
      · rw [List.mem_singleton.1 he]
        exact nothing
    · rw [← follows.uuid]
      refine shown.mono fun _ taken is => ?_
      obtain ⟨e, he, completes⟩ := taken is
      exact ⟨e, List.mem_append_left _ he, completes⟩
  | @pass episodes c' records records' log p _ follows reached ih =>
    obtain ⟨rightful, shown⟩ := ih
    rw [← follows.uuid] at faithful shown
    have guards := Deployment.guarding_updateClusterStatus (d := d) faithful shown
    have start := Deployment.guarded_start (d := d) shown
    obtain ⟨orderly, shown⟩ := Ensures.throughout start guards reached
    refine ⟨fun e he => ?_, ?_⟩
    · rcases List.mem_append.1 he with he | he
      · exact rightful e he
      · rw [List.mem_singleton.1 he]
        refine ⟨orderly, fun left ends deleted => ?_⟩
        cases p with
        | ask => cases ends
        | done result =>
          obtain ⟨r, c''⟩ := result
          cases ends
          have declares := Ensures.at_end guards reached
          cases r with
          | ok u => exact declares.1.deleted deleted
          | error e => exact declares.1.deleted deleted
    · rw [← follows.uuid]
      refine shown.mono fun _ taken is => ?_
      rcases taken is with ⟨e, he, completes⟩ | completes
      · exact ⟨e, List.mem_append_left _ he, completes⟩
      · exact ⟨_, List.mem_append_right _ (List.mem_singleton.2 rfl), completes⟩
  | caller _ marks ih => exact ⟨ih.1, marks _ ih.2⟩

end

/-- The commands of an operator on the cluster of that identity. -/
inductive Errand.Concerns (d : Deployment) (id : Uuid) : Errand Unit → Prop
  | create (c : Cluster) (mine : c.uuid = id) : Concerns d id (create d c)
  | delete : Concerns d id (delete d id)
  | status : Concerns d id (status d id)
  | watch (timeout interval : Nat) : Concerns d id (watch d id timeout interval)
  | createGroup (g : NodeGroup) : Concerns d id (createGroup d id g)
  | deleteGroup (name : String) : Concerns d id (deleteGroup d id name)
  | groupStatus (name : String) : Concerns d id (groupStatus d id name)

/-- The record of a cluster that was being deleted has been loaded, and then the cluster has been
taken down. -/
def Deployment.TakenDown (d : Deployment) (id : Uuid) (log : Log console) : Prop :=
  ∃ c first before after, c.uuid = id ∧ c.status = .deleteInProgress ∧ d.Takedown c first ∧
    log = before ++ ⟨.load id, .ok c⟩ :: (Errand.asked first ++ after)

/-- Commands on one cluster, each cut short anywhere, from when it had no record. -/
inductive Session {ρ : Type} (k : Keeper ρ) (d : Deployment) (id : Uuid) : Log console → ρ → Prop
  | start {records : ρ} (unrecorded : ∀ c, k.load id records ≠ .ok c) : Session k d id [] records
  | command {log log' : Log console} {records records' : ρ} {errand : Errand Unit}
      {p : Program console (Except Failure Unit)} (before : Session k d id log records)
      (concerns : errand.Concerns d id)
      (reached : Reaches (Logged k.Tends) errand.run (records, log) p (records', log')) :
      Session k d id log' records'

namespace Deployment

variable {d : Deployment} {id : Uuid} {log : Log console}

theorem TakenDown.append (h : d.TakenDown id log) (more : Log console) :
    d.TakenDown id (log ++ more) := by
  obtain ⟨c, first, before, after, mine, deleting, taken, rfl⟩ := h
  refine ⟨c, first, before, after ++ more, mine, deleting, taken, ?_⟩
  rw [List.append_assoc, List.cons_append, List.append_assoc]

/-- Records are removed only after their cluster has been taken down. -/
def Forgets (d : Deployment) (id : Uuid) (log : Log console) : Prop :=
  ∀ before other a after, log = before ++ ⟨.forget other, a⟩ :: after → d.TakenDown id before

theorem forgets_nil : d.Forgets id [] := by
  intro before other a after split
  simp at split

theorem Forgets.concat {x : Exchange console} (h : d.Forgets id log)
    (last : ∀ other a, x = ⟨.forget other, a⟩ → d.TakenDown id log) :
    d.Forgets id (log ++ [x]) := by
  intro before other a after split
  rcases split_concat split with ⟨rfl, is⟩ | ⟨after', earlier⟩
  · exact last other a is.symm
  · exact h before other a after' earlier

theorem Forgets.asked (h : d.Forgets id log) (recent : Log services) :
    d.Forgets id (log ++ Errand.asked recent) := by
  induction recent generalizing log with
  | nil =>
    rw [Errand.asked, List.map_nil, List.append_nil]
    exact h
  | cons x recent ih =>
    have grown : log ++ Errand.asked (x :: recent) =
        log ++ [⟨.service x.request, x.answer⟩] ++ Errand.asked recent := List.append_cons _ _ _
    rw [grown]
    refine ih (h.concat (x := ⟨.service x.request, x.answer⟩) ?_)
    intro other a same
    cases same

end Deployment

namespace Errand

section
variable {ρ : Type} (k : Keeper ρ) (d : Deployment) (id : Uuid) (claim : Prop)

/-- What holds all along: a record is removed only after its cluster has been taken down; one of a
deleted cluster is stored, and what is claimed is so, only then. -/
structure Kept (s : ρ × Log console) : Prop where
  forgets : d.Forgets id s.2
  shows : k.Shows id (fun status => status = .deleteComplete → d.TakenDown id s.2) s.1
  claimed : claim → d.TakenDown id s.2

variable {k d id claim} {α : Type} {records records' : ρ} {log : Log console}
  {s : ρ × Log console} {c : Cluster}

theorem Kept.weaken (h : Kept k d id claim s) : Kept k d id False s :=
  ⟨h.forgets, h.shows, False.elim⟩

theorem kept_idle (q : ConsoleRequest) (a : q.Answer) (records : ρ) (log : Log console)
    (idle : q.Idle) (h : Kept k d id claim (records, log)) :
    Kept k d id claim (records, log ++ [⟨q, a⟩]) where
  forgets := h.forgets.concat fun other a is => by
    cases is
    exact idle.elim
  shows := h.shows.mono fun _ taken is => (taken is).append _
  claimed held := (h.claimed held).append _

theorem kept_tends (q : ConsoleRequest) (a : q.Answer) (s s' : ρ × Log console) (idle : q.Idle)
    (now : Kept k d id claim s) (tended : Logged k.Tends q s a s') : Kept k d id claim s' :=
  idle_tends kept_idle q a s s' idle now tended

/-- The services are asked, and what is stored then is known. -/
theorem Kept.asked {recent : Log services} (h : Kept k d id claim (records, log))
    (shown : k.Shows id
      (fun status => status = .deleteComplete → d.TakenDown id (log ++ asked recent)) records') :
    Kept k d id claim (records', log ++ asked recent) where
  forgets := h.forgets.asked recent
  shows := shown
  claimed held := (h.claimed held).append _

section
variable (faithful : k.Faithful id)
include faithful

/-- Operations that save nothing new of a deleted cluster. -/
theorem stays_only {Q : α → Prop} {op : Operation α}
    (only : op.Only
      (Keeper.Fits id fun status => status = .deleteComplete → d.TakenDown id log) Q)
    (now : Kept k d id claim (records, log)) :
    Stays k (Kept k d id claim) (fun a _ => Q a) (liftM op) (records, log) := by
  let I (s : ρ × Log services) : Prop :=
    k.Shows id (fun status => status = .deleteComplete → d.TakenDown id log) s.1
  refine stays_operation (I := I) (only.keeps (fun q s a s' fits shown answered => ?_) now.shows)
    fun s shown => now.asked (shown.mono fun _ taken is => (taken is).append _)
  have after := Keeper.Shows.exchange faithful shown fits answered.1
  exact ⟨after, after⟩

/-- A status pass over the record that has just been loaded. -/
theorem stays_statusPass (loaded : k.load id records = .ok c)
    (now : Kept k d id claim (records, log)) :
    Stays k (Kept k d id False)
      (fun c' s => c'.uuid = id ∧ (c'.status = .deleteComplete → d.TakenDown id s.2))
      (pass d.updateClusterStatus c) (records, log ++ [⟨.load id, .ok c⟩]) := by
  have after := kept_idle (.load id) (.ok c) records log trivial now.weaken
  obtain ⟨mine, taken⟩ := now.shows c loaded
  subst mine
  have guards := Deployment.guarding_updateClusterStatus (d := d) faithful after.shows
  -- The pass takes the cluster down in the log of the services; the load stands right before it.
  have takes (recent : Log services) (completes : d.Completes c recent) :
      d.TakenDown c.uuid (log ++ [⟨.load c.uuid, .ok c⟩] ++ asked recent) := by
    obtain ⟨deleting, first, rest, takedown, rfl⟩ := completes
    refine ⟨c, first, log, asked rest, rfl, deleting, takedown, ?_⟩
    rw [List.append_assoc, asked, asked, asked, List.map_append]
    rfl
  have passes := stays_pass (J := Kept k d c.uuid False)
    (I := Guarded k d c (d.TakenDown c.uuid (log ++ [⟨.load c.uuid, .ok c⟩])))
    (Q := fun c' recent => d.Declares c c' recent)
    (guards.imp (fun _ _ _ h => h.2) fun _ _ _ h => h)
    fun s guarded => after.asked (guarded.2.mono fun _ shown is =>
      (shown is).elim (fun before => before.append _) (takes s.2))
  refine passes.mono (fun _ h => h) ?_
  rintro c' s - ⟨recent, grown, declares⟩
  refine ⟨declares.uuid, fun deleted => ?_⟩
  rw [grown]
  rcases declares.deleted deleted with before | completes
  · exact ((taken before).append _).append _
  · exact takes recent completes

/-- A record is removed only where its cluster has been taken down. -/
theorem stays_forgetDeleted (mine : c.uuid = id)
    (now : Kept k d id (c.status = .deleteComplete) s) :
    Stays k (Kept k d id False) (fun _ _ => True) (forgetDeleted c) s := by
  subst mine
  unfold forgetDeleted
  split
  next deleted =>
    refine Upholds.bind (B := fun _ _ => True) ?_ fun _ s now _ => upholds_say kept_tends _ now
    refine upholds_ofResult ?_
    rintro a ⟨records', log'⟩ ⟨tended, rfl⟩
    have shown := now.shows.mono fun _ taken is => (taken is).append [⟨.forget c.uuid, a⟩]
    have after : Kept k d c.uuid False (records', s.2 ++ [⟨.forget c.uuid, a⟩]) := by
      refine ⟨now.forgets.concat fun _ _ _ => now.claimed deleted, ?_, False.elim⟩
      cases tended with
      | refused => exact shown
      | forgotten | lost => exact shown.same (faithful.removed s.1)
    exact ⟨after, after, fun _ _ => trivial⟩
  next => exact upholds_pure now.weaken trivial

/-- What a status command says, and what it then does about the record. -/
theorem stays_report (mine : c.uuid = id) (now : Kept k d id False s)
    (claimed : c.status = .deleteComplete → d.TakenDown id s.2) :
    Stays k (Kept k d id False) (fun _ _ => True)
      (sayCluster c >>= fun _ => forgetDeleted c) s := by
  have claiming : Kept k d id (c.status = .deleteComplete) s := ⟨now.forgets, now.shows, claimed⟩
  have line : Stays k (Kept k d id (c.status = .deleteComplete)) (fun _ _ => True)
      (sayCluster c) s := upholds_sayCluster kept_tends c claiming
  refine Upholds.bind (B := fun _ s => Kept k d id (c.status = .deleteComplete) s)
    (line.mono (fun _ h => h.weaken) fun _ _ now _ => now) ?_
  intro _ s _ claiming
  exact stays_forgetDeleted faithful mine claiming

theorem stays_status (now : Kept k d id False (records, log)) :
    Stays k (Kept k d id False) (fun _ _ => True) (status d id) (records, log) := by
  unfold status
  refine (stays_load kept_idle id now).bind ?_
  rintro c _ - ⟨loaded, rfl⟩
  refine (stays_statusPass faithful loaded now).bind ?_
  rintro c' s now ⟨mine, taken⟩
  exact stays_report faithful mine now taken

theorem stays_watch (timeout interval : Nat) (now : Kept k d id False s) :
    Stays k (Kept k d id False) (fun _ _ => True) (watch d id timeout interval) s := by
  unfold watch
  refine Upholds.bind (B := fun c' s =>
    c'.uuid = id ∧ (c'.status = .deleteComplete → d.TakenDown id s.2)) ?_ ?_
  · refine upholds_poll kept_tends ?_ now
    rintro ⟨records, log⟩ now
    refine (stays_load kept_idle id now).bind ?_
    rintro c _ - ⟨loaded, rfl⟩
    refine (stays_statusPass faithful loaded now).bind ?_
    rintro c' s now ⟨mine, taken⟩
    have claiming : Kept k d id (c'.status = .deleteComplete) s := ⟨now.forgets, now.shows, taken⟩
    have line : Stays k (Kept k d id (c'.status = .deleteComplete)) (fun _ _ => True)
        (say ("  " ++ c'.status.toString ++ " (" ++ c'.name ++ ")")) s :=
      upholds_say kept_tends _ claiming
    refine Upholds.bind (B := fun _ s => Kept k d id (c'.status = .deleteComplete) s)
      (line.mono (fun _ h => h.weaken) fun _ _ now _ => now) ?_
    intro _ s now claiming
    refine upholds_pure now ?_
    intro c'' found
    split at found
    · cases found
      exact ⟨mine, claiming.claimed⟩
    · cases found
  · rintro c' s now ⟨mine, taken⟩
    exact stays_report faithful mine now taken

theorem stays_create (mine : c.uuid = id) (now : Kept k d id False (records, log)) :
    Stays k (Kept k d id False) (fun _ _ => True) (create d c) (records, log) := by
  have saves : (Operation.saveCluster c.started).Only
      (Keeper.Fits id fun status => status = .deleteComplete → d.TakenDown id log)
      Operation.Anything :=
    Operation.only_mk (Operation.only_ask ⟨mine, nofun⟩)
  unfold create
  refine (stays_only faithful saves now).bind ?_
  rintro _ ⟨records, log⟩ now -
  have applies : (d.createCluster c.started).Only
      (Keeper.Fits id fun status => status = .deleteComplete → d.TakenDown id log)
      Operation.Anything :=
    Deployment.only_createCluster d c.started
      (fun _ elsewhere _ => Keeper.fits_of_elsewhere elsewhere) fun _ _ _ _ _ => trivial
  refine (stays_only faithful applies now).bind fun _ s now _ => ?_
  refine (upholds_say kept_tends _ now).bind fun _ s now _ => ?_
  refine (upholds_say kept_tends _ now).bind fun _ s now _ => ?_
  refine (upholds_say kept_tends _ now).bind fun _ s now _ => ?_
  exact upholds_say kept_tends _ now

omit faithful in
/-- What is done with a record that has been loaded. -/
theorem stays_loaded {f : Cluster → Errand Unit}
    (rest : ∀ c records log, c.uuid = id → Kept k d id (c.status = .deleteComplete) (records, log) →
      Stays k (Kept k d id (c.status = .deleteComplete)) (fun _ _ => True) (f c) (records, log))
    (now : Kept k d id False (records, log)) :
    Stays k (Kept k d id False) (fun _ _ => True) (load id >>= f) (records, log) := by
  refine (stays_load kept_idle id now).bind ?_
  rintro c _ after ⟨loaded, rfl⟩
  obtain ⟨mine, taken⟩ := now.shows c loaded
  have claiming : Kept k d id (c.status = .deleteComplete) (records, log ++ [⟨.load id, .ok c⟩]) :=
    ⟨after.forgets, after.shows, fun is => (taken is).append _⟩
  exact (rest c records _ mine claiming).mono (fun _ h => h.weaken) fun _ _ _ h => h

theorem stays_delete (now : Kept k d id False (records, log)) :
    Stays k (Kept k d id False) (fun _ _ => True) (delete d id) (records, log) := by
  unfold delete
  refine stays_loaded (fun c records log mine now => ?_) now
  refine (upholds_say kept_tends _ now).bind ?_
  rintro _ ⟨records, log⟩ now -
  have deletes : (d.deleteCluster c).Only
      (Keeper.Fits id fun status => status = .deleteComplete → d.TakenDown id log)
      Operation.Anything := Deployment.only_deleteCluster d c fun _ _ => trivial
  refine (stays_only faithful deletes now).bind ?_
  rintro _ ⟨records, log⟩ now -
  have saves : (Operation.saveCluster { c with status := .deleteInProgress }).Only
      (Keeper.Fits id fun status => status = .deleteComplete → d.TakenDown id log)
      Operation.Anything :=
    Operation.only_mk (Operation.only_ask ⟨mine, nofun⟩)
  refine (stays_only faithful saves now).bind fun _ s now _ => ?_
  refine (upholds_say kept_tends _ now).bind fun _ s now _ => ?_
  exact upholds_say kept_tends _ now

theorem stays_createGroup (g : NodeGroup) (now : Kept k d id False (records, log)) :
    Stays k (Kept k d id False) (fun _ _ => True) (createGroup d id g) (records, log) := by
  unfold createGroup
  refine stays_loaded (fun c records log mine now => ?_) now
  split
  next => exact upholds_throw _ now
  next =>
    let I (s : ρ × Log services) : Prop :=
      k.Shows id (fun status => status = .deleteComplete → d.TakenDown id log) s.1
    have only := Deployment.only_addNodeGroup d c
      (G := Keeper.Fits id fun status => status = .deleteComplete → d.TakenDown id log)
      (fun q => Keeper.fits_of_elsewhere) g
      fun living => ⟨mine, fun is =>
        absurd (congrArg Status.action is) (Cluster.declaring_living living g)⟩
    have keeps : Pass.Keeps (Freely k) (fun _ _ _ s => I s) (fun _ _ => I)
        (fun _ _ s => True ∧ I s) (d.addNodeGroup g) c (records, []) := by
      refine (only.keeps (J := I) (fun q s a s' fits shown answered => ?_) now.shows).imp
        (fun _ _ _ h => h.2) fun _ _ _ h => h
      have after := Keeper.Shows.exchange faithful shown fits answered.1
      exact ⟨after, after⟩
    refine (stays_pass (Q := fun _ _ => True) keeps fun s shown =>
      now.asked (shown.mono fun _ taken is => (taken is).append _)).bind ?_
    intro c' s now _
    refine (upholds_say kept_tends _ now).bind fun _ s now _ => ?_
    exact upholds_say kept_tends _ now

omit faithful in
theorem stays_group (name : String) (now : Kept k d id claim s) :
    Stays k (Kept k d id claim) (fun _ _ => True) (group c name) s := by
  unfold group
  split
  · exact upholds_pure now trivial
  · exact upholds_throw _ now

theorem stays_deleteGroup (name : String) (now : Kept k d id False (records, log)) :
    Stays k (Kept k d id False) (fun _ _ => True) (deleteGroup d id name) (records, log) := by
  unfold deleteGroup
  refine stays_loaded (fun c records log mine now => ?_) now
  refine (stays_group name now).bind ?_
  rintro g ⟨records, log⟩ now -
  have deletes : (d.deleteNodeGroup c g).Only
      (Keeper.Fits id fun status => status = .deleteComplete → d.TakenDown id log)
      Operation.Anything := Deployment.only_deleteNodeGroup d c g fun _ _ => trivial
  refine (stays_only faithful deletes now).bind ?_
  rintro _ ⟨records, log⟩ now -
  have saves : (Operation.saveCluster
      { c with nodeGroups := c.nodeGroups.filter (·.name ≠ name) }).Only
      (Keeper.Fits id fun status => status = .deleteComplete → d.TakenDown id log)
      Operation.Anything :=
    Operation.only_mk (Operation.only_ask ⟨mine, now.claimed⟩)
  refine (stays_only faithful saves now).bind fun _ s now _ => ?_
  exact upholds_say kept_tends _ now

theorem stays_groupStatus (name : String) (now : Kept k d id False (records, log)) :
    Stays k (Kept k d id False) (fun _ _ => True) (groupStatus d id name) (records, log) := by
  unfold groupStatus
  refine stays_loaded (fun c records log mine now => ?_) now
  refine (stays_group name now).bind ?_
  rintro g ⟨records, log⟩ now -
  have looks : (d.updateNodeGroupStatus c g).Only
      (Keeper.Fits id fun status => status = .deleteComplete → d.TakenDown id log)
      (fun g' => g'.post = g.post) :=
    Deployment.only_updateNodeGroupStatus d c (fun _ => trivial) g fun _ _ => mine
  refine (stays_only faithful looks now).bind fun g s now _ => ?_
  exact upholds_sayGroup kept_tends g now

theorem stays_command {errand : Errand Unit} (concerns : errand.Concerns d id)
    (now : Kept k d id False (records, log)) :
    Stays k (Kept k d id False) (fun _ _ => True) errand (records, log) := by
  cases concerns with
  | create c mine => exact stays_create faithful mine now
  | delete => exact stays_delete faithful now
  | status => exact stays_status faithful now
  | watch timeout interval => exact stays_watch faithful timeout interval now
  | createGroup g => exact stays_createGroup faithful g now
  | deleteGroup name => exact stays_deleteGroup faithful name now
  | groupStatus name => exact stays_groupStatus faithful name now

end

end

end Errand

section
variable {ρ : Type} {k : Keeper ρ} {d : Deployment}

theorem Session.kept {id : Uuid} {log : Log console} {records : ρ} (faithful : k.Faithful id)
    (h : Session k d id log records) : Errand.Kept k d id False (records, log) := by
  induction h with
  | start unrecorded =>
    exact ⟨Deployment.forgets_nil, fun c loaded => absurd loaded (unrecorded c), False.elim⟩
  | command _ concerns reached ih =>
    exact (Errand.stays_command faithful concerns ih).at_reached ih reached

/-- A cluster's access to the cloud outlives the cluster. Whatever is done to it, access is taken
only in a pass over a cluster that is being deleted, and only after the pass has looked for the
cluster and found it gone; the record becomes that of a deleted cluster, in hand or in the store, only
after a pass has taken all of it; and whatever commands there are from the first on, the record is
removed only after such a pass. -/
theorem access_outlives_cluster (c : Cluster) (faithful : k.Faithful c.uuid) :
    (∀ episodes records, Course k d c episodes records → (∀ e ∈ episodes, e.Rightful d) ∧
      k.Shows c.uuid (fun status => status = .deleteComplete → ∃ e ∈ episodes, e.Completes d)
        records) ∧
    ∀ log records, Session k d c.uuid log records → d.Forgets c.uuid log :=
  ⟨fun _ _ course => course.rightful faithful, fun _ _ session => (session.kept faithful).forgets⟩

theorem Session.whole {id : Uuid} {s : ρ × Log console} {errand : Errand Unit}
    {answer : (q : ConsoleRequest) → ρ × Log console → q.Answer × ρ × Log console}
    (acts : ∀ q s, Logged k.Tends q s (answer q s).1 (answer q s).2)
    (before : Session k d id s.2 s.1) (concerns : errand.Concerns d id) :
    Session k d id (errand.run.run answer s).2.2 (errand.run.run answer s).2.1 :=
  before.command concerns (reaches_run acts errand.run s)

theorem Course.whole {c c' : Cluster} {episodes : List Episode} {records : ρ}
    {answer : (q : ServiceRequest) → ρ × Log services → q.Answer × ρ × Log services}
    (acts : ∀ q s, Freely k q s (answer q s).1 (answer q s).2)
    (before : Course k d c episodes records) (follows : c.Follows c') :
    ∃ log left, Course k d c (episodes ++ [.pass c' log left])
      (((d.updateClusterStatus.run.run c').run answer (records, [])).2.1) :=
  ⟨_, _, before.pass follows (reaches_run acts (d.updateClusterStatus.run.run c') (records, []))⟩

/-- Nothing is there that is asked for, and all else succeeds. -/
def bare (q : ServiceRequest) (s : Records × Log services) : q.Answer × Records × Log services :=
  let (a, records) : q.Answer × Records := match q with
    | .get t => (.error (.notFound t.kind t.name), s.1)
    | .findCredential _ name => (.error (.notFound "ApplicationCredential" name), s.1)
    | .createCredential _ name _ => (.ok { id := "", name, secret := some "" }, s.1)
    | .apply _ | .delete _ | .deleteCredential .. => (.ok (), s.1)
    | .saveCluster c => Keeper.memory.save c s.1
    | .saveNodeGroup id g => Keeper.memory.saveNodeGroup id g s.1
  (a, records, s.2 ++ [⟨q, a⟩])

theorem freely_bare (q : ServiceRequest) (s : Records × Log services) :
    Freely .memory q s (bare q s).1 (bare q s).2 := by
  cases q with
  | saveCluster c => exact ⟨.saved c s.1, rfl⟩
  | saveNodeGroup id g => exact ⟨.savedGroup id g s.1, rfl⟩
  | _ => exact ⟨.other _ s.1 id, rfl⟩

/-- The same at a console. -/
def bareConsole (q : ConsoleRequest) (s : Records × Log console) :
    q.Answer × Records × Log console :=
  let (a, records) : q.Answer × Records := match q with
    | .service q => ((bare q (s.1, [])).1, (bare q (s.1, [])).2.1)
    | .load id => (Keeper.memory.load id s.1, s.1)
    | .forget id => Keeper.memory.remove id s.1
    | .say _ | .sleep _ => ((), s.1)
    | .time => ((0 : Nat), s.1)
  (a, records, s.2 ++ [⟨q, a⟩])

theorem tends_bareConsole (q : ConsoleRequest) (s : Records × Log console) :
    Logged Keeper.memory.Tends q s (bareConsole q s).1 (bareConsole q s).2 := by
  cases q with
  | service q => exact ⟨.service (freely_bare q (s.1, [])).1, rfl⟩
  | load id => exact ⟨.loaded id s.1, rfl⟩
  | forget id => exact ⟨.forgotten id s.1, rfl⟩
  | say line => exact ⟨.said line s.1, rfl⟩
  | time => exact ⟨.timed 0 s.1, rfl⟩
  | sleep milliseconds => exact ⟨.slept milliseconds s.1, rfl⟩

/-- Some request of the log is to remove a record. -/
def removesSome (log : Log console) : Bool :=
  log.any fun x => match x.request with
    | .forget _ => true
    | _ => false

theorem forgets_of_removesSome {log : Log console} (h : removesSome log) :
    ∃ before id a after, log = before ++ ⟨.forget id, a⟩ :: after := by
  obtain ⟨⟨q, a⟩, member, removes⟩ := List.any_eq_true.1 h
  cases q with
  | forget id =>
    obtain ⟨before, after, split⟩ := List.append_of_mem member
    exact ⟨before, id, a, after, split⟩
  | _ => cases removes

theorem access_outlives_cluster_sample :
    let d := Deployment.sample
    let c := Cluster.sample .nil
    let k := Keeper.memory
    k.Faithful c.uuid ∧
      (∃ episodes records, Course k d c episodes records ∧ ∃ e ∈ episodes, e.Completes d) ∧
      ∃ log records, Session k d c.uuid log records ∧ d.TakenDown c.uuid log := by
  intro d c k
  have faithful : k.Faithful c.uuid := Keeper.faithful_memory c.uuid
  obtain ⟨course, session⟩ := access_outlives_cluster (d := d) c faithful
  refine ⟨faithful, ?_, ?_⟩
  · let c' := { c with status := .deleteInProgress }
    have start : Course k d c [] [(c.uuid, c')] := .start fun x loaded => by
      cases loaded
      exact ⟨rfl, nofun⟩
    have follows : c.Follows c' := ⟨rfl, rfl⟩
    obtain ⟨records, ⟨log, left, passes⟩, stored⟩ : ∃ records,
        (∃ log left, Course k d c ([] ++ [.pass c' log left]) records) ∧
          (k.load c.uuid records).toOption.map (·.status) = some .deleteComplete :=
      ⟨_, start.whole freely_bare follows, by decide +kernel⟩
    obtain ⟨-, shown⟩ := course _ _ passes
    cases loaded : k.load c.uuid records with
    | error e =>
      rw [loaded] at stored
      cases stored
    | ok x =>
      rw [loaded] at stored
      exact ⟨_, _, passes, (shown x loaded).2 (Option.some_inj.1 stored)⟩
  · have start : Session k d c.uuid [] ([] : Records) := .start fun x loaded => by
      simp only [k, Keeper.memory, Records.load, List.lookup_nil, reduceCtorEq] at loaded
    have creates := Session.whole (s := ([], [])) tends_bareConsole start (.create c rfl)
    have deletes := creates.whole tends_bareConsole .delete
    have looks := deletes.whole tends_bareConsole .status
    obtain ⟨log, records, looks, removes⟩ : ∃ log records, Session k d c.uuid log records ∧
        removesSome log = true := ⟨_, _, looks, by decide +kernel⟩
    obtain ⟨before, id, a, after, rfl⟩ := forgets_of_removesSome removes
    exact ⟨_, _, looks, (session _ _ looks before id a after rfl).append _⟩

end

end ClusterLifecycle
