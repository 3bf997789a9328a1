import ClusterLifecycle.Proofs.Rosters

/-!
Every machine of a cluster belongs to a group that its stored record lists, over whole runs.

* `Upholds` of each command: what is stored accounts for the machines at every point;
* `Operated`: commands one after another, each cut short anywhere;
* `machines_listed`: where no record takes the place of one that lists more of the machines that
  there are, and no name stands for two roles, all stay listed, and a deletion reaches them;
* `unlisted_of_ambiguous`: what may happen under a name that stands for two.
-/

namespace ClusterLifecycle

open Program

theorem Cluster.roster_started (c : Cluster) : c.started.roster = c.roster := by
  rw [roster, started, List.map_map]
  rfl

theorem Cluster.started_living (c : Cluster) : c.started.status.action ≠ .delete := nofun

namespace Errand

open World

section
variable {ρ α β : Type} {k : Keeper ρ} {d : Deployment} {id : Uuid} {c c' : Cluster}
  {g : NodeGroup} {w : World ρ} {name : String}

/-- A record is loaded as it is stored, or not at all. -/
theorem upholds_loaded {P : α → World ρ → Prop} {f : Cluster → Errand α}
    (faithful : k.Faithful id) (now : Tallied k d id w)
    (rest : ∀ c w, k.Faithful c.uuid → c.uuid = id → InHand k d c w →
      Upholds (Faces k) (Tallied k d c.uuid) P (f c) w) :
    Upholds (Faces k) (Tallied k d id) P (load id >>= f) w := by
  refine Upholds.bind (B := fun c w => c.uuid = id ∧ InHand k d c w) ?_ ?_
  · apply upholds_ofResult
    rintro (a : Result Cluster) w' ⟨records, rfl, tended⟩
    cases tended with
    | unloaded id e =>
      refine ⟨now, now, ?_⟩
      rintro c ⟨⟩
    | loaded => exact ⟨now, now, fun c loaded => now.inHand loaded⟩
  · rintro c w - ⟨rfl, held⟩
    exact rest c w faithful rfl held

/-- What keeps a record in hand comes before the rest. -/
theorem upholds_first {B : β → World ρ → Prop} {P : α → World ρ → Prop} {errand : Errand β}
    {f : β → Errand α} (first : Upholds (Faces k) (InHand k d c) B errand w)
    (rest : ∀ b w, B b w → InHand k d c w → Upholds (Faces k) (Tallied k d c.uuid) P (f b) w) :
    Upholds (Faces k) (Tallied k d c.uuid) P (errand >>= f) w := by
  refine Upholds.bind (B := fun b w => B b w ∧ InHand k d c w) ?_ ?_
  · exact first.mono (fun _ now => now.tallied) fun b w now done => ⟨done, now⟩
  · rintro b w - ⟨done, now⟩
    exact rest b w done now

/-- The group of a name, where the record has one. -/
theorem upholds_group (now : InHand k d c w) :
    Upholds (Faces k) (InHand k d c) (fun g _ => g ∈ c.nodeGroups ∧ g.name = name)
      (group c name) w := by
  unfold group
  split
  next g found =>
    have named := List.find?_some found
    exact upholds_pure now ⟨List.mem_of_find?_eq_some found, of_decide_eq_true named⟩
  next => exact upholds_throw _ now

section
variable (faithful : k.Faithful c.uuid)
include faithful

/-- Harmless requests keep a record in hand. -/
theorem keeps_harmless {P : α → Prop} {op : Operation α} (only : op.Only (Harmless d c) P)
    (now : InHand k d c w) :
    op.Keeps (Amid k) (fun _ _ _ w' => InHand k d c w') (fun _ => InHand k d c)
      (fun a w' => P a ∧ InHand k d c w') w := by
  refine only.keeps ?_ now
  intro q w a w' harmless now answered
  have after := now.amid faithful harmless answered
  exact ⟨after, after⟩

theorem upholds_harmless {P : α → Prop} {op : Operation α} (only : op.Only (Harmless d c) P)
    (now : InHand k d c w) :
    Upholds (Faces k) (InHand k d c) (fun a _ => P a) (liftM op) w :=
  upholds_operation (keeps_harmless faithful only now)

/-- A record that accounts for the machines is saved in the place of any other. -/
theorem upholds_save (now : Tallied k d c.uuid w) (accounts : Accounts d c w) :
    Upholds (Faces k) (Tallied k d c.uuid) (fun _ => InHand k d c)
      (liftM (Operation.saveCluster c)) w :=
  upholds_operation ((keeps_save faithful now accounts).imp_ok fun _ _ held => ⟨held, held.tallied⟩)

/-- The record of a cluster without machines may be removed. -/
theorem upholds_forgetDeleted (now : InHand k d c w) :
    Upholds (Faces k) (Tallied k d c.uuid) (fun _ _ => True) (forgetDeleted c) w := by
  unfold forgetDeleted
  split
  next deleted =>
    have none : Manned d c.uuid [] w := now.accounts.cleared (congrArg Status.action deleted)
    have removed : Tallied k d c.uuid { w with records := (k.remove c.uuid w.records).2 } := by
      refine ⟨?_, fun _ => none⟩
      intro x loaded
      have before := now.tallied.recorded x (faithful.removed w.records x loaded)
      exact before.imp_right fun accounts => accounts.thin fun _ there => there
    refine Upholds.bind (B := fun _ _ => True) ?_ fun _ w now _ => upholds_say faces_idle _ now
    apply upholds_ofResult
    rintro a w' ⟨records, rfl, tended⟩
    cases tended with
    | refused => exact ⟨now.tallied, now.tallied, fun _ _ => trivial⟩
    | forgotten | lost => exact ⟨removed, removed, fun _ _ => trivial⟩
  next => exact upholds_pure now.tallied trivial

/-- What a status command says, and what it then does about the record. -/
theorem upholds_report (now : InHand k d c w) :
    Upholds (Faces k) (Tallied k d c.uuid) (fun _ _ => True)
      (sayCluster c >>= fun _ => forgetDeleted c) w :=
  upholds_first (upholds_sayCluster faces_idle c now) fun _ _ _ now =>
    upholds_forgetDeleted faithful now

/-- A status pass over the record in hand leaves a later state of it. -/
theorem upholds_statusPass (now : InHand k d c w) :
    Upholds (Faces k) (InHand k d c) (fun c' _ => c.Pursues c') (pass d.updateClusterStatus c)
      w := by
  have only : d.updateClusterStatus.Only (Harmless d c) c.Pursues (fun _ => c.Pursues) c := by
    apply Deployment.only_updateClusterStatus
    · exact fun _ keeps applies => harmless_of_other keeps applies
    · exact fun _ pursues => pursues
    · exact fun _ listed => ⟨rfl, listed⟩
  apply upholds_pass
  have keeps := only.keeps (R := behind (Faces k)) (T := fun _ _ _ w' => InHand k d c w')
    (J := InHand k d c) (fun q w a w' harmless now answered =>
      have after := now.amid faithful harmless answered
      ⟨after, after⟩) now
  exact keeps.imp (fun _ _ _ ends => ends.2) fun _ _ _ ends => ends

/-- A group of a new name is declared before any of its objects is applied. -/
theorem upholds_addNodeGroup (now : InHand k d c w)
    (fresh : ∀ h ∈ c.nodeGroups, h.name ≠ g.name) :
    Upholds (Faces k) (Tallied k d c.uuid) (fun _ _ => True) (pass (d.addNodeGroup g) c) w := by
  apply upholds_pass
  rw [Deployment.addNodeGroup_eq, Pass.keeps_bind, Pass.keeps_get]
  split
  next => exact now.tallied
  next living =>
    have accounts : Accounts d (c.declaring g) w := by
      refine ⟨Cluster.unambiguous_declaring now.accounts.unambiguous fresh, ?_, ?_⟩
      · exact now.accounts.manned.mono fun h member => List.mem_append_left _ member
      · intro deleting
        exact absurd deleting (Cluster.declaring_living living g)
    rw [Pass.keeps_bind, Pass.keeps_set, Pass.keeps_bind, Pass.keeps_lift]
    refine (keeps_save (c := c.declaring g) faithful now.tallied accounts).imp_ok fun _ w held => ?_
    have only : (d.createNodeGroup (c.declaring g) g).Only (Harmless d (c.declaring g))
        Operation.Anything := by
      unfold Deployment.createNodeGroup
      rw [Deployment.provision_eq]
      apply Deployment.only_applyParts
      intro p member m drawn
      have own := (Deployment.manifest_facts drawn).1
      have declared : g ∈ (c.declaring g).nodeGroups := List.mem_append_right _ List.mem_cons_self
      refine ⟨Cluster.declaring_living living g, fun h machine => ?_⟩
      exact ⟨g, declared, Deployment.machines_of_group member own machine⟩
    rw [Pass.keeps_lift]
    have applies := keeps_harmless (c := c.declaring g) faithful only held
    exact applies.mono (fun _ _ _ _ held => held.tallied) (fun _ _ held => held.tallied)
      fun _ _ ends => ⟨trivial, ends.2.tallied⟩

end

section
variable (faithful : k.Faithful id) (now : Tallied k d id w)
include faithful now

/-- Creating is in order where the new record accounts for the machines that there are. -/
theorem upholds_create (mine : c.uuid = id) (unambiguous : c.Unambiguous)
    (covers : Manned d id c.nodeGroups w) :
    Upholds (Faces k) (Tallied k d id) (fun _ _ => True) (create d c) w := by
  subst mine
  have accounts : Accounts d c.started w := by
    refine ⟨?_, covers.of_roster c.roster_started, fun is => absurd is c.started_living⟩
    rw [Cluster.Unambiguous, c.roster_started]
    exact unambiguous
  have applies : (d.createCluster c.started).Only (Harmless d c.started) Operation.Anything := by
    apply Deployment.only_createCluster
    · exact fun _ keeps applies => harmless_of_other keeps applies
    · intro p member credential m drawn
      refine ⟨c.started_living, fun g machine => ?_⟩
      exact Deployment.machines_of_parts member (Deployment.manifest_facts drawn).1 machine
  unfold create
  apply (upholds_save (c := c.started) faithful now accounts).bind
  intro _ w _ now
  apply upholds_first (upholds_harmless (c := c.started) faithful applies now)
  intro _ w _ now
  have now := now.tallied
  apply (upholds_say faces_idle _ now).bind
  intro _ w now _
  apply (upholds_say faces_idle _ now).bind
  intro _ w now _
  apply (upholds_say faces_idle _ now).bind
  intro _ w now _
  exact upholds_say faces_idle _ now

theorem upholds_delete : Upholds (Faces k) (Tallied k d id) (fun _ _ => True) (delete d id) w := by
  unfold delete
  apply upholds_loaded faithful now
  intro c w faithful mine now
  apply upholds_first (upholds_say faces_idle _ now)
  intro _ w _ now
  have deletes := upholds_operation (R := Faces k) (keeps_deleteCluster_machines faithful now)
  apply upholds_first deletes
  intro _ w none now
  have accounts : Accounts d { c with status := .deleteInProgress } w :=
    ⟨now.accounts.unambiguous, now.accounts.manned, fun _ => none⟩
  apply (upholds_save (c := { c with status := .deleteInProgress }) faithful now.tallied
    accounts).bind
  intro _ w now _
  apply (upholds_say faces_idle _ now).bind
  intro _ w now _
  exact upholds_say faces_idle _ now

theorem upholds_status : Upholds (Faces k) (Tallied k d id) (fun _ _ => True) (status d id) w := by
  unfold status
  apply upholds_loaded faithful now
  intro c w faithful mine now
  apply upholds_first (upholds_statusPass faithful now)
  intro c' w pursues now
  rw [← pursues.uuid] at faithful ⊢
  exact upholds_report faithful (now.pursues pursues)

theorem upholds_watch (timeout interval : Nat) :
    Upholds (Faces k) (Tallied k d id) (fun _ _ => True) (watch d id timeout interval) w := by
  unfold watch
  refine Upholds.bind (B := fun c' w => c'.uuid = id ∧ InHand k d c' w) ?_ ?_
  · refine upholds_poll faces_idle (fun w now => ?_) now
    apply upholds_loaded faithful now
    intro c w faithful mine now
    apply upholds_first (upholds_statusPass faithful now)
    intro c' w pursues now
    apply upholds_first (upholds_say faces_idle _ now)
    intro _ w _ now
    refine upholds_pure now.tallied ?_
    intro c'' found
    split at found
    · cases found
      exact ⟨pursues.uuid.trans mine, now.pursues pursues⟩
    · cases found
  · rintro c' w - ⟨rfl, held⟩
    exact upholds_report faithful held

theorem upholds_createGroup (g : NodeGroup) :
    Upholds (Faces k) (Tallied k d id) (fun _ _ => True) (createGroup d id g) w := by
  unfold createGroup
  apply upholds_loaded faithful now
  intro c w faithful mine now
  split
  next => exact upholds_throw _ now.tallied
  next absent =>
    have fresh (h : NodeGroup) (member : h ∈ c.nodeGroups) : h.name ≠ g.name := by
      intro same
      exact absent (List.find?_isSome.2 ⟨h, member, decide_eq_true same⟩)
    apply (upholds_addNodeGroup faithful now fresh).bind
    intro c' w now _
    apply (upholds_say faces_idle _ now).bind
    intro _ w now _
    exact upholds_say faces_idle _ now

/-- The objects of the first group of a name are those of all of them. -/
theorem upholds_deleteGroup (name : String) :
    Upholds (Faces k) (Tallied k d id) (fun _ _ => True) (deleteGroup d id name) w := by
  unfold deleteGroup
  apply upholds_loaded faithful now
  intro c w faithful mine now
  refine upholds_first (upholds_group now) ?_
  rintro g w ⟨member, rfl⟩ now
  have deletes := keeps_deletions (d := d) faithful (Deployment.named_groupParts g) now
  rw [← Deployment.deleteNodeGroup_eq] at deletes
  apply upholds_first (upholds_operation (R := Faces k) deletes)
  intro _ w gone now
  have accounts : Accounts d (c.without g.name) w := by
    refine ⟨Cluster.unambiguous_without now.accounts.unambiguous _, ?_, now.accounts.cleared⟩
    intro h t machine there
    obtain ⟨h', member', machine'⟩ := now.accounts.manned h t machine there
    refine ⟨h', Cluster.mem_without.2 ⟨member', ?_⟩, machine'⟩
    intro named
    have same : g.post = h'.post :=
      now.accounts.unambiguous _ (Cluster.mem_roster member) _ (Cluster.mem_roster member')
        named.symm
    obtain ⟨p, own, target⟩ := machine'.among same
    have listed : p ∈ (g.parts true).reverse :=
      List.mem_reverse.2 (NodeGroup.mem_parts_of_false true own)
    rw [gone t ⟨p, listed, target⟩] at there
    cases there
  apply (upholds_save (c := c.without g.name) faithful now.tallied accounts).bind
  intro _ w now _
  exact upholds_say faces_idle _ now

theorem upholds_groupStatus (name : String) :
    Upholds (Faces k) (Tallied k d id) (fun _ _ => True) (groupStatus d id name) w := by
  unfold groupStatus
  apply upholds_loaded faithful now
  intro c w faithful mine now
  refine upholds_first (upholds_group now) ?_
  rintro g w ⟨member, -⟩ now
  have looks : (d.updateNodeGroupStatus c g).Only (Harmless d c) (fun g' => g'.post = g.post) := by
    apply Deployment.only_updateNodeGroupStatus
    · exact fun _ => trivial
    · intro g' same
      refine ⟨rfl, ?_⟩
      rw [same]
      exact Cluster.mem_roster member
  apply upholds_first (upholds_harmless faithful looks now)
  intro g' w _ now
  exact upholds_sayGroup faces_idle g' now.tallied

end

/-- The commands of an operator on the cluster of that identity. The record of one that is to be
created has no name for two roles, and lists whatever machines of the cluster there are. -/
inductive Careful (d : Deployment) (id : Uuid) (w : World ρ) : Errand Unit → Prop
  | create (c : Cluster) (mine : c.uuid = id) (unambiguous : c.Unambiguous)
      (covers : Manned d id c.nodeGroups w) : Careful d id w (create d c)
  | delete : Careful d id w (delete d id)
  | status : Careful d id w (status d id)
  | watch (timeout interval : Nat) : Careful d id w (watch d id timeout interval)
  | createGroup (g : NodeGroup) : Careful d id w (createGroup d id g)
  | deleteGroup (name : String) : Careful d id w (deleteGroup d id name)
  | groupStatus (name : String) : Careful d id w (groupStatus d id name)

theorem upholds_careful {errand : Errand Unit} (faithful : k.Faithful id)
    (careful : errand.Careful d id w) (now : Tallied k d id w) :
    Upholds (Faces k) (Tallied k d id) (fun _ _ => True) errand w := by
  cases careful with
  | create c mine unambiguous covers => exact upholds_create faithful now mine unambiguous covers
  | delete => exact upholds_delete faithful now
  | status => exact upholds_status faithful now
  | watch timeout interval => exact upholds_watch faithful now timeout interval
  | createGroup g => exact upholds_createGroup faithful now g
  | deleteGroup name => exact upholds_deleteGroup faithful now name
  | groupStatus name => exact upholds_groupStatus faithful now name

end

end Errand

namespace World

variable {ρ : Type} {k : Keeper ρ} {d : Deployment} {id : Uuid} {c : Cluster} {w w' : World ρ}
  {name : String} {g h : NodeGroup} {t : ObjectRef}

/-- Commands on one cluster, each cut short anywhere, from when it had no record and no machine. -/
inductive Operated (k : Keeper ρ) (d : Deployment) (id : Uuid) : World ρ → Prop
  | start {w : World ρ} (unrecorded : ∀ c, k.load id w.records ≠ .ok c)
      (unmanned : Manned d id [] w) : Operated k d id w
  | command {w w' : World ρ} {errand : Errand Unit} {p : Program console (Except Failure Unit)}
      (before : Operated k d id w) (careful : errand.Careful d id w)
      (reached : Reaches (Faces k) errand.run w p w') : Operated k d id w'

theorem Operated.tallied (faithful : k.Faithful id) (h : Operated k d id w) :
    Tallied k d id w := by
  induction h with
  | start unrecorded unmanned =>
    exact ⟨fun c loaded => absurd loaded (unrecorded c), fun _ => unmanned⟩
  | command _ careful reached ih =>
    exact (Errand.upholds_careful faithful careful ih).at_reached ih reached

/-- Every machine of the cluster that there is belongs to a group of the stored record. -/
def Listed (k : Keeper ρ) (d : Deployment) (id : Uuid) (w : World ρ) : Prop :=
  match k.load id w.records with
  | .ok c => Manned d id c.nodeGroups w
  | .error _ => Manned d id [] w

theorem Tallied.listed (h : Tallied k d id w) : Listed k d id w := by
  unfold Listed
  cases loaded : k.load id w.records with
  | ok c =>
    obtain ⟨mine, accounts⟩ := h.recorded c loaded
    exact mine ▸ accounts.manned
  | error e =>
    apply h.unrecorded
    intro c ok
    cases loaded.symm.trans ok

/-- Where a record has been saved and all machines are listed, it lists them. -/
theorem manned_of_saved (faithful : k.Faithful c.uuid) (records : ρ)
    (saves : (k.save c records).1 = .ok ())
    (listed : Listed k d c.uuid { w with records := (k.save c records).2 }) :
    Manned d c.uuid c.nodeGroups w := by
  obtain ⟨x, stored, same⟩ := faithful.saved c records rfl saves
  unfold Listed at listed
  rw [stored] at listed
  have roster := (Cluster.pursues_of_undated same).roster
  exact (listed.thin fun _ there => there).of_roster roster.symm

/-- Creating keeps all machines listed only where its record lists those that there are. -/
theorem manned_of_created (faithful : k.Faithful c.uuid)
    (saves : (k.save c.started w.records).1 = .ok ())
    (listed : ∀ p w', Reaches (Faces k) (Errand.create d c).run w p w' → Listed k d c.uuid w') :
    Manned d c.uuid c.nodeGroups w := by
  have saved : Faces k (.service (.saveCluster c.started)) w (k.save c.started w.records).1
      { w with records := (k.save c.started w.records).2 } := amid_answer _ w
  have after := listed _ _ (.on saved (.here _ _))
  exact (manned_of_saved (c := c.started) faithful w.records saves after).of_roster
    c.roster_started.symm

/-- Whatever fails, every machine of a cluster belongs to a group that its stored record lists, and
a deletion that succeeds reaches all of them, as long as clusters are created with care. That care
is needed: where no name of a record is ambiguous, creating keeps every machine listed exactly if
the record lists those that there are. -/
theorem machines_listed (faithful : k.Faithful id) (h : Operated k d id w) :
    Listed k d id w ∧
    (∀ c w', k.load id w.records = .ok c →
      Reaches (Amid k) (d.deleteCluster c).run w (.done (.ok ())) w' → Manned d id [] w') ∧
    ∀ c, c.uuid = id → c.Unambiguous → (k.save c.started w.records).1 = .ok () →
      ((∀ p w', Reaches (Faces k) (Errand.create d c).run w p w' → Listed k d id w') ↔
        Manned d id c.nodeGroups w) := by
  have tallied := h.tallied faithful
  refine ⟨tallied.listed, ?_, ?_⟩
  · intro c w' loaded reached
    obtain ⟨rfl, held⟩ := tallied.inHand loaded
    exact ((keeps_deleteCluster_machines faithful held).at_ok reached).1
  · rintro c rfl unambiguous saves
    constructor
    · exact manned_of_created faithful saves
    · intro covers p w' reached
      have creates := Errand.upholds_create faithful tallied rfl unambiguous covers
      exact (creates.at_reached tallied reached).listed

/-- The console in front of a world in which nothing fails. -/
def obliging (q : ConsoleRequest) (w : World Records) : q.Answer × World Records :=
  match q with
  | .service q => w.answer .memory q
  | .load id => (Keeper.memory.load id w.records, w)
  | .forget id =>
    let (a, records) := Keeper.memory.remove id w.records
    (a, { w with records })
  | .say _ | .sleep _ => ((), w)
  | .time => ((0 : Nat), w)

theorem faces_obliging (q : ConsoleRequest) (w : World Records) :
    Faces .memory q w (obliging q w).1 (obliging q w).2 := by
  cases q with
  | service q => exact amid_answer q w
  | load id => exact ⟨w.records, rfl, .loaded id w.records⟩
  | forget id => exact ⟨_, rfl, .forgotten id w.records⟩
  | say line => exact ⟨w.records, rfl, .said line w.records⟩
  | time => exact ⟨w.records, rfl, .timed 0 w.records⟩
  | sleep milliseconds => exact ⟨w.records, rfl, .slept milliseconds w.records⟩

/-- A world in which a cluster of masters and workers has been created by a command. -/
def sampleOperated : World Records :=
  ((Errand.create .sample (.completeSample .nil)).run.run obliging { records := [] }).2

theorem machines_listed_sample :
    let d := Deployment.sample
    let c := Cluster.completeSample .nil
    let fewer := c.withGroups c.masters
    let k := Keeper.memory
    k.Faithful c.uuid ∧ Operated k d c.uuid sampleOperated ∧ Listed k d c.uuid sampleOperated ∧
      ¬Manned d c.uuid fewer.nodeGroups sampleOperated ∧
      ¬∀ p w', Reaches (Faces k) (Errand.create d fewer).run sampleOperated p w' →
        Listed k d c.uuid w' := by
  intro d c fewer k
  have faithful : k.Faithful c.uuid := Keeper.faithful_memory c.uuid
  have start : Operated k d c.uuid ({ records := [] } : World Records) := by
    refine .start ?_ ?_
    · rintro x ⟨⟩
    · rintro g t - ⟨⟩
  have careful : (Errand.create d c).Careful d c.uuid ({ records := [] } : World Records) := by
    refine .create c rfl (by unfold Cluster.Unambiguous; decide) ?_
    rintro g t - ⟨⟩
  have operated : Operated k d c.uuid sampleOperated :=
    start.command careful (reaches_run faces_obliging (Errand.create d c).run _)
  have uncovered : ¬Manned d c.uuid fewer.nodeGroups sampleOperated := by
    intro manned
    let worker : NodeGroup := { name := "default-worker", role := .worker, nodeCount := 2 }
    obtain ⟨t, target, there⟩ : ∃ t, d.target .machineDeployment c (some worker) = .ok t ∧
        (sampleOperated.object? t).isSome := ⟨_, rfl, by decide +kernel⟩
    have own : (.machineDeployment, some worker) ∈ worker.parts false := by decide
    have machine : d.Machines c.uuid worker t := ⟨c, rfl, _, own, target⟩
    obtain ⟨g, member, machine'⟩ := manned worker t machine there
    have master : g.role = .master := of_decide_eq_true (List.mem_filter.1 member).2
    obtain ⟨p, own, target'⟩ := machine'.among (c := c) rfl
    have kind := (Deployment.target_injective target target').1
    simp only [NodeGroup.parts, master, List.mem_cons, List.not_mem_nil, or_false] at own
    rcases own with rfl | rfl <;> cases kind
  obtain ⟨listed, -, exactly⟩ := machines_listed faithful operated
  have covered := exactly fewer rfl (by unfold Cluster.Unambiguous; decide) rfl
  exact ⟨faithful, operated, listed, uncovered, fun all => uncovered (covered.1 all)⟩

/-- Deleting a group may come to its end: the objects of the first group of the name are deleted, no
others, and all groups of the name leave the record. -/
theorem reaches_deleteGroup (stored : k.load c.uuid w.records = .ok c)
    (first : c.nodeGroup? name = some g)
    (saves : (k.save (c.without name) w.records).1 = .ok ()) :
    ∃ w' : World ρ, Reaches (Faces k) (Errand.deleteGroup d c.uuid name).run w (.done (.ok ()))
        { w' with records := (k.save (c.without name) w.records).2 } ∧
      ∀ t, ¬d.Among c (g.parts true).reverse t → w'.object? t = w.object? t := by
  have loads : Reaches (Faces k) (Errand.load c.uuid).run w (.done (.ok c)) w := by
    have answered : Faces k (.load c.uuid) w (.ok c) w :=
      ⟨w.records, rfl, stored ▸ .loaded c.uuid w.records⟩
    exact .on answered (.here _ _)
  have finds : Reaches (Faces k) (Errand.group c name).run w (.done (.ok g)) w := by
    rw [Errand.group, first]
    exact .here _ _
  obtain ⟨w', ran, records, spared⟩ :=
    run_deleteParts (k := k) (d := d) (c := c) (Deployment.named_groupParts g) w
  rw [← Deployment.deleteNodeGroup_eq] at ran
  have deletes :=
    reaches_run (R := Errand.behind (Faces k)) amid_answer (d.deleteNodeGroup c g).run w
  rw [ran] at deletes
  have saved := amid_answer (k := k) (.saveCluster (c.without name)) w'
  simp only [World.answer, records, saves] at saved
  have told (line : String) (w : World ρ) :
      Reaches (Faces k) (Errand.say line).run w (.done (.ok ())) w :=
    .on ⟨w.records, rfl, .said line w.records⟩ (.here _ _)
  refine ⟨w', ?_, spared⟩
  apply Errand.reaches_ok loads
  apply Errand.reaches_ok finds
  apply Errand.reaches_ok (Errand.reaches_operation deletes)
  exact Errand.reaches_ok (Errand.reaches_operation (.on saved (.here _ _))) (told _ _)

/-- A name must not stand for groups with different machines: deleting the first of them drops all
of them, and leaves the machines of the others. -/
theorem unlisted_of_ambiguous (faithful : k.Faithful c.uuid)
    (stored : k.load c.uuid w.records = .ok c) (first : c.nodeGroup? name = some g)
    (machine : d.Machines c.uuid h t) (named : h.name = name) (there : (w.object? t).isSome)
    (other : ¬d.Machines c.uuid g t)
    (saves : (k.save (c.without name) w.records).1 = .ok ()) :
    ∃ p w', Reaches (Faces k) (Errand.deleteGroup d c.uuid name).run w p w' ∧
      ¬Listed k d c.uuid w' := by
  obtain ⟨w', reached, spared⟩ := reaches_deleteGroup (d := d) stored first saves
  refine ⟨_, _, reached, fun listed => ?_⟩
  have apart : ¬d.Among c (g.parts true).reverse t := by
    rintro ⟨p, own, target⟩
    exact other (Deployment.machines_of_group (List.mem_reverse.1 own) target machine)
  rw [← spared t apart] at there
  have manned : Manned d c.uuid (c.without name).nodeGroups w' :=
    manned_of_saved (c := c.without name) faithful w.records saves listed
  obtain ⟨h', member, machine'⟩ := manned h t machine there
  exact (Cluster.mem_without.1 member).2 ((machine'.name_eq machine).trans named)

end World

end ClusterLifecycle
