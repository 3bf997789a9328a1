import ClusterLifecycle.Proofs.Keepers
import ClusterLifecycle.Proofs.Observing
import ClusterLifecycle.Proofs.Parts

/-!
The outcome of a status pass over a cluster that is being created or updated, when no call fails.

* `World.Settles`: what a pass has to see to settle the cluster;
* `World.Settled`: the record that it then leaves;
* `World.Stops`: where any other pass stops, which groups it has brought up to date, and what it
  returns;
* the record that is held is the one in hand, wherever a pass ends.
-/

namespace ClusterLifecycle

namespace World

variable {ρ : Type} (w : World ρ) (d : Deployment) (c : Cluster)

/-- The cluster is ready and shows where its API is served. -/
def Serves (e : Endpoint) : Prop :=
  ∃ o, w.clusterShown d c = .ok o ∧ o.lastStatus "ControlPlaneReady" = some "True" ∧
    o.endpoint = some e ∧ e.IsSet

/-- The groups as their objects show them, all of them complete. -/
def AllComplete (groups shown : List NodeGroup) : Prop :=
  groups.mapM (w.groupShown d c) = .ok shown ∧ ∀ g ∈ shown, g.status.phase = .complete

/-- What a pass has to see to settle the cluster. -/
structure Settles : Prop where
  serves : ∃ e, w.Serves d c e
  complete : ∀ g ∈ c.nodeGroups,
    ∃ shown, w.groupShown d c g = .ok shown ∧ shown.status.phase = .complete
  runs : ∀ g ∈ c.masters, ∃ version, w.Runs d c g version

/-- The record of a cluster that has settled. -/
structure Settled (c' : Cluster) : Prop where
  status : c'.status = c.status.withPhase .complete
  address : ∃ e, w.Serves d c e ∧ c'.apiAddress = some e.address
  groups : c.nodeGroups.mapM (w.groupShown d c) = .ok c'.nodeGroups
  /-- The last master counts. -/
  version : ∀ g, c.masters.getLast? = some g → ∃ v, w.Runs d c g v ∧ c'.coeVersion = some v
  kept : c.masters = [] → c'.coeVersion = c.coeVersion
  rest : { c' with
    status := c.status, apiAddress := c.apiAddress, coeVersion := c.coeVersion
    nodeGroups := c.nodeGroups } = c

/-- Where a pass stops short of settling the cluster: the groups as it leaves them, and what it
returns. -/
inductive Stops : List NodeGroup → Result Unit → Prop
  | unseen {e : Error} (failed : w.clusterShown d c = .error e) : Stops c.nodeGroups (.error e)
  | unready {o : ClusterObservation} (shown : w.clusterShown d c = .ok o)
      (wait : o.lastStatus "ControlPlaneReady" ≠ some "True") : Stops c.nodeGroups (.ok ())
  | unserved {o : ClusterObservation} (shown : w.clusterShown d c = .ok o)
      (ready : o.lastStatus "ControlPlaneReady" = some "True")
      (unset : ∀ e, o.endpoint = some e → ¬ e.IsSet) :
      Stops c.nodeGroups
        (.error (.malformed o.object "spec.controlPlaneEndpoint is not set"))
  /-- The object of a group cannot be read; the groups before it are complete. -/
  | unreadable {e : Endpoint} {before before' after : List NodeGroup} {g : NodeGroup}
      {fault : Error} (serves : w.Serves d c e) (groups : c.nodeGroups = before ++ g :: after)
      (complete : w.AllComplete d c before before') (failed : w.groupShown d c g = .error fault) :
      Stops (before' ++ g :: after) (.error fault)
  /-- A group is not complete; the groups before it are. -/
  | incomplete {e : Endpoint} {before before' after : List NodeGroup} {g g' : NodeGroup}
      (serves : w.Serves d c e) (groups : c.nodeGroups = before ++ g :: after)
      (complete : w.AllComplete d c before before') (shown : w.groupShown d c g = .ok g')
      (wait : g'.status.phase ≠ .complete) : Stops (before' ++ g' :: after) (.ok ())
  /-- A master does not report its version; all groups are complete. -/
  | unversioned {e : Endpoint} {groups' before after : List NodeGroup} {g : NodeGroup}
      {o : ControlPlaneObservation} (serves : w.Serves d c e)
      (complete : w.AllComplete d c c.nodeGroups groups')
      (masters : c.masters = before ++ g :: after)
      (runs : ∀ x ∈ before, ∃ version, w.Runs d c x version)
      (shown : w.controlPlaneShown d c g = .ok o) (absent : o.version = none) :
      Stops groups' (.error (.malformed o.object "status.version is not set"))

variable {w d c}

theorem Serves.unique {e e' : Endpoint} (h : w.Serves d c e) (h' : w.Serves d c e') : e = e' := by
  obtain ⟨o, shown, -, there, -⟩ := h
  obtain ⟨o', shown', -, there', -⟩ := h'
  rw [shown] at shown'
  cases shown'
  exact Option.some.inj (there.symm.trans there')

theorem Runs.unique {g : NodeGroup} {v v' : String} (h : w.Runs d c g v) (h' : w.Runs d c g v') :
    v = v' := by
  obtain ⟨o, shown, reported⟩ := h
  obtain ⟨o', shown', reported'⟩ := h'
  rw [shown] at shown'
  cases shown'
  exact Option.some.inj (reported.symm.trans reported')

theorem AllComplete.shown {groups shown : List NodeGroup} (h : w.AllComplete d c groups shown) :
    ∀ g ∈ groups, ∃ g', w.groupShown d c g = .ok g' ∧ g'.status.phase = .complete := by
  induction groups generalizing shown with
  | nil => simp
  | cons g groups ih =>
    obtain ⟨all, complete⟩ := h
    obtain ⟨first, later, here, there, rfl⟩ := mapM_groupShown_cons.1 all
    obtain ⟨now, after⟩ := List.forall_mem_cons.1 complete
    exact List.forall_mem_cons.2 ⟨⟨first, here, now⟩, ih ⟨there, after⟩⟩

/-- A group that is complete has been seen. -/
theorem AllComplete.controlPlane {shown : List NodeGroup} (h : w.AllComplete d c c.nodeGroups shown)
    {g : NodeGroup} (master : g ∈ c.masters) (e : Error) :
    w.controlPlaneShown d c g ≠ .error e := by
  intro failed
  obtain ⟨there, role⟩ := List.mem_filter.1 master
  obtain ⟨g', seen, -⟩ := h.shown g there
  rw [groupShown, of_decide_eq_true role, failed] at seen
  cases seen

theorem AllComplete.concat {groups shown : List NodeGroup} {g g' : NodeGroup}
    (h : w.AllComplete d c groups shown) (last : w.groupShown d c g = .ok g')
    (complete : g'.status.phase = .complete) :
    w.AllComplete d c (groups ++ [g]) (shown ++ [g']) := by
  obtain ⟨all, before⟩ := h
  refine ⟨mapM_groupShown_concat all last, ?_⟩
  intro x hx
  rcases List.mem_append.1 hx with hx | hx
  · exact before x hx
  · rw [List.mem_singleton.1 hx]
    exact complete

/-- A pass that stops has not seen what it would take to settle the cluster. -/
theorem Stops.not_settles {groups : List NodeGroup} {r : Result Unit}
    (stops : w.Stops d c groups r) : ¬ w.Settles d c := by
  intro settles
  obtain ⟨e, o, seen, ready, there, set_⟩ := settles.serves
  cases stops with
  | unseen failed =>
    rw [failed] at seen
    cases seen
  | unready shown wait =>
    rw [shown] at seen
    cases seen
    exact wait ready
  | unserved shown _ unset =>
    rw [shown] at seen
    cases seen
    exact unset e there set_
  | @unreadable _ before _ after g _ _ groups _ failed =>
    have member : g ∈ c.nodeGroups := by
      rw [groups]
      exact List.mem_append_right before List.mem_cons_self
    obtain ⟨shown, found, _⟩ := settles.complete g member
    rw [failed] at found
    cases found
  | @incomplete _ before _ after g _ _ groups _ shown wait =>
    have member : g ∈ c.nodeGroups := by
      rw [groups]
      exact List.mem_append_right before List.mem_cons_self
    obtain ⟨_, found, complete⟩ := settles.complete g member
    rw [shown] at found
    cases found
    exact wait complete
  | @unversioned _ _ before after g _ _ _ masters _ shown absent =>
    have member : g ∈ c.masters := by
      rw [masters]
      exact List.mem_append_right before List.mem_cons_self
    obtain ⟨version, _, found, reported⟩ := settles.runs g member
    rw [shown] at found
    cases found
    rw [absent] at reported
    cases reported

/-- The world is as it was but for the records, and the record in hand is held. -/
def Stands (k : Keeper ρ) (usable : ρ → Prop) (w : World ρ) (c : Cluster) (s : World ρ) : Prop :=
  s = { w with records := s.records } ∧ usable s.records ∧ k.Holds c s.records

/-- A pass has stopped: both copies of the record have the groups that it left. -/
def Halted (k : Keeper ρ) (usable : ρ → Prop) (w : World ρ) (d : Deployment) (c : Cluster)
    (r : Result Unit) (c' : Cluster) (s : World ρ) : Prop :=
  ∃ groups, w.Stops d c groups r ∧ c' = c.withGroups groups ∧ Stands k usable w c' s

section
variable {k : Keeper ρ} {usable : ρ → Prop} (lawful : k.Lawful c.uuid usable) {e : Endpoint}
  (serves : w.Serves d c e) (distinct : (c.nodeGroups.map (·.name)).Nodup)
include lawful serves distinct

/-- Groups are brought up to date one by one in both copies of the record, up to the first that
is not complete or cannot be read. -/
theorem ends_settleGroups {done done' rest : List NodeGroup} (groups : c.nodeGroups = done ++ rest)
    (complete : w.AllComplete d c done done') {s : World ρ}
    (stands : Stands k usable w (c.withGroups (done' ++ rest)) s) :
    Pass.Keeps (MayAnswer (fun _ => False) k) (Admits (fun _ _ => True) fun _ => True)
      (fun fault => Halted k usable w d c (.error fault))
      (fun settled c' s' =>
        if settled then
          ∃ shown, w.AllComplete d c c.nodeGroups shown ∧ c' = c.withGroups shown ∧
            Stands k usable w c' s'
        else Halted k usable w d c (.ok ()) c' s')
      (d.settleGroups done' rest) (c.withGroups (done' ++ rest)) s := by
  induction rest generalizing done done' s with
  | nil =>
    rw [List.append_nil] at groups stands ⊢
    exact ⟨done', groups ▸ complete, rfl, stands⟩
  | cons g rest ih =>
    obtain ⟨same, usable', held⟩ := stands
    have seen : s.groupShown d (c.withGroups (done' ++ g :: rest)) g = w.groupShown d c g := by
      rw [same]
      exact groupShown_congr rfl
    unfold Deployment.settleGroups
    rw [Pass.keeps_bind, Pass.keeps_get, Pass.keeps_bind, Pass.keeps_lift]
    unfold Deployment.updateNodeGroupStatus
    rw [Operation.keeps_bind]
    refine ends_observeNodeGroup (fun _ _ fault => fault.elim) trivial (fun _ => trivial) ?_
    rw [seen]
    cases shown : w.groupShown d c g with
    | error fault =>
      exact ⟨_, .unreadable serves groups complete shown, rfl, same, usable', held⟩
    | ok g' =>
      obtain ⟨name, -⟩ := groupShown_keeps shown
      have apart : ∀ x ∈ done', x.name ≠ g.name := by
        intro x hx clash
        rw [groups, List.map_append, List.nodup_append] at distinct
        have there : g.name ∈ done.map (·.name) := by
          rw [← (names_of_shown complete.1).1, ← clash]
          exact List.mem_map_of_mem hx
        exact distinct.2.2 _ there _ List.mem_cons_self rfl
      obtain ⟨later, saved, usable'', held'⟩ :=
        lawful.saveNodeGroup (c.withGroups (done' ++ g :: rest)) g' s.records rfl usable' held
      rw [Cluster.withNodeGroup_middle name c done' rest apart] at held'
      have stands' : Stands k usable w (c.withGroups (done' ++ g' :: rest))
          { s with records := later } := ⟨by rw [same], usable'', held'⟩
      change Operation.Keeps _ _ _ _ (Operation.saveNodeGroup c.uuid g' >>= fun _ => pure g') s
      rw [Operation.keeps_bind]
      refine keeps_saveNodeGroup (fun _ _ fault => fault.elim) trivial trivial trivial ?_
      rw [saved]
      change Pass.Keeps _ _ _ _ (if g'.status.isComplete then d.settleGroups (done' ++ [g']) rest
        else pure false) (c.withGroups (done' ++ g' :: rest)) { s with records := later }
      by_cases phase : g'.status.phase = .complete
      · have moved : done' ++ g' :: rest = done' ++ [g'] ++ rest := List.append_cons _ _ _
        rw [if_pos (by simpa [Status.isComplete] using phase), moved]
        rw [moved] at stands'
        exact ih (groups.trans (List.append_cons _ _ _)) (complete.concat shown phase) stands'
      · rw [if_neg (by simpa [Status.isComplete] using phase)]
        exact ⟨_, .incomplete serves groups complete shown phase, rfl, stands'⟩

omit distinct in
/-- Once all groups are complete the versions decide. -/
theorem ends_completion {shown : List NodeGroup} (complete : w.AllComplete d c c.nodeGroups shown)
    {s : World ρ} (stands : Stands k usable w (c.withGroups shown) s) :
    Pass.Keeps (MayAnswer (fun _ => False) k) (Admits (fun _ _ => True) fun _ => True)
      (fun fault => Halted k usable w d c (.error fault))
      (fun _ c' s' => w.Settles d c ∧ w.Settled d c c' ∧ Stands k usable w c' s')
      (do
        let c ← get
        let version ← d.runningVersion c
        let c := { c with
          apiAddress := some e.address
          coeVersion := version.or c.coeVersion
          status := c.status.withPhase .complete }
        set c
        Operation.saveCluster c)
      (c.withGroups shown) s := by
  obtain ⟨same, usable', held⟩ := id stands
  rw [Pass.keeps_bind, Pass.keeps_get, Pass.keeps_bind, Pass.keeps_lift]
  refine ends_runningVersion (fun _ _ fault => fault.elim) trivial (fun _ => trivial) ?_
  have versions : s.versionShown d (c.withGroups shown) (c.withGroups shown).masters none =
      w.versionShown d c c.masters none := by
    rw [same]
    exact versionShown_congr rfl (names_of_shown complete.1).2 none
  rw [versions]
  cases found : w.versionShown d c c.masters none with
  | error fault =>
    obtain ⟨before, g, after, masters, runs, failed | ⟨o, seen, absent, rfl⟩⟩ :=
      versionShown_error found
    · have member : g ∈ c.masters := by
        rw [masters]
        exact List.mem_append_right before List.mem_cons_self
      exact absurd failed (complete.controlPlane member fault)
    · exact ⟨shown, .unversioned serves complete masters runs seen absent, rfl, stands⟩
  | ok version =>
    obtain ⟨runs, none_, last⟩ := versionShown_ok found
    let c' : Cluster := { c.withGroups shown with
      apiAddress := some e.address
      coeVersion := version.or c.coeVersion
      status := c.status.withPhase .complete }
    obtain ⟨later, saved, usable'', held'⟩ := lawful.save c' s.records rfl usable'
    have settled : w.Settled d c c' := by
      refine ⟨rfl, ⟨e, serves, rfl⟩, complete.1, ?_, ?_, rfl⟩
      · intro g hg
        obtain ⟨v, run, is⟩ := last g hg
        refine ⟨v, run, ?_⟩
        change version.or c.coeVersion = some v
        rw [is, Option.some_or]
      · intro no_master
        change version.or c.coeVersion = c.coeVersion
        rw [none_ no_master, Option.none_or]
    change Pass.Keeps _ _ _ _ (do
      set c'
      Operation.saveCluster c') (c.withGroups shown) s
    rw [Pass.keeps_bind, Pass.keeps_set, Pass.keeps_lift]
    refine keeps_saveCluster (fun _ _ fault => fault.elim) trivial trivial trivial ?_
    rw [saved]
    have stands' : Stands k usable w c' { s with records := later } :=
      ⟨by rw [same], usable'', held'⟩
    exact ⟨⟨⟨e, serves⟩, complete.shown, runs⟩, settled, stands'⟩

omit serves in
/-- A pass settles the cluster, or it stops. -/
theorem ends_provisioningPass (stands : Stands k usable w c w) :
    Pass.Keeps (MayAnswer (fun _ => False) k) (Admits (fun _ _ => True) fun _ => True)
      (fun fault => Halted k usable w d c (.error fault))
      (fun _ c' s' => Halted k usable w d c (.ok ()) c' s' ∨
        w.Settles d c ∧ w.Settled d c c' ∧ Stands k usable w c' s')
      d.provisioningPass c w := by
  have halted {r : Result Unit} (stops : w.Stops d c c.nodeGroups r) :
      Halted k usable w d c r c w := ⟨c.nodeGroups, stops, rfl, stands⟩
  unfold Deployment.provisioningPass
  rw [Pass.keeps_bind, Pass.keeps_get, Pass.keeps_bind, Pass.keeps_lift]
  refine keeps_fetch (fun _ _ fault => fault.elim) trivial (fun _ => trivial) ?_
  cases fetched : w.fetched d .cluster c none with
  | error fault =>
    have unseen : w.clusterShown d c = .error fault := by
      rw [clusterShown, fetched]
      rfl
    exact halted (.unseen unseen)
  | ok object =>
  have shown : w.clusterShown d c = ClusterObservation.decode object := by
    rw [clusterShown, fetched]
    rfl
  change Pass.Keeps _ _ _ _ (liftM (ClusterObservation.decode object) >>= _) c w
  rw [Pass.keeps_bind, Pass.keeps_result, ← shown]
  cases seen : w.clusterShown d c with
  | error fault => exact halted (.unseen seen)
  | ok o =>
  change Pass.Keeps _ _ _ _ (if o.controlPlaneReady then _ else _) c w
  by_cases ready : o.lastStatus "ControlPlaneReady" = some "True"
  case neg =>
    rw [if_neg (mt ClusterObservation.controlPlaneReady_iff.1 ready)]
    exact .inl (halted (.unready seen ready))
  rw [if_pos (ClusterObservation.controlPlaneReady_iff.2 ready), Pass.keeps_bind, Pass.keeps_result]
  by_cases unset : ∀ e, o.endpoint = some e → ¬ e.IsSet
  case pos =>
    rw [ClusterObservation.apiAddress_of_unset unset]
    exact halted (.unserved seen ready unset)
  simp only [Classical.not_forall, Classical.not_not] at unset
  obtain ⟨e, there, set_⟩ := unset
  have serves : w.Serves d c e := ⟨o, seen, ready, there, set_⟩
  rw [ClusterObservation.apiAddress_of_set there set_]
  change Pass.Keeps _ _ _ _ (d.settleGroups [] c.nodeGroups >>= _) c w
  have settling := ends_settleGroups lawful serves distinct (List.nil_append _).symm
    ⟨rfl, by simp⟩ stands
  apply Pass.Keeps.bind settling
  intro settled c' s' h
  cases settled with
  | false => exact .inl h
  | true =>
    obtain ⟨groups, complete, rfl, stands'⟩ := h
    exact (ends_completion lawful serves complete stands').mono (fun _ _ _ _ kept => kept)
      (fun _ _ _ stopped => stopped) fun _ _ _ done => .inr done

omit serves in
theorem ends_updateClusterStatus
    (underway : c.status = .createInProgress ∨ c.status = .updateInProgress)
    (stands : Stands k usable w c w) :
    Pass.Keeps (MayAnswer (fun _ => False) k) (Admits (fun _ _ => True) fun _ => True)
      (fun fault => Halted k usable w d c (.error fault))
      (fun _ c' s' => Halted k usable w d c (.ok ()) c' s' ∨
        w.Settles d c ∧ w.Settled d c c' ∧ Stands k usable w c' s')
      d.updateClusterStatus c w := by
  have pass := ends_provisioningPass (d := d) lawful distinct stands
  unfold Deployment.updateClusterStatus
  rw [Pass.keeps_bind, Pass.keeps_get]
  rcases underway with status | status <;>
  · rw [status]
    exact pass

omit serves in
/-- Where no call fails a pass comes to its end: it settles the cluster or stops. -/
theorem run_updateClusterStatus
    (underway : c.status = .createInProgress ∨ c.status = .updateInProgress)
    (stands : Stands k usable w c w) :
    ∃ r c' w', (d.updateClusterStatus.run.run c).run (answer k) w = ((r, c'), w') ∧
      Stands k usable w c' w' ∧
      ((∃ groups, w.Stops d c groups r ∧ c' = c.withGroups groups) ∨
        r = .ok () ∧ w.Settles d c ∧ w.Settled d c c') := by
  have ends := Program.Ensures.at_end
    (ends_updateClusterStatus (d := d) lawful distinct underway stands)
    (Program.reaches_run (fun q s => .answered) (d.updateClusterStatus.run.run c) w)
  cases run : (d.updateClusterStatus.run.run c).run (answer k) w with
  | mk end_ w' =>
  obtain ⟨r, c'⟩ := end_
  rw [run] at ends
  refine ⟨r, c', w', rfl, ?_⟩
  cases r with
  | error fault =>
    obtain ⟨groups, stops, same, stands'⟩ := ends
    exact ⟨stands', .inl ⟨groups, stops, same⟩⟩
  | ok =>
    rcases ends with ⟨groups, stops, same, stands'⟩ | ⟨settles, settled, stands'⟩
    · exact ⟨stands', .inl ⟨groups, stops, same⟩⟩
    · exact ⟨stands', .inr ⟨rfl, settles, settled⟩⟩

end

/-- A pass over a cluster that is being created or updated, whose record is in a file. It settles
the cluster if and only if it sees what that takes, and leaves any other as far as it came; the file
holds the record in hand each time. -/
theorem provisioning_outcome (d : Deployment) (s : Store) {now : Timestamp} (valid : now.Valid)
    {c : Cluster} {w : World FileSystem}
    (underway : c.status = .createInProgress ∨ c.status = .updateInProgress)
    (distinct : (c.nodeGroups.map (·.name)).Nodup) (usable : s.Usable c.uuid w.records)
    (stored : (Keeper.files s now).Holds c w.records) :
    ∃ r c' w', (d.updateClusterStatus.run.run c).run (answer (.files s now)) w = ((r, c'), w') ∧
      w' = { w with records := w'.records } ∧ (Keeper.files s now).Holds c' w'.records ∧
      (c'.status = c.status.withPhase .complete ↔ w.Settles d c) ∧
      (w.Settles d c → r = .ok () ∧ w.Settled d c c') ∧
      (¬ w.Settles d c →
        ∃ groups, w.Stops d c groups r ∧ c' = { c with nodeGroups := groups }) := by
  have lawful := Keeper.lawful_files s valid c.uuid
  obtain ⟨r, c', w', run, ⟨same, -, held⟩, ends⟩ :=
    run_updateClusterStatus (d := d) lawful distinct underway ⟨rfl, usable, stored⟩
  refine ⟨r, c', w', run, same, held, ?_⟩
  rcases ends with ⟨groups, stops, rfl⟩ | ⟨rfl, settles, settled⟩
  · have waits : c.status ≠ c.status.withPhase .complete := by
      rcases underway with status | status <;>
      · rw [status]
        decide
    refine ⟨⟨?_, ?_⟩, ?_, ?_⟩
    · intro moved
      exact absurd moved waits
    · intro settles
      exact absurd settles stops.not_settles
    · intro settles
      exact absurd settles stops.not_settles
    · intro _
      exact ⟨groups, stops, rfl⟩
  · refine ⟨⟨?_, ?_⟩, ?_, ?_⟩
    · intro _
      exact settles
    · intro _
      exact settled.status
    · intro _
      exact ⟨rfl, settled⟩
    · intro short
      exact absurd settles short

open Json in
/-- The objects of the sample cluster once all of it is up. An older condition says otherwise. -/
def sampleObjects (d : Deployment) (id : Uuid) : List (ObjectRef × Json) :=
  let ref (kind : ResourceKind) (suffix : String) : ObjectRef :=
    { apiVersion := kind.apiVersion, kind := kind.kind, name := id.toString ++ suffix
      scope := some d.scope }
  let condition (status : String) :=
    object [("type", string "ControlPlaneReady"), ("status", string status)]
  let endpoint := object [("host", string "10.0.0.1"), ("port", ofNat 6443)]
  [ (ref .cluster "",
      object [("spec", object [("controlPlaneEndpoint", endpoint)]),
        ("status", object [("conditions", array [condition "False", condition "True"])])]),
    (ref .controlPlane "-default-master",
      object [("status", object [("ready", bool true), ("version", string "v1.23.5")])]),
    (ref .machineDeployment "-default-worker",
      object [("status", object [("phase", string "Running")])]) ]

theorem provisioning_outcome_sample :
    let d := Deployment.sample
    let c := Cluster.sample .nil
    let s : Store := ⟨"clusters"⟩
    let now : Timestamp := ⟨2024, 2, 29, 12, 0, 0, 0⟩
    let k := Keeper.files s now
    let w : World FileSystem :=
      { objects := sampleObjects d .nil, records := (FileSystem.run (s.save now c) {}).2 }
    now.Valid ∧ c.status = .createInProgress ∧ (c.nodeGroups.map (·.name)).Nodup ∧
      s.Usable c.uuid w.records ∧ k.Holds c w.records ∧ w.Settles d c ∧
      ∃ c' w', (d.updateClusterStatus.run.run c).run (answer k) w = ((.ok (), c'), w') ∧
        k.Holds c' w'.records ∧ c'.status = ⟨.create, .complete⟩ ∧
        c'.apiAddress = some "https://10.0.0.1:6443" ∧ c'.coeVersion = some "v1.23.5" := by
  intro d c s now k w
  have valid : now.Valid := by decide
  have distinct : (c.nodeGroups.map (·.name)).Nodup := by decide
  obtain ⟨fs, saved, usable, held⟩ :=
    (Keeper.lawful_files s valid c.uuid).save c {} rfl (Store.usable_empty s c.uuid)
  have records : w.records = fs := congrArg Prod.snd saved
  rw [← records] at usable held
  have serves : w.Serves d c ⟨"10.0.0.1", 6443⟩ := ⟨_, rfl, by decide, rfl, by decide, by decide⟩
  have settles : w.Settles d c :=
    ⟨⟨_, serves⟩,
      List.forall_mem_cons.2 ⟨⟨_, rfl, rfl⟩, List.forall_mem_cons.2 ⟨⟨_, rfl, rfl⟩, by simp⟩⟩,
      List.forall_mem_cons.2 ⟨⟨_, _, rfl, rfl⟩, by simp⟩⟩
  obtain ⟨r, c', w', run, -, held', -, advance, -⟩ :=
    provisioning_outcome d s valid (.inl rfl) distinct usable held
  obtain ⟨rfl, settled⟩ := advance settles
  obtain ⟨e, serves', address⟩ := settled.address
  obtain ⟨v, runs, version⟩ := settled.version _ rfl
  let master : NodeGroup := { name := "default-master", role := .master, nodeCount := 1 }
  have reported : w.Runs d c master "v1.23.5" := ⟨_, rfl, rfl⟩
  refine ⟨valid, rfl, distinct, usable, held, settles, c', w', run, held', settled.status, ?_, ?_⟩
  · rw [address, serves'.unique serves]
    decide
  · rw [version, runs.unique reported]

end World

end ClusterLifecycle
