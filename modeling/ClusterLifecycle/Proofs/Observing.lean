import ClusterLifecycle.Proofs.Lookups
import ClusterLifecycle.Proofs.Worlds

/-!
What a look at the objects of a cluster shows.

* readiness is what the last condition of its type says;
* the API has an address if and only if both parts of the endpoint are set;
* `World.groupShown`, `World.versionShown`: what observing a group, and the versions of control
  planes, comes to;
* what is shown of a group depends on its name and the identity of its cluster alone.
-/

namespace ClusterLifecycle

namespace Labels

theorem get?_insert (labels : Labels) (key value other : String) :
    (labels.insert key value).get? other =
      if other = key then some value else labels.get? other := by
  have lookup (entries : List (String × String)) :
      (insertEntry key value entries).lookup other =
        if other = key then some value else entries.lookup other := by
    induction entries with
    | nil => exact lookup_cons_eq_if other key value []
    | cons e rest ih =>
      obtain ⟨k, v⟩ := e
      rw [insertEntry]
      split
      · exact lookup_cons_eq_if other key value _
      · split
        next same =>
          subst same
          by_cases h : other = key <;> simp [lookup_cons_eq_if, h]
        next differs =>
          rw [lookup_cons_eq_if, lookup_cons_eq_if, ih]
          by_cases h : other = k
          · have apart : other ≠ key := fun same => differs (same.symm.trans h)
            rw [if_pos h, if_neg apart, if_pos h]
          · rw [if_neg h, if_neg h]
  exact lookup labels.entries

/-- The last entry of a key counts. -/
theorem get?_ofList (entries : List (String × String)) (key : String) :
    (ofList entries).get? key = (entries.filter (·.1 = key)).getLast?.map (·.2) := by
  have fold (labels : Labels) :
      (entries.foldl (fun labels e => labels.insert e.1 e.2) labels).get? key =
        ((entries.filter (·.1 = key)).getLast?.map (·.2)).or (labels.get? key) := by
    induction entries generalizing labels with
    | nil => rfl
    | cons e rest ih =>
      obtain ⟨k, v⟩ := e
      rw [List.foldl_cons, ih, get?_insert]
      by_cases h : k = key
      · subst h
        cases last : (rest.filter (·.1 = k)).getLast? <;> simp [List.getLast?_cons, last]
      · have h' : key ≠ k := Ne.symm h
        simp [h, h']
  have whole := fold ∅
  rw [show (∅ : Labels).get? key = none from rfl, Option.or_none] at whole
  exact whole

end Labels

namespace ClusterObservation

variable {o : ClusterObservation}

/-- The status that the last condition of a type reports. -/
def lastStatus (o : ClusterObservation) (type : String) : Option String :=
  (o.conditions.filter (·.type = type)).getLast?.map (·.status)

theorem get?_statuses (o : ClusterObservation) (type : String) :
    o.statuses.get? type = o.lastStatus type := by
  rw [statuses, Labels.get?_ofList, List.filter_map, List.getLast?_map, Option.map_map]
  rfl

theorem controlPlaneReady_iff :
    o.controlPlaneReady = true ↔ o.lastStatus "ControlPlaneReady" = some "True" := by
  rw [controlPlaneReady, get?_statuses, decide_eq_true_iff]

end ClusterObservation

namespace Endpoint

/-- Both parts are set. -/
def IsSet (e : Endpoint) : Prop := e.host ≠ "" ∧ e.port ≠ 0

def address (e : Endpoint) : String := "https://" ++ e.host ++ ":" ++ toString e.port.toNat

end Endpoint

namespace ClusterObservation

variable {o : ClusterObservation}

theorem apiAddress_of_set {e : Endpoint} (h : o.endpoint = some e) (parts : e.IsSet) :
    o.apiAddress = .ok e.address := by
  rw [apiAddress, h]
  exact if_pos parts

theorem apiAddress_of_unset (h : ∀ e, o.endpoint = some e → ¬ e.IsSet) :
    o.apiAddress = .error (.malformed o.object "spec.controlPlaneEndpoint is not set") := by
  rw [apiAddress]
  cases there : o.endpoint with
  | none => rfl
  | some e =>
    exact if_neg (h e there)

end ClusterObservation

namespace World

variable {ρ : Type} (w : World ρ) (d : Deployment)

/-- What the cluster object shows. -/
def clusterShown (c : Cluster) : Result ClusterObservation := do
  ClusterObservation.decode (← w.fetched d .cluster c none)

/-- What the control plane of a group shows. -/
def controlPlaneShown (c : Cluster) (g : NodeGroup) : Result ControlPlaneObservation := do
  ControlPlaneObservation.decode (← w.fetched d .controlPlane c g)

/-- What the deployment of a group shows. -/
def deploymentShown (c : Cluster) (g : NodeGroup) : Result DeploymentObservation := do
  DeploymentObservation.decode (← w.fetched d .machineDeployment c g)

/-- A group with the status that its object shows. -/
def groupShown (c : Cluster) (g : NodeGroup) : Result NodeGroup :=
  match g.role with
  | .master => (w.controlPlaneShown d c g).map g.afterControlPlane
  | .worker => (w.deploymentShown d c g).map g.afterDeployment

/-- The version that the last of the groups' control planes shows; each has to show one. -/
def versionShown (c : Cluster) (groups : List NodeGroup) (before : Option String) :
    Result (Option String) :=
  groups.foldlM (fun (_ : Option String) (g : NodeGroup) => do
    let o ← w.controlPlaneShown d c g
    return some (← o.runningVersion)) before

variable {w d} {c c' : Cluster} {g g' : NodeGroup}

/-- The object of a group is found by the identity of the cluster and the name of the group. -/
theorem fetched_congr {kind : ResourceKind}
    (grouped : kind = .controlPlane ∨ kind = .machineDeployment) (identity : c'.uuid = c.uuid)
    (name : g'.name = g.name) : w.fetched d kind c' g' = w.fetched d kind c g := by
  have target : d.target kind c' g' = d.target kind c g := by
    unfold Deployment.target ResourceKind.ref ResourceKind.objectName
    rcases grouped with rfl | rfl <;> simp only [ResourceKind.groupObjectName, identity, name]
  rw [fetched, fetched, target]

theorem controlPlaneShown_congr (identity : c'.uuid = c.uuid) (name : g'.name = g.name) :
    w.controlPlaneShown d c' g' = w.controlPlaneShown d c g := by
  rw [controlPlaneShown, controlPlaneShown, fetched_congr (.inl rfl) identity name]

theorem groupShown_congr (identity : c'.uuid = c.uuid) :
    w.groupShown d c' g = w.groupShown d c g := by
  rw [groupShown, groupShown, controlPlaneShown_congr identity rfl, deploymentShown,
    deploymentShown,
    fetched_congr (.inr rfl) identity rfl]

theorem versionShown_congr (identity : c'.uuid = c.uuid) {groups groups' : List NodeGroup}
    (names : groups'.map (·.name) = groups.map (·.name)) (before : Option String) :
    w.versionShown d c' groups' before = w.versionShown d c groups before := by
  induction groups generalizing groups' before with
  | nil =>
    rw [List.map_nil, List.map_eq_nil_iff] at names
    rw [names]
    rfl
  | cons g rest ih =>
    obtain ⟨g', rest', rfl, name, later⟩ := List.map_eq_cons_iff.1 names
    have here := controlPlaneShown_congr (w := w) (d := d) identity name
    simp only [versionShown] at ih ⊢
    rw [List.foldlM_cons, List.foldlM_cons, here]
    congr 1
    funext version
    exact ih later version

/-- A look at a group changes neither its name nor its role. -/
theorem groupShown_keeps (shown : w.groupShown d c g = .ok g') :
    g'.name = g.name ∧ g'.role = g.role := by
  rw [groupShown] at shown
  split at shown
  · cases h : w.controlPlaneShown d c g with
    | error e => simp [h, Except.map] at shown
    | ok o =>
      rw [h] at shown
      cases shown
      exact ⟨rfl, rfl⟩
  · cases h : w.deploymentShown d c g with
    | error e => simp [h, Except.map] at shown
    | ok o =>
      rw [h] at shown
      cases shown
      exact ⟨rfl, rfl⟩

/-- A look at groups in turn. -/
theorem mapM_groupShown_cons {groups shown : List NodeGroup} :
    (g :: groups).mapM (w.groupShown d c) = .ok shown ↔
      ∃ first later, w.groupShown d c g = .ok first ∧
        groups.mapM (w.groupShown d c) = .ok later ∧ shown = first :: later := by
  rw [List.mapM_cons]
  constructor
  · intro h
    cases first : w.groupShown d c g with
    | error e =>
      rw [first] at h
      cases h
    | ok g' =>
      cases later : groups.mapM (w.groupShown d c) with
      | error e =>
        rw [first, later] at h
        cases h
      | ok groups' =>
        rw [first, later] at h
        cases h
        exact ⟨g', groups', rfl, rfl, rfl⟩
  · rintro ⟨first, later, here, there, rfl⟩
    rw [here, there]
    rfl

theorem mapM_groupShown_concat {groups shown : List NodeGroup}
    (before : groups.mapM (w.groupShown d c) = .ok shown) (last : w.groupShown d c g = .ok g') :
    (groups ++ [g]).mapM (w.groupShown d c) = .ok (shown ++ [g']) := by
  rw [List.mapM_append, before, List.mapM_cons, last]
  rfl

/-- The groups keep their names and their order, and so do the masters among them. -/
theorem names_of_shown {groups shown : List NodeGroup}
    (h : groups.mapM (w.groupShown d c) = .ok shown) :
    shown.map (·.name) = groups.map (·.name) ∧
      (shown.filter (·.role = .master)).map (·.name) =
        (groups.filter (·.role = .master)).map (·.name) := by
  induction groups generalizing shown with
  | nil =>
    cases h
    exact ⟨rfl, rfl⟩
  | cons g groups ih =>
    obtain ⟨first, later, here, there, rfl⟩ := mapM_groupShown_cons.1 h
    obtain ⟨name, role⟩ := groupShown_keeps here
    obtain ⟨names, masters⟩ := ih there
    refine ⟨by rw [List.map_cons, List.map_cons, name, names], ?_⟩
    by_cases master : g.role = .master
    · rw [List.filter_cons_of_pos (by simp [role, master]),
        List.filter_cons_of_pos (by simp [master]),
        List.map_cons, List.map_cons, name, masters]
    · rw [List.filter_cons_of_neg (by simp [role, master]),
        List.filter_cons_of_neg (by simp [master]),
        masters]

/-- The control plane of a group reports that version. -/
def Runs (w : World ρ) (d : Deployment) (c : Cluster) (g : NodeGroup) (version : String) : Prop :=
  ∃ o, w.controlPlaneShown d c g = .ok o ∧ o.version = some version

/-- Where versions are shown every group has one, and the last one counts. -/
theorem versionShown_ok {groups : List NodeGroup} {before version : Option String}
    (h : w.versionShown d c groups before = .ok version) :
    (∀ g ∈ groups, ∃ v, w.Runs d c g v) ∧ (groups = [] → version = before) ∧
      ∀ g, groups.getLast? = some g → ∃ v, w.Runs d c g v ∧ version = some v := by
  induction groups generalizing before with
  | nil =>
    cases h
    exact ⟨by simp, fun _ => rfl, by simp⟩
  | cons g rest ih =>
    rw [versionShown, List.foldlM_cons] at h
    cases shown : w.controlPlaneShown d c g with
    | error e =>
      rw [shown] at h
      cases h
    | ok o =>
      rw [shown] at h
      cases reported : o.version with
      | none =>
        change ((o.runningVersion >>= fun v => pure (some v)) >>= _) = _ at h
        rw [ControlPlaneObservation.runningVersion, reported] at h
        cases h
      | some v =>
        change ((o.runningVersion >>= fun v => pure (some v)) >>= _) = _ at h
        rw [ControlPlaneObservation.runningVersion, reported] at h
        obtain ⟨all, none_, last⟩ := ih h
        refine ⟨List.forall_mem_cons.2 ⟨⟨v, o, shown, reported⟩, all⟩, nofun, ?_⟩
        intro x hx
        cases rest with
        | nil =>
          cases hx
          exact ⟨v, ⟨o, shown, reported⟩, none_ rfl⟩
        | cons g' rest => exact last x (by rwa [List.getLast?_cons_cons] at hx)

/-- Where they are not, the first group without one is the reason. -/
theorem versionShown_error {groups : List NodeGroup} {before : Option String} {e : Error}
    (h : w.versionShown d c groups before = .error e) :
    ∃ ahead g behind, groups = ahead ++ g :: behind ∧ (∀ x ∈ ahead, ∃ v, w.Runs d c x v) ∧
      (w.controlPlaneShown d c g = .error e ∨ ∃ o, w.controlPlaneShown d c g = .ok o ∧
        o.version = none ∧ e = .malformed o.object "status.version is not set") := by
  induction groups generalizing before with
  | nil => cases h
  | cons g rest ih =>
    rw [versionShown, List.foldlM_cons] at h
    cases shown : w.controlPlaneShown d c g with
    | error e' =>
      rw [shown] at h
      cases h
      exact ⟨[], g, rest, rfl, by simp, .inl shown⟩
    | ok o =>
      rw [shown] at h
      change ((o.runningVersion >>= fun v => pure (some v)) >>= _) = _ at h
      cases reported : o.version with
      | none =>
        rw [ControlPlaneObservation.runningVersion, reported] at h
        cases h
        exact ⟨[], g, rest, rfl, by simp, .inr ⟨o, shown, reported, rfl⟩⟩
      | some v =>
        rw [ControlPlaneObservation.runningVersion, reported] at h
        obtain ⟨ahead, x, behind, rfl, run, reason⟩ := ih h
        exact ⟨g :: ahead, x, behind, rfl,
          List.forall_mem_cons.2 ⟨⟨v, o, shown, reported⟩, run⟩, reason⟩

section
variable {faults : Error → Prop} {k : Keeper ρ} {G : ServiceRequest → World ρ → Prop}
  {J : World ρ → Prop} {E : Error → World ρ → Prop}
  (fails : ∀ e s, faults e → J s → E e s) (start : J w) (reads : ∀ t, G (.get t) w)
include fails start reads

open Operation

/-- An object that is fetched and read, and what is done with what it shows. -/
theorem ends_shown {α β : Type} {kind : ResourceKind} {group : Option NodeGroup}
    (decode : ObservedObject → Result α) (next : α → Operation β) {P : β → World ρ → Prop}
    (ends : Ends E (fun a => Keeps (MayAnswer faults k) (Admits G J) E P (next a))
      (w.fetched d kind c group >>= decode) w) :
    Keeps (MayAnswer faults k) (Admits G J) E P
      (d.fetch kind c group >>= fun o => liftM (decode o) >>= next) w := by
  rw [keeps_bind]
  apply keeps_fetch fails start reads
  cases h : w.fetched d kind c group with
  | error e =>
    rw [h] at ends
    exact ends
  | ok o =>
    rw [h] at ends
    exact (keeps_bind _ next).2 ((keeps_result (decode o)).2 ends)

theorem ends_observeNodeGroup {P : NodeGroup → World ρ → Prop}
    (ends : Ends E P (w.groupShown d c g) w) :
    Keeps (MayAnswer faults k) (Admits G J) E P (d.observeNodeGroup c g) w := by
  unfold Deployment.observeNodeGroup
  rw [groupShown] at ends
  generalize g.role = role at ends ⊢
  cases role with
  | master =>
    refine ends_shown fails start reads ControlPlaneObservation.decode
      (fun o => pure (g.afterControlPlane o)) ?_
    rw [controlPlaneShown] at ends
    revert ends
    cases w.fetched d .controlPlane c g >>= ControlPlaneObservation.decode <;> exact id
  | worker =>
    refine ends_shown fails start reads DeploymentObservation.decode
      (fun o => pure (g.afterDeployment o)) ?_
    rw [deploymentShown] at ends
    revert ends
    cases w.fetched d .machineDeployment c g >>= DeploymentObservation.decode <;> exact id

theorem ends_runningVersion {P : Option String → World ρ → Prop}
    (ends : Ends E P (w.versionShown d c c.masters none) w) :
    Keeps (MayAnswer faults k) (Admits G J) E P (d.runningVersion c) w := by
  unfold Deployment.runningVersion
  generalize c.masters = groups at ends ⊢
  generalize (none : Option String) = before at ends ⊢
  induction groups generalizing before with
  | nil => exact ends
  | cons g rest ih =>
    rw [versionShown, List.foldlM_cons] at ends
    rw [List.foldlM_cons, keeps_bind]
    refine ends_shown fails start reads ControlPlaneObservation.decode _ ?_
    change Ends E _ (w.controlPlaneShown d c g) w
    cases shown : w.controlPlaneShown d c g with
    | error e =>
      rw [shown] at ends
      exact ends
    | ok o =>
      rw [shown] at ends
      change Keeps _ _ E _ (liftM o.runningVersion >>= fun v => pure (some v)) w
      rw [keeps_bind, keeps_result]
      cases version : o.runningVersion with
      | error e =>
        change Ends E P ((o.runningVersion >>= fun v => pure (some v)) >>= _) w at ends
        rw [version] at ends
        exact ends
      | ok v =>
        change Ends E P ((o.runningVersion >>= fun v => pure (some v)) >>= _) w at ends
        rw [version] at ends
        exact ih (some v) ends

end

end World

end ClusterLifecycle
