import ClusterLifecycle.Proofs.Logs
import ClusterLifecycle.Proofs.Lookups
import ClusterLifecycle.Proofs.Parts

/-!
What the record of a node group says after a look at its object, and for what reason.

* `Json.arranged?_eq_some`: what a record that is read holds, as an object or as an array;
* `NodeGroup.phaseSet?`, `Json.failureMessage?`: what the object says of its group;
* `Deployment.traces_updateNodeGroupStatus`: a look gets one object and saves what that makes of the
  group;
* `NodeGroup.Explained`: a group that has failed has a reason, and one that is complete no old one;
* `Deployment.explained_iff`: a control plane leaves its group explained, a deployment only leaves it
  so;
* `Deployment.Polled.statusReason`: workers keep the reason that they are first recorded with.
-/

namespace ClusterLifecycle

open Program

namespace Json

/-- A field of a record. It has a name where the record is an object, and a place where the record
is an array. -/
def member? (name : String) (place : Nat) : Json → Option Json
  | array items => items[place]?
  | j => j.get? name

/-- A field of what an object reports of itself. -/
def reported? (name : String) (place : Nat) (body : Json) : Option Json :=
  (body.member? "status" 0).bind (·.member? name place)

/-- The failure message that an object reports. -/
def failureMessage? (body : Json) : Option String :=
  (body.reported? "failureMessage" 1).bind string?

variable {α : Type} {j : Json} {name : String} {read? : Json → Option α}

theorem defaulted?_eq_some {a fallback : α} (read : j.defaulted? name fallback read? = some a) :
    (j.get? name = none ∧ a = fallback) ∨
      ∃ value, j.get? name = some value ∧ read? value = some a := by
  unfold defaulted? at read
  cases found : j.get? name with
  | none =>
    rw [found] at read
    exact .inl ⟨rfl, (Option.some.inj read).symm⟩
  | some value =>
    rw [found] at read
    exact .inr ⟨value, rfl, read⟩

theorem optionalText?_eq_some {text : Option String} (read : j.optionalText? name = some text) :
    text = (j.get? name).bind string? := by
  unfold optionalText? optional? at read
  split at read
  next found => cases read; rw [found]; rfl
  next found => cases read; rw [found]; rfl
  next value _ found =>
    obtain ⟨text, is, rfl⟩ := Option.map_eq_some_iff.1 read
    rw [found]
    exact is.symm

/-- A record is read by the names of its fields, whichever way it is written. -/
theorem arranged?_eq_some {names : List String} (distinct : names.Nodup) {a : α}
    (read : arranged? names read? j = some a) :
    ∃ r, read? r = some a ∧
      ∀ {name place}, names[place]? = some name → r.get? name = j.member? name place := by
  cases j with
  | array items =>
    by_cases fits : items.length ≤ names.length
    · rw [arranged?, if_pos fits] at read
      exact ⟨_, read, fun named => lookup_zip_reverse distinct named items⟩
    · rw [arranged?, if_neg fits] at read
      cases read
  | object fields => exact ⟨.object fields, read, fun _ => rfl⟩
  | null | bool _ | number _ | string _ => cases read

/-- So is what an object reports of itself, if it reports anything. -/
theorem status_eq_some {names : List String} (distinct : names.Nodup) {a fallback : α}
    (read : arranged? ["status"] (fun j => j.defaulted? "status" fallback (arranged? names read?)) j =
      some a) :
    (a = fallback ∧ ∀ name place, j.reported? name place = none) ∨
      ∃ r, read? r = some a ∧
        ∀ {name place}, names[place]? = some name → r.get? name = j.reported? name place := by
  obtain ⟨body, read, named⟩ := arranged?_eq_some (by decide) read
  have status : body.get? "status" = j.member? "status" 0 := named rfl
  rcases defaulted?_eq_some read with ⟨missing, rfl⟩ | ⟨value, found, read⟩
  · refine .inl ⟨rfl, fun name place => ?_⟩
    rw [reported?, ← status, missing, Option.bind_none]
  · obtain ⟨r, read, named⟩ := arranged?_eq_some distinct read
    refine .inr ⟨r, read, fun at_ => ?_⟩
    rw [reported?, ← status, found, Option.bind_some]
    exact named at_

end Json

/-- What a documented phase of a deployment stands for. -/
def DeploymentPhase.meaning? : String → Option Phase
  | "ScalingUp" | "ScalingDown" => some .inProgress
  | "Running" => some .complete
  | "Failed" | "Unknown" => some .failed
  | _ => none

namespace NodeGroup

/-- The kind of object that shows how far a group has come. -/
def shownBy (g : NodeGroup) : ResourceKind :=
  match g.role with
  | .master => .controlPlane
  | .worker => .machineDeployment

/-- The phase that the object of a group sets it to, if it sets any. -/
def phaseSet? (g : NodeGroup) (body : Json) : Option Phase :=
  match g.role with
  | .master =>
    if (body.reported? "ready" 0).bind Json.bool? = some true then some .complete else none
  | .worker =>
    ((body.reported? "phase" 0).bind Json.string?).bind DeploymentPhase.meaning?

/-- What a look at its object makes of a group. -/
def lookedAt (g : NodeGroup) (body : Json) : NodeGroup :=
  { g with
    status := ((g.phaseSet? body).map g.status.withPhase).getD g.status
    statusReason := if g.isMaster then body.failureMessage? else g.statusReason }

/-- The reason goes with the phase that an object has just set: there is one for a failure, and for
a group that is complete there is none but the failure message that the object reports. -/
structure Explained (g : NodeGroup) (body : Json) (reason : Option String) : Prop where
  failed : g.phaseSet? body = some .failed → reason.isSome
  complete : g.phaseSet? body = some .complete → ∀ text, reason = some text →
    body.failureMessage? = some text

end NodeGroup

theorem ObservedObject.decode_ok {α : Type} {o : ObservedObject} {read? : Json → Option α} {a : α}
    (decoded : o.decode read? = .ok a) : read? o.data = some a := by
  unfold ObservedObject.decode at decoded
  split at decoded
  next read => cases decoded; exact read
  next => cases decoded

section
variable {t : ObjectRef} {body : Json}

theorem ControlPlaneObservation.decode_ok {o : ControlPlaneObservation}
    (decoded : decode ⟨t, body⟩ = .ok o) :
    (o.ready = true ↔ (body.reported? "ready" 0).bind Json.bool? = some true) ∧
      o.failureMessage = body.failureMessage? := by
  rcases Json.status_eq_some (by decide) (ObservedObject.decode_ok decoded) with
    ⟨rfl, missing⟩ | ⟨status, read, named⟩
  · simp [Json.failureMessage?, missing]
  · obtain ⟨ready, isReady, read⟩ := Option.bind_eq_some_iff.1 read
    obtain ⟨message, isMessage, read⟩ := Option.bind_eq_some_iff.1 read
    obtain ⟨version, -, read⟩ := Option.bind_eq_some_iff.1 read
    cases read
    rw [Json.failureMessage?, ← named rfl, ← named rfl]
    refine ⟨?_, Json.optionalText?_eq_some isMessage⟩
    rcases Json.defaulted?_eq_some isReady with ⟨missing, rfl⟩ | ⟨value, found, is⟩
    · simp [missing]
    · simp [found, is]

theorem DeploymentObservation.decode_ok {o : DeploymentObservation}
    (decoded : decode ⟨t, body⟩ = .ok o) :
    ∃ text, (body.reported? "phase" 0).bind Json.string? = some text ∧
      o.phase = .ofString text := by
  obtain ⟨phase, reads, made⟩ := Deployment.bind_ok decoded
  cases phase with
  | none => cases made
  | some text =>
    cases made
    rcases Json.status_eq_some (by decide) (ObservedObject.decode_ok reads) with
      ⟨absent, -⟩ | ⟨status, read, named⟩
    · cases absent
    · refine ⟨text, ?_, rfl⟩
      rw [← named rfl]
      exact (Json.optionalText?_eq_some read).symm

/-- A status whose only field stands in an array. -/
example : DeploymentObservation.decode ⟨t, .object [("status", .array [.string "Running"])]⟩ =
    .ok { object := t.toString, phase := .running } := rfl

end

theorem DeploymentPhase.status?_ofString (text : String) (current : Status) :
    (ofString text).status? current = (meaning? text).map current.withPhase := by
  unfold ofString
  split
  -- a phase that is not documented
  case h_6 => simp [status?, meaning?, *]
  all_goals rfl

namespace NodeGroup

variable {g : NodeGroup} {t : ObjectRef} {body : Json}

theorem afterControlPlane_eq {o : ControlPlaneObservation} (master : g.role = .master)
    (decoded : ControlPlaneObservation.decode ⟨t, body⟩ = .ok o) :
    g.afterControlPlane o = g.lookedAt body := by
  obtain ⟨ready, message⟩ := ControlPlaneObservation.decode_ok decoded
  unfold afterControlPlane lookedAt phaseSet?
  simp only [isMaster, master, message, ← ready]
  cases o.ready <;> rfl

theorem afterDeployment_eq {o : DeploymentObservation} (worker : g.role = .worker)
    (decoded : DeploymentObservation.decode ⟨t, body⟩ = .ok o) :
    g.afterDeployment o = g.lookedAt body := by
  obtain ⟨text, reported, phase⟩ := DeploymentObservation.decode_ok decoded
  unfold afterDeployment lookedAt phaseSet?
  simp only [isMaster, worker, phase, DeploymentPhase.status?_ofString, reported]
  rfl

/-- No control plane sets its group to a failure, and what it reports of one is the reason. -/
theorem explained_of_master (master : g.role = .master) :
    g.Explained body (g.lookedAt body).statusReason := by
  have reason : (g.lookedAt body).statusReason = body.failureMessage? := by
    simp [lookedAt, isMaster, master]
  constructor
  · intro failed
    simp only [phaseSet?, master] at failed
    split at failed <;> cases failed
  · intro _ text is
    rw [← reason, is]

theorem statusReason_of_worker (worker : g.role = .worker) (body : Json) :
    (g.lookedAt body).statusReason = g.statusReason := by
  simp [lookedAt, isMaster, worker]

end NodeGroup

namespace Deployment

open Operation

variable {d : Deployment} {c : Cluster} {g g' : NodeGroup} {log : Log services}

theorem traces_fetch {k : ResourceKind} {group : Option NodeGroup} {o : ObservedObject}
    (fetched : (d.fetch k c group).run.Traces log (.ok o)) :
    d.target k c group = .ok o.target ∧ log = [⟨.get o.target, .ok o.data⟩] := by
  obtain ⟨t, _, _, rfl, first, rest⟩ := traces_bind_ok.1 fetched
  obtain ⟨rfl, named⟩ := traces_result.1 first
  obtain ⟨body, _, _, rfl, got, ends⟩ := traces_bind_ok.1 rest
  obtain rfl := traces_call.1 got
  obtain ⟨rfl, rfl⟩ := traces_pure.1 ends
  exact ⟨named, rfl⟩

/-- What is made of an object that is fetched and read. -/
theorem traces_shown {α β : Type} {k : ResourceKind} {group : Option NodeGroup}
    {decode : ObservedObject → Result α} {after : α → β} {b : β}
    (shown : (d.fetch k c group >>= fun o => liftM (decode o) >>= fun a =>
      (pure (after a) : Operation β)).run.Traces log (.ok b)) :
    ∃ t body a, d.target k c group = .ok t ∧ log = [⟨.get t, .ok body⟩] ∧
      decode ⟨t, body⟩ = .ok a ∧ b = after a := by
  obtain ⟨o, _, _, rfl, fetched, rest⟩ := traces_bind_ok.1 shown
  obtain ⟨named, rfl⟩ := traces_fetch fetched
  obtain ⟨a, _, _, rfl, read, ends⟩ := traces_bind_ok.1 rest
  obtain ⟨rfl, decoded⟩ := traces_result.1 read
  obtain ⟨rfl, rfl⟩ := traces_pure.1 ends
  exact ⟨o.target, o.data, a, named, rfl, decoded, rfl⟩

theorem traces_observeNodeGroup (observed : (d.observeNodeGroup c g).run.Traces log (.ok g')) :
    ∃ t body, d.target g.shownBy c g = .ok t ∧ log = [⟨.get t, .ok body⟩] ∧
      g' = g.lookedAt body := by
  unfold observeNodeGroup at observed
  cases role : g.role with
  | master =>
    rw [role] at observed
    obtain ⟨t, body, o, named, rfl, decoded, rfl⟩ := traces_shown observed
    refine ⟨t, body, ?_, rfl, NodeGroup.afterControlPlane_eq role decoded⟩
    rwa [NodeGroup.shownBy, role]
  | worker =>
    rw [role] at observed
    obtain ⟨t, body, o, named, rfl, decoded, rfl⟩ := traces_shown observed
    refine ⟨t, body, ?_, rfl, NodeGroup.afterDeployment_eq role decoded⟩
    rwa [NodeGroup.shownBy, role]

/-- A look gets the object of the group, and saves what that makes of it. -/
theorem traces_updateNodeGroupStatus
    (looked : (d.updateNodeGroupStatus c g).run.Traces log (.ok g')) :
    ∃ t body, d.target g.shownBy c g = .ok t ∧
      log = [⟨.get t, .ok body⟩, ⟨.saveNodeGroup c.uuid g', .ok ()⟩] ∧ g' = g.lookedAt body := by
  obtain ⟨shown, _, _, rfl, observed, rest⟩ := traces_bind_ok.1 looked
  obtain ⟨t, body, named, rfl, rfl⟩ := traces_observeNodeGroup observed
  obtain ⟨_, _, _, rfl, saved, ends⟩ := traces_bind_ok.1 rest
  obtain rfl := traces_call.1 saved
  obtain ⟨rfl, rfl⟩ := traces_pure.1 ends
  exact ⟨t, body, named, rfl, rfl⟩

/-- A look leaves a group explained if a control plane is looked at. A deployment leaves the reason
as it was, so that what its phase sets is explained just if the old reason explains it. -/
theorem explained_iff (looked : (d.updateNodeGroupStatus c g).run.Traces log (.ok g')) :
    ∃ t body, d.target g.shownBy c g = .ok t ∧
      log = [⟨.get t, .ok body⟩, ⟨.saveNodeGroup c.uuid g', .ok ()⟩] ∧ g' = g.lookedAt body ∧
      (g.Explained body g'.statusReason ↔
        g.role = .master ∨ g.Explained body g.statusReason) := by
  obtain ⟨t, body, named, asked, rfl⟩ := traces_updateNodeGroupStatus looked
  refine ⟨t, body, named, asked, rfl, ?_⟩
  cases role : g.role with
  | master => exact iff_of_true (NodeGroup.explained_of_master role) (.inl rfl)
  | worker =>
    rw [NodeGroup.statusReason_of_worker role]
    constructor
    · exact .inr
    · rintro (master | explained)
      · cases master
      · exact explained

/-- Workers that have failed for a reason, and run again. -/
theorem explained_iff_sample :
    let g : NodeGroup :=
      { name := "pool", role := .worker, nodeCount := 1, status := ⟨.update, .failed⟩
        statusReason := some "quota exceeded" }
    let body := Json.object [("status", .object [("phase", .string "Running")])]
    ∃ log g', (sample.updateNodeGroupStatus (Cluster.sample .nil) g).run.Traces log (.ok g') ∧
      g'.status = ⟨.update, .complete⟩ ∧ g'.statusReason = some "quota exceeded" ∧
      ¬ g.Explained body g'.statusReason := by
  intro g body
  have looked : ∃ t, (sample.updateNodeGroupStatus (Cluster.sample .nil) g).run.Traces
      [⟨.get t, .ok body⟩, ⟨.saveNodeGroup Uuid.nil (g.lookedAt body), .ok ()⟩]
      (.ok (g.lookedAt body)) := ⟨_, .ask (.ask (.done _))⟩
  obtain ⟨t, looked⟩ := looked
  obtain ⟨_, body', -, asked, -, exact_⟩ := explained_iff looked
  obtain rfl : body = body' := by
    cases asked
    rfl
  refine ⟨_, _, looked, rfl, rfl, fun explained => ?_⟩
  rcases exact_.1 explained with master | before
  · cases master
  · cases before.complete rfl _ rfl

/-- A group after looks at it, one after another. -/
inductive Polled (d : Deployment) (g : NodeGroup) : NodeGroup → Prop
  | recorded : Polled d g g
  | look {c : Cluster} {g' g'' : NodeGroup} {log : Log services} (before : Polled d g g')
      (looked : (d.updateNodeGroupStatus c g').run.Traces log (.ok g'')) : Polled d g g''

/-- Workers keep the reason that they are first recorded with, whatever their deployment shows. -/
theorem Polled.statusReason (polled : d.Polled g g') (worker : g.role = .worker) :
    g'.role = .worker ∧ g'.statusReason = g.statusReason := by
  induction polled with
  | recorded => exact ⟨worker, rfl⟩
  | look _ looked ih =>
    obtain ⟨_, body, -, -, rfl⟩ := traces_updateNodeGroupStatus looked
    obtain ⟨role, reason⟩ := ih
    exact ⟨role, (NodeGroup.statusReason_of_worker role body).trans reason⟩

end Deployment

end ClusterLifecycle
