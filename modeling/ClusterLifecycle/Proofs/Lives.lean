import ClusterLifecycle.Proofs.Procedures

/-!
The life of a record in hand: operations on it one after the other, while the services may answer
anything and any of them may fail.

* `Status.Moves`: the ways in which an operation may change the status of a cluster;
* `Stage.Orderly`, `orderly_of_happens`: what every single operation keeps to;
* `life_orderly`: over a life of any length a deletion is never taken back, nothing makes a cluster
  fail, and its groups are those that it had and those that were added, in that order.
-/

namespace ClusterLifecycle

open Program

/-- The ways in which an operation may change the status of a cluster, if it does. -/
inductive Status.Moves : Procedure → Status → Status → Prop
  | stays (p : Procedure) (s : Status) : Moves p s s
  | settles {s : Status} (running : s.phase = .inProgress) :
      Moves .updateClusterStatus s (s.withPhase .complete)
  | reopens {s : Status} (g : NodeGroup) (living : s.action ≠ .delete) (settled : s.isTerminal) :
      Moves (.addNodeGroup g) s .updateInProgress

/-- A way of changing the status that keeps an action and makes no failure. -/
theorem Status.Moves.keeps {p : Procedure} {s s' : Status} (h : Moves p s s') :
    (s.action = .delete → s'.action = .delete) ∧ (s'.phase = .failed → s' = s) := by
  cases h with
  | stays => exact ⟨id, fun _ => rfl⟩
  | settles => exact ⟨id, nofun⟩
  | reopens g living => exact ⟨fun deleting => absurd deleting living, nofun⟩

/-- An operation as it ran: the record it was given, all that it asked and was answered, its result
and the record that it left. -/
structure Stage where
  procedure : Procedure
  before : Cluster
  log : Log services
  result : Result (Option NodeGroup)
  after : Cluster

namespace Stage

/-- The services may have answered anything. -/
def Happens (d : Deployment) (s : Stage) : Prop :=
  Reaches (Logged Anyhow) ((s.procedure.pass d).run.run s.before) ((), [])
    (.done (s.result, s.after)) ((), s.log)

/-- Nothing was asked, and the record is as it was. -/
def Idle (s : Stage) : Prop := s.log = [] ∧ s.after = s.before

/-- The group that the operation puts into the record. -/
def declared (s : Stage) : Option NodeGroup :=
  match s.procedure with
  | .addNodeGroup g => if s.before.status.action = .delete then none else some g
  | _ => none

/-- What an operation keeps to, whether or not it succeeds. -/
structure Orderly (s : Stage) : Prop where
  moves : s.before.status.Moves s.procedure s.after.status
  leaves : s.procedure.Leaves s.before s.after
  returns : ∀ r, s.result = .ok r → s.procedure.Returns r
  settled : s.procedure = .updateClusterStatus → s.before.status.isTerminal →
    s.Idle ∧ s.result = .ok none
  deleted : ∀ g, s.procedure = .addNodeGroup g → s.before.status.action = .delete →
    s.Idle ∧ s.result = .error (.unsupported "create_nodegroup on a deleted cluster")

end Stage

/-- What has been asked for nothing has been answered nothing. -/
theorem reaches_done {I : Interface} {σ α : Type} {R : Conduct I σ} {a : α} {p : Program I α}
    {s t : σ} (h : Reaches R (.done a) s p t) : p = .done a ∧ t = s := by
  cases h
  exact ⟨rfl, rfl⟩

namespace Stage

variable {d : Deployment} {s : Stage}

theorem ends_of_happens (happens : s.Happens d) :
    s.procedure.Leaves s.before s.after ∧ ∀ r, s.result = .ok r → s.procedure.Returns r := by
  have ends := (s.procedure.walks (grants_anyhow d s.before)).at_end happens
  cases result : s.result with
  | ok r =>
    rw [result] at ends
    refine ⟨ends.2, ?_⟩
    rintro r ⟨⟩
    exact ends.1
  | error e =>
    rw [result] at ends
    exact ⟨ends, nofun⟩

/-- The statuses that an operation may leave are those that it may move to. -/
theorem moves_of_leaves {p : Procedure} {c c' : Cluster} (h : p.Leaves c c') :
    c.status.Moves p c'.status := by
  cases p with
  | updateClusterStatus =>
    rcases Cluster.Tracks.status h with same | ⟨running, complete⟩
    · rw [same]
      exact .stays _ _
    · rw [complete]
      exact .settles running
  | addNodeGroup g =>
    change c' = _ at h
    by_cases deleting : c.status.action = .delete
    · rw [h, if_pos deleting]
      exact .stays _ _
    · rw [h, if_neg deleting, Cluster.declaring]
      dsimp only
      split
      next settled => exact .reopens g deleting settled
      next => exact .stays _ _
  | _ =>
    cases h
    exact .stays _ _

theorem orderly_of_happens (happens : s.Happens d) : s.Orderly := by
  obtain ⟨leaves, returns⟩ := ends_of_happens happens
  -- An operation that asks nothing has one run only.
  have idle {r : Result (Option NodeGroup)}
      (h : (s.procedure.pass d).run.run s.before = .done (r, s.before)) :
      s.Idle ∧ s.result = r := by
    rw [Happens, h] at happens
    obtain ⟨ends, left⟩ := reaches_done happens
    simp only [Program.done.injEq, Prod.mk.injEq] at ends left
    exact ⟨⟨left.2, ends.2⟩, ends.1⟩
  refine ⟨moves_of_leaves leaves, leaves, returns, ?_, ?_⟩
  · intro is terminal
    apply idle
    have settled : ¬s.before.status.phase = .inProgress := of_decide_eq_true terminal
    rw [is]
    change (((if s.before.status.phase = .inProgress then _ else pure () : Pass Unit) >>= fun _ =>
      pure none).run.run s.before) = _
    rw [if_neg settled]
    rfl
  · intro g is deleting
    apply idle
    rw [is]
    unfold Procedure.pass
    simp only [Deployment.addNodeGroup_eq]
    change (((if s.before.status.action = .delete then _ else _ : Pass Unit) >>= fun _ =>
      pure none).run.run s.before) = _
    rw [if_pos deleting]
    rfl

end Stage

/-- A life of a record: operations on it, each given what the one before has left. -/
inductive Life (d : Deployment) (c : Cluster) : List Stage → Cluster → Prop
  | start : Life d c [] c
  | next {stages : List Stage} (s : Stage) (earlier : Life d c stages s.before)
      (happens : s.Happens d) : Life d c (stages ++ [s]) s.after

variable {d : Deployment} {c c' : Cluster} {stages : List Stage}

/-- After an operation the groups are those that were there, and the one that it has declared. -/
theorem Stage.Orderly.groups {s : Stage} (h : s.Orderly) :
    List.Forall₂ NodeGroup.Tracks (s.before.nodeGroups ++ s.declared.toList)
      s.after.nodeGroups := by
  have leaves := h.leaves
  unfold declared
  cases is : s.procedure with
  | updateClusterStatus =>
    rw [is] at leaves
    rw [Option.toList_none, List.append_nil]
    exact Cluster.Tracks.nodeGroups leaves
  | addNodeGroup g =>
    rw [is] at leaves
    change s.after = _ at leaves
    rw [leaves]
    dsimp only
    split
    · rw [Option.toList_none, List.append_nil]
      exact NodeGroup.tracks_rfl _
    · exact NodeGroup.tracks_rfl _
  | _ =>
    rw [is] at leaves
    change s.after = s.before at leaves
    rw [leaves, Option.toList_none, List.append_nil]
    exact NodeGroup.tracks_rfl _

/-- Whatever is done with a record and whatever the services answer: every operation keeps to what
it may do, a deletion is never taken back, no operation makes a cluster fail, and the groups are the
ones it had and the ones that were added, in that order. -/
theorem life_orderly (life : Life d c stages c') :
    (∀ s ∈ stages, s.Orderly) ∧
    (c.status.action = .delete → c'.status.action = .delete) ∧
    (c'.status.phase = .failed → c'.status = c.status) ∧
    List.Forall₂ NodeGroup.Tracks (c.nodeGroups ++ stages.filterMap Stage.declared)
      c'.nodeGroups := by
  induction life with
  | start =>
    refine ⟨by simp, id, fun _ => rfl, ?_⟩
    rw [List.filterMap_nil, List.append_nil]
    exact NodeGroup.tracks_rfl c.nodeGroups
  | @next stages s earlier happens ih =>
    obtain ⟨all, deleting, failed, groups⟩ := ih
    have orderly := Stage.orderly_of_happens happens
    obtain ⟨deleting', failed'⟩ := orderly.moves.keeps
    refine ⟨?_, fun was => deleting' (deleting was), ?_, ?_⟩
    · intro t member
      rcases List.mem_append.1 member with there | last
      · exact all t there
      · exact List.mem_singleton.1 last ▸ orderly
    · intro fails
      have same := failed' fails
      rw [same] at fails ⊢
      exact failed fails
    · rw [List.filterMap_append, ← List.append_assoc]
      have added : [s].filterMap Stage.declared = s.declared.toList := by
        cases declared : s.declared <;> simp [declared]
      rw [added]
      exact NodeGroup.tracks_trans (List.rel_append groups (NodeGroup.tracks_rfl _)) orderly.groups

/-- Services that always answer in one way. -/
def always (answer : (q : ServiceRequest) → q.Answer) (q : ServiceRequest)
    (s : Unit × Log services) : q.Answer × Unit × Log services :=
  (answer q, (), s.2 ++ [⟨q, answer q⟩])

theorem logged_always (answer : (q : ServiceRequest) → q.Answer) (q : ServiceRequest)
    (s : Unit × Log services) : Logged Anyhow q s (always answer q s).1 (always answer q s).2 :=
  ⟨trivial, rfl⟩

/-- The operation as it runs against such services. -/
def Stage.against (d : Deployment) (answer : (q : ServiceRequest) → q.Answer) (p : Procedure)
    (c : Cluster) : Stage :=
  let ran := ((p.pass d).run.run c).run (I := services) (always answer) ((), [])
  { procedure := p, before := c, log := ran.2.2, result := ran.1.1, after := ran.1.2 }

theorem Stage.happens_against (d : Deployment) (answer : (q : ServiceRequest) → q.Answer)
    (p : Procedure) (c : Cluster) : (Stage.against d answer p c).Happens d :=
  reaches_run (logged_always answer) ((p.pass d).run.run c) ((), [])

open Json in
/-- Everything is up, and every request is served. -/
def obliging : (q : ServiceRequest) → q.Answer
  | .get _ =>
    .ok (object [
      ("spec", object [("controlPlaneEndpoint",
        object [("host", string "10.0.0.1"), ("port", ofNat 6443)])]),
      ("status", object [
        ("conditions", array [object [("type", string "ControlPlaneReady"),
          ("status", string "True")]]),
        ("ready", bool true), ("version", string "v1.23.5"), ("phase", string "Running")])])
  | .apply _ | .delete _ | .deleteCredential .. | .saveCluster _ | .saveNodeGroup .. => .ok ()
  | .findCredential _ name => .error (.notFound "ApplicationCredential" name)
  | .createCredential _ name _ => .ok { id := "1", name, secret := some "secret" }

theorem life_orderly_sample :
    let d := Deployment.sample
    let c := Cluster.sample .nil
    let g : NodeGroup := { name := "more", role := .worker, nodeCount := 3 }
    let settled := Stage.against d obliging .updateClusterStatus c
    let added := Stage.against d (ServiceRequest.refuse (.identity "down" none)) (.addNodeGroup g)
      settled.after
    Life d c [settled, added] added.after ∧ settled.after.status = ⟨.create, .complete⟩ ∧
      added.after.status = .updateInProgress ∧ added.result ≠ .ok none ∧
      List.Forall₂ NodeGroup.Tracks (c.nodeGroups ++ [g]) added.after.nodeGroups := by
  intro d c g settled added
  have life : Life d c [settled, added] added.after :=
    (Life.start.next settled (Stage.happens_against d obliging _ c)).next added
      (Stage.happens_against d _ _ settled.after)
  have complete : settled.after.status = ⟨.create, .complete⟩ := by decide +kernel
  obtain ⟨-, -, -, groups⟩ := life_orderly life
  refine ⟨life, complete, by decide +kernel, by decide +kernel, ?_⟩
  have declared : [settled, added].filterMap Stage.declared = [g] := by decide +kernel
  rw [declared] at groups
  exact groups

end ClusterLifecycle
