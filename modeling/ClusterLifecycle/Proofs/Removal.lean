import ClusterLifecycle.Proofs.Names

/-!
Deletions as lists of the objects that they are for.

* `deleteNodeGroup_eq`, `deleteCluster_eq`: a group's objects go in the reverse of the order in which
  they are applied, and those of a cluster after the cluster itself;
* `Deployment.Among`: the objects that some parts of a cluster are;
* `keeps_deleteParts`: what deleting one object does, deleting all of them does.
-/

namespace ClusterLifecycle

/-- What is deleted where the deletion of a cluster is asked for. -/
def Cluster.frame (c : Cluster) : List Part :=
  (.cluster, none) :: (.openStackCluster, none) :: c.nodeGroups.flatMap fun g =>
    (g.parts true).reverse

namespace Deployment

variable {d : Deployment} {c : Cluster}

def deletePart (d : Deployment) (c : Cluster) (p : Part) : Operation Unit := d.delete p.1 c p.2

theorem forM_flatMap {ι κ : Type} (l : List ι) (f : ι → List κ) (g : κ → Operation Unit) :
    (l.flatMap f).forM g = l.forM fun i => (f i).forM g := by
  induction l with
  | nil => rfl
  | cons i rest ih =>
    rw [List.flatMap_cons, List.forM_eq_forM, List.forM_append, ← List.forM_eq_forM, ih, List.forM]

theorem deleteNodeGroup_eq (d : Deployment) (c : Cluster) (g : NodeGroup) :
    d.deleteNodeGroup c g = (g.parts true).reverse.forM (d.deletePart c) := by
  unfold deleteNodeGroup NodeGroup.parts
  cases g.role <;>
    simp only [↓reduceIte, List.reverse_cons, List.reverse_nil, List.nil_append, List.cons_append,
      List.forM, deletePart, bind_pure_unit]

theorem deleteCluster_eq (d : Deployment) (c : Cluster) :
    d.deleteCluster c = c.frame.forM (d.deletePart c) := by
  unfold deleteCluster Cluster.frame
  rw [List.forM, List.forM, forM_flatMap]
  simp only [deleteNodeGroup_eq, deletePart]

/-- The object is one of the parts. -/
def Among (d : Deployment) (c : Cluster) (parts : List Part) (t : ObjectRef) : Prop :=
  ∃ p ∈ parts, d.target p.1 c p.2 = .ok t

theorem target_ok {p : Part} (named : Grouped p.1 → p.2.isSome) :
    ∃ t, d.target p.1 c p.2 = .ok t := by
  obtain ⟨k, g⟩ := p
  cases k with
  | machineTemplate | controlPlane | machineDeployment =>
    obtain ⟨g, rfl⟩ := Option.isSome_iff_exists.1 (named trivial)
    exact ⟨_, rfl⟩
  | _ => exact ⟨_, rfl⟩

theorem named_frame {p : Part} (member : p ∈ c.frame) : Grouped p.1 → p.2.isSome := by
  simp only [Cluster.frame, List.mem_cons, List.mem_flatMap, List.mem_reverse] at member
  rcases member with rfl | rfl | ⟨g, -, own⟩
  · exact False.elim
  · exact False.elim
  · exact (sound_groupParts g true p own).2

end Deployment

namespace Operation

open Program

variable {σ : Type} {R T : Conduct services σ} {E : Error → σ → Prop} {J : σ → Prop}
  {Gone : ObjectRef → σ → Prop} {d : Deployment} {c : Cluster}

/-- Deleting an object keeps `J`, and where it succeeds the object is gone; what is gone stays so. -/
def Removes (R T : Conduct services σ) (J : σ → Prop) (Gone : ObjectRef → σ → Prop)
    (t : ObjectRef) : Prop :=
  ∀ s a s', J s → R (.delete t) s a s' → T (.delete t) s a s' ∧ J s' ∧ (a = .ok () → Gone t s') ∧
    ∀ u, Gone u s → Gone u s'

/-- Deleting parts keeps what deleting each of them keeps, and where it succeeds all are gone. -/
theorem keeps_deleteParts {parts : List Part} {s : σ}
    (named : ∀ p ∈ parts, Deployment.Grouped p.1 → p.2.isSome)
    (round : ∀ t, d.Among c parts t → Removes R T J Gone t) (fails : ∀ e s, J s → E e s)
    (start : J s) :
    Keeps R T E (fun _ s' => J s' ∧ (∀ t, d.Among c parts t → Gone t s') ∧
      ∀ u, Gone u s → Gone u s') (parts.forM (d.deletePart c)) s := by
  induction parts generalizing s with
  | nil => exact ⟨start, by simp [Deployment.Among], fun _ gone => gone⟩
  | cons p rest ih =>
    obtain ⟨t, target⟩ := Deployment.target_ok (d := d) (c := c) (named p List.mem_cons_self)
    rw [List.forM, Deployment.deletePart, Deployment.delete, target]
    change Keeps R T E _ (deleteObject t >>= fun _ => rest.forM (d.deletePart c)) s
    rw [keeps_bind]
    intro a s' answered
    obtain ⟨exchange, after, gone, stays⟩ :=
      round t ⟨p, List.mem_cons_self, target⟩ s a s' start answered
    refine ⟨exchange, ?_⟩
    cases a with
    | error e => exact fails e s' after
    | ok u =>
      have others : ∀ t, d.Among c rest t → Removes R T J Gone t := by
        rintro t ⟨q, hq, target⟩
        exact round t ⟨q, List.mem_cons_of_mem p hq, target⟩
      have later := ih (fun q hq => named q (List.mem_cons_of_mem p hq)) others after
      refine later.imp_ok ?_
      rintro _ s'' ⟨now, all, stays'⟩
      refine ⟨now, ?_, fun v hv => stays' v (stays v hv)⟩
      rintro v ⟨q, hq, target'⟩
      rcases List.mem_cons.1 hq with rfl | hq
      · cases target.symm.trans target'
        exact stays' t (gone rfl)
      · exact all v ⟨q, hq, target'⟩

end Operation

namespace World

open Operation

variable {ρ : Type} {k : Keeper ρ} {w w' s : World ρ} {t u : ObjectRef}

/-- Each object is as it was in `w`, or it is one of those and is gone. -/
def Reduced (those : ObjectRef → Prop) (w s : World ρ) : Prop :=
  ∀ t, s.object? t = w.object? t ∨ (those t ∧ s.object? t = none)

theorem gone_remove (gone : w.object? u = none) : (w.remove t).object? u = none := by
  by_cases same : u = t
  · rw [same, object?_remove_self]
  · rw [object?_remove_of_ne same, gone]

theorem Reduced.rfl {those : ObjectRef → Prop} : Reduced those w w := fun _ => .inl (Eq.refl _)

theorem Reduced.remove {those : ObjectRef → Prop} (h : Reduced those w s) (mine : those t) :
    Reduced those w (s.remove t) := by
  intro u
  by_cases same : u = t
  · subst same
    exact .inr ⟨mine, object?_remove_self s u⟩
  · rw [object?_remove_of_ne same]
    exact h u

theorem Reduced.elsewhere {those : ObjectRef → Prop} (h : Reduced those w s) (other : ¬those t) :
    s.object? t = w.object? t :=
  (h t).resolve_right fun ⟨mine, _⟩ => other mine

/-- A deletion that succeeds has been done; one that fails may have been. -/
theorem delete_cases {faults : Error → Prop} {a : ServiceRequest.Answer (.delete t)}
    (h : MayAnswer faults k (.delete t) w a w') : w' = w.remove t ∨ (w' = w ∧ a ≠ .ok ()) := by
  cases h with
  | answered | lost => exact .inl rfl
  | refused e => exact .inr ⟨rfl, nofun⟩

end World

namespace Pass

variable {σ ι : Type} {R T : Program.Conduct services σ} {E : Error → Cluster → σ → Prop}
  {P : Unit → Cluster → σ → Prop} {c : Cluster} {s : σ}

/-- A loop of operations on the services is one of them. -/
theorem keeps_forM_lift (f : ι → Operation Unit) (l : List ι) :
    Keeps R T E P (l.forM fun i => (f i : Pass Unit)) c s ↔
      (l.forM f).Keeps R T (fun e => E e c) (fun a => P a c) s := by
  induction l generalizing s with
  | nil => rfl
  | cons i rest ih =>
    change Keeps R T E P ((f i : Pass Unit) >>= fun _ => _) c s ↔
      Operation.Keeps R T _ _ (f i >>= fun _ => rest.forM f) s
    rw [keeps_bind, keeps_lift, Operation.keeps_bind]
    refine iff_of_eq (congrArg (fun Q => Operation.Keeps R T (fun e => E e c) Q (f i) s) ?_)
    funext _ t
    exact propext ih

/-- A pass over a cluster that is being deleted, by the operations that it is made of. -/
theorem keeps_teardownPass_iff {d : Deployment} :
    Keeps R T E P d.teardownPass c s ↔
      (d.isPresent .cluster c).Keeps R T (fun e => E e c) (fun present s =>
        if present then P () c s
        else (Credential.revoke c.userId c.uuid).Keeps R T (fun e => E e c) (fun _ s =>
          ((ResourceKind.cloudConfigSecret :: ResourceKind.authorities).forM fun k =>
              d.delete k c).Keeps R T (fun e => E e c) (fun _ s =>
            let c' := { c with status := c.status.withPhase .complete }
            (Operation.saveCluster c').Keeps R T (fun e => E e c') (fun _ => P () c') s) s) s) s := by
  unfold Deployment.teardownPass
  rw [keeps_bind, keeps_get, keeps_bind, keeps_lift]
  refine iff_of_eq (congrArg (fun Q => Operation.Keeps R T _ Q _ s) ?_)
  funext present t
  cases present with
  | true => rfl
  | false =>
    rw [if_neg (by decide), keeps_bind, keeps_lift]
    refine congrArg (fun Q => Operation.Keeps R T _ Q _ t) ?_
    funext _ t
    rw [keeps_bind, keeps_forM_lift]
    refine congrArg (fun Q => Operation.Keeps R T _ Q _ t) ?_
    funext _ t
    rw [keeps_bind, keeps_set, keeps_lift]

end Pass

end ClusterLifecycle
