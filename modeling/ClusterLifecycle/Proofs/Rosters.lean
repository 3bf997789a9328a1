import ClusterLifecycle.Proofs.Errands
import ClusterLifecycle.Proofs.Machines

/-!
What is known of the stored record and of the machines of its cluster, while the services may fail
at any time and objects come to an end.

* `Amid`, `Faces`: how such services answer, and a console in front of them;
* `Tallied`, `InHand`: what is known of the record that is stored, and of one that has been loaded;
* `InHand.amid`: the requests that keep that;
* `keeps_save`, `keeps_deletions`: saving a record that accounts for the machines, and what a
  deletion that succeeds leaves.
-/

namespace ClusterLifecycle

open Program

namespace World

variable {ρ : Type}

/-- A call is answered as the world answers, or fails, before it has taken effect or after.
Meanwhile objects may be gone, and others be reported on. -/
def Amid (k : Keeper ρ) : Conduct services (World ρ) := fun q w a w' =>
  ∃ w₀, w₀.records = w.records ∧ (∀ t, (w₀.object? t).isSome → (w.object? t).isSome) ∧
    MayAnswer (fun _ => True) k q w₀ a w'

/-- How a console answers in front of such a world. -/
def Faces (k : Keeper ρ) : (q : ConsoleRequest) → World ρ → q.Answer → World ρ → Prop
  | .service q, w, a, w' => Amid k q w a w'
  | q, w, a, w' => ∃ records, w' = { w with records } ∧ k.Tends q w.records a records

variable {k : Keeper ρ} {d : Deployment} {id : Uuid} {c c' : Cluster} {g : NodeGroup}
  {w w' : World ρ} {records : ρ} {t u : ObjectRef}

theorem amid_answer (q : ServiceRequest) (w : World ρ) :
    Amid k q w (w.answer k q).1 (w.answer k q).2 :=
  ⟨w, rfl, fun _ there => there, .answered⟩

/-- What the console does by itself leaves the world as it is, but for the removal of a record. -/
theorem faces_idle {J : World ρ → Prop} (q : ConsoleRequest) (a : q.Answer) (w w' : World ρ)
    (idle : q.Idle) (now : J w) (answered : Faces k q w a w') : J w' := by
  cases q with
  | service | forget => exact idle.elim
  | _ =>
    obtain ⟨records, rfl, tended⟩ := answered
    cases tended <;> exact now

/-- The record has been loaded, and accounts for the machines of its cluster. -/
structure InHand (k : Keeper ρ) (d : Deployment) (c : Cluster) (w : World ρ) : Prop where
  stored : ∃ x, k.load c.uuid w.records = .ok x ∧ c.Pursues x
  accounts : Accounts d c w

/-- Whatever record is stored accounts for the machines of its cluster, and without one there are
none. -/
structure Tallied (k : Keeper ρ) (d : Deployment) (id : Uuid) (w : World ρ) : Prop where
  recorded : ∀ c, k.load id w.records = .ok c → c.uuid = id ∧ Accounts d c w
  unrecorded : (∀ c, k.load id w.records ≠ .ok c) → Manned d id [] w

theorem InHand.tallied (h : InHand k d c w) : Tallied k d c.uuid w where
  recorded x loaded := by
    obtain ⟨y, stored, pursues⟩ := h.stored
    cases stored.symm.trans loaded
    exact ⟨pursues.uuid, h.accounts.pursues pursues⟩
  unrecorded none := by
    obtain ⟨y, stored, -⟩ := h.stored
    exact absurd stored (none y)

theorem Tallied.inHand (h : Tallied k d id w) (loaded : k.load id w.records = .ok c) :
    c.uuid = id ∧ InHand k d c w := by
  obtain ⟨mine, accounts⟩ := h.recorded c loaded
  subst mine
  exact ⟨rfl, ⟨c, loaded, .rfl⟩, accounts⟩

theorem InHand.pursues (h : InHand k d c w) (pursues : c.Pursues c') : InHand k d c' w := by
  obtain ⟨x, stored, follows⟩ := h.stored
  refine ⟨⟨x, ?_, pursues.symm.trans follows⟩, h.accounts.pursues pursues⟩
  rw [pursues.uuid]
  exact stored

/-- Objects that come to an end change nothing of it. -/
theorem InHand.thin (h : InHand k d c w) (same : w'.records = w.records)
    (fewer : ∀ t, (w'.object? t).isSome → (w.object? t).isSome) : InHand k d c w' := by
  refine ⟨?_, h.accounts.thin fewer⟩
  rw [same]
  exact h.stored

theorem Tallied.thin (h : Tallied k d id w) (same : w'.records = w.records)
    (fewer : ∀ t, (w'.object? t).isSome → (w.object? t).isSome) : Tallied k d id w' where
  recorded c loaded := by
    rw [same] at loaded
    exact (h.recorded c loaded).imp_right fun accounts => accounts.thin fewer
  unrecorded none := by
    rw [same] at none
    exact (h.unrecorded none).thin fewer

section
variable (faithful : k.Faithful c.uuid)
include faithful

/-- A record that accounts for the machines may be saved, wherever it can be saved or not. -/
theorem Tallied.save (h : Tallied k d c.uuid w) (accounts : Accounts d c w) :
    Tallied k d c.uuid { w with records := (k.save c w.records).2 } ∧
      ((k.save c w.records).1 = .ok () →
        InHand k d c { w with records := (k.save c w.records).2 }) := by
  cases result : (k.save c w.records).1 with
  | ok u =>
    obtain ⟨x, stored, same⟩ := faithful.saved c w.records rfl result
    have held : InHand k d c { w with records := (k.save c w.records).2 } :=
      ⟨⟨x, stored, Cluster.pursues_of_undated same⟩, accounts.thin fun _ there => there⟩
    exact ⟨held.tallied, fun _ => held⟩
  | error e =>
    have loads := faithful.spared c w.records e rfl result
    refine ⟨⟨?_, ?_⟩, nofun⟩
    · intro x loaded
      exact (h.recorded x ((loads x).1 loaded)).imp_right fun accounts =>
        accounts.thin fun _ there => there
    · intro none
      exact h.unrecorded fun x loaded => none x ((loads x).2 loaded)

/-- A later state of the record may be saved. -/
theorem InHand.save (h : InHand k d c w) (pursues : c.Pursues c') :
    InHand k d c { w with records := (k.save c' w.records).2 } := by
  refine ⟨?_, h.accounts.thin fun _ there => there⟩
  cases result : (k.save c' w.records).1 with
  | ok u =>
    obtain ⟨x, stored, same⟩ := faithful.saved c' w.records pursues.uuid result
    rw [pursues.uuid] at stored
    exact ⟨x, stored, pursues.trans (Cluster.pursues_of_undated same)⟩
  | error e =>
    obtain ⟨x, stored, follows⟩ := h.stored
    have loads := faithful.spared c' w.records e pursues.uuid result
    exact ⟨x, (loads x).2 stored, follows⟩

/-- So may a listed group. -/
theorem InHand.saveNodeGroup (h : InHand k d c w) (listed : g.post ∈ c.roster) :
    InHand k d c { w with records := (k.saveNodeGroup c.uuid g w.records).2 } := by
  obtain ⟨x, stored, follows⟩ := h.stored
  rw [faithful.saveNodeGroup x g w.records stored]
  apply h.save faithful
  apply follows.trans
  apply Cluster.pursues_withNodeGroup (follows.unambiguous h.accounts.unambiguous)
  rw [follows.roster]
  exact listed

end

/-- The request applies no object of a group that is not listed, and saves a record only in the
course of the same action and with the same groups. -/
def Harmless (d : Deployment) (c : Cluster) : ServiceRequest → Prop
  | .apply m => c.status.action ≠ .delete ∧
      ∀ g, d.Machines c.uuid g m.target → ∃ h ∈ c.nodeGroups, d.Machines c.uuid h m.target
  | .saveCluster c' => c.Pursues c'
  | .saveNodeGroup id g => id = c.uuid ∧ g.post ∈ c.roster
  | _ => True

theorem harmless_of_other {q : ServiceRequest} (keeps : ¬q.Saves) (applies : ¬q.Applies) :
    Harmless d c q := by
  cases q with
  | apply => exact absurd trivial applies
  | saveCluster | saveNodeGroup => exact absurd trivial keeps
  | _ => trivial

theorem there_remove (there : ((w.remove t).object? u).isSome) : (w.object? u).isSome := by
  by_contra absent
  rw [gone_remove (Option.not_isSome_iff_eq_none.1 absent)] at there
  cases there

theorem InHand.answer {q : ServiceRequest} (faithful : k.Faithful c.uuid) (h : InHand k d c w)
    (harmless : Harmless d c q) : InHand k d c (w.answer k q).2 := by
  cases q with
  | apply m =>
    obtain ⟨living, listed⟩ := harmless
    refine ⟨h.stored, h.accounts.unambiguous, ?_, fun deleting => absurd deleting living⟩
    exact h.accounts.manned.place listed
  | delete t => exact h.thin rfl fun _ => there_remove
  | saveCluster c' => exact h.save faithful harmless
  | saveNodeGroup id g =>
    obtain ⟨rfl, listed⟩ := harmless
    exact h.saveNodeGroup faithful listed
  | deleteCredential user id =>
    rw [World.answer]
    split
    · exact h.thin rfl fun _ there => there
    · exact h
  | _ => exact h.thin rfl fun _ there => there

/-- Harmless requests keep a record in hand, whatever fails. -/
theorem InHand.amid {q : ServiceRequest} {a : q.Answer} (faithful : k.Faithful c.uuid)
    (h : InHand k d c w) (harmless : Harmless d c q) (answered : Amid k q w a w') :
    InHand k d c w' := by
  obtain ⟨w₀, same, fewer, served⟩ := answered
  have before := h.thin same fewer
  cases served with
  | answered | lost => exact before.answer faithful harmless
  | refused => exact before

theorem keeps_save (faithful : k.Faithful c.uuid) (now : Tallied k d c.uuid w)
    (accounts : Accounts d c w) :
    (Operation.saveCluster c).Keeps (Amid k) (fun _ _ _ w' => Tallied k d c.uuid w')
      (fun _ => Tallied k d c.uuid) (fun _ => InHand k d c) w := by
  rintro (a : ServiceRequest.Answer (.saveCluster c)) w' ⟨w₀, same, fewer, served⟩
  have before := now.thin same fewer
  obtain ⟨after, held⟩ := before.save faithful (accounts.thin fewer)
  cases served with
  | answered =>
    refine ⟨after, ?_⟩
    change Operation.Ends _ _ (k.save c w₀.records).1 _
    cases result : (k.save c w₀.records).1 with
    | ok u => exact held result
    | error e => exact after
  | refused => exact ⟨before, before⟩
  | lost => exact ⟨after, after⟩

/-- Where a deletion succeeds all that it is for is gone. -/
theorem keeps_deletions {parts : List Part} (faithful : k.Faithful c.uuid)
    (named : ∀ p ∈ parts, Deployment.Grouped p.1 → p.2.isSome) (now : InHand k d c w) :
    (parts.forM (d.deletePart c)).Keeps (Amid k) (fun _ _ _ w' => InHand k d c w')
      (fun _ => InHand k d c)
      (fun _ w' => (∀ t, d.Among c parts t → w'.object? t = none) ∧ InHand k d c w') w := by
  have round (t : ObjectRef) : Operation.Removes (Amid k) (fun _ _ _ w' => InHand k d c w')
      (InHand k d c) (fun t w => w.object? t = none) t := by
    rintro s a s' now answered
    have harmless : Harmless d c (.delete t) := trivial
    have after := now.amid faithful harmless answered
    obtain ⟨w₀, -, fewer, served⟩ := answered
    have stays (u : ObjectRef) (gone : s.object? u = none) : w₀.object? u = none := by
      by_contra there
      have was := fewer u (Option.isSome_iff_ne_none.2 there)
      rw [gone] at was
      cases was
    rcases delete_cases served with rfl | ⟨rfl, failed⟩
    · refine ⟨after, after, fun _ => object?_remove_self w₀ t, ?_⟩
      exact fun u gone => gone_remove (stays u gone)
    · exact ⟨after, after, fun ok => absurd ok failed, stays⟩
  have deletes := Operation.keeps_deleteParts (E := fun _ => InHand k d c) (d := d) (c := c) named
    (fun t _ => round t) (fun _ _ now => now) now
  exact deletes.imp_ok fun _ _ ends => ⟨ends.2.1, ends.1⟩

/-- Where nothing fails, deleting parts leaves all other objects, and the records. -/
theorem run_deleteParts {parts : List Part}
    (named : ∀ p ∈ parts, Deployment.Grouped p.1 → p.2.isSome) (w : World ρ) :
    ∃ w', (parts.forM (d.deletePart c)).run.run (answer k) w = (.ok (), w') ∧
      w'.records = w.records ∧ ∀ t, ¬d.Among c parts t → w'.object? t = w.object? t := by
  induction parts generalizing w with
  | nil => exact ⟨w, rfl, rfl, fun _ _ => rfl⟩
  | cons p rest ih =>
    obtain ⟨u, target⟩ := Deployment.target_ok (d := d) (c := c) (named p List.mem_cons_self)
    obtain ⟨w', ran, records, spared⟩ :=
      ih (fun q member => named q (List.mem_cons_of_mem p member)) (w.remove u)
    refine ⟨w', ?_, records, ?_⟩
    · rw [List.forM, Deployment.deletePart, Deployment.delete, target]
      exact ran
    · intro t outside
      have other : t ≠ u := by
        rintro rfl
        exact outside ⟨p, List.mem_cons_self, target⟩
      have later : ¬d.Among c rest t := by
        rintro ⟨q, member, own⟩
        exact outside ⟨q, List.mem_cons_of_mem p member, own⟩
      rw [spared t later]
      exact object?_remove_of_ne other w

/-- No machine is left where the deletion of the cluster has succeeded. -/
theorem keeps_deleteCluster_machines (faithful : k.Faithful c.uuid) (now : InHand k d c w) :
    (d.deleteCluster c).Keeps (Amid k) (fun _ _ _ w' => InHand k d c w') (fun _ => InHand k d c)
      (fun _ w' => Manned d c.uuid [] w' ∧ InHand k d c w') w := by
  rw [Deployment.deleteCluster_eq]
  apply (keeps_deletions faithful (fun _ => Deployment.named_frame) now).imp_ok
  rintro _ w' ⟨gone, now⟩
  refine ⟨now.accounts.manned.none ?_, now⟩
  rintro g member t ⟨p, own, target⟩
  refine gone t ⟨p, ?_, target⟩
  have within : p ∈ c.nodeGroups.flatMap fun g => (g.parts true).reverse :=
    List.mem_flatMap.2 ⟨g, member, List.mem_reverse.2 (NodeGroup.mem_parts_of_false true own)⟩
  exact List.mem_cons_of_mem _ (List.mem_cons_of_mem _ within)

end World

end ClusterLifecycle
