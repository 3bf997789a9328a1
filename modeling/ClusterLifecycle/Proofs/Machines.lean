import ClusterLifecycle.Proofs.Leftovers
import ClusterLifecycle.Proofs.Recording

/-!
The objects that the machines of a cluster are made from, and the groups that they belong to.

* `Machines`: the objects of a group that its machines are made from, by its name and its role;
* `machines_of_parts`: nothing else that is applied for a cluster is one of them;
* `Manned`: whatever machines there are belong to listed groups;
* `Accounts`: a record that accounts for the machines of its cluster.
-/

namespace ClusterLifecycle

namespace Cluster

variable {c c' : Cluster} {g : NodeGroup}

/-- A name stands for one role. -/
def Unambiguous (c : Cluster) : Prop := ∀ p ∈ c.roster, ∀ q ∈ c.roster, p.1 = q.1 → p = q

theorem mem_roster (member : g ∈ c.nodeGroups) : g.post ∈ c.roster := List.mem_map_of_mem member

theorem Pursues.symm (h : c.Pursues c') : c'.Pursues c :=
  ⟨h.uuid.symm, h.action.symm, h.roster.symm⟩

theorem Pursues.unambiguous (h : c.Pursues c') (unambiguous : c.Unambiguous) :
    c'.Unambiguous := by
  rw [Unambiguous, h.roster]
  exact unambiguous

theorem pursues_of_undated (h : c'.undated = c.undated) : c.Pursues c' := by
  have status := congrArg Cluster.status h
  have groups := congrArg Cluster.nodeGroups h
  constructor
  · exact uuid_of_undated h
  · exact congrArg Status.action (show c'.status = c.status from status)
  · exact congrArg (List.map NodeGroup.post) (show c'.nodeGroups = c.nodeGroups from groups)

/-- Putting a group in the place of the first one of its name changes no name and no role. -/
theorem pursues_withNodeGroup (unambiguous : c.Unambiguous) (listed : g.post ∈ c.roster) :
    c.Pursues (c.withNodeGroup g) := by
  have replaced (groups : List NodeGroup) (alike : ∀ h ∈ groups, h.name = g.name → h.post = g.post)
      (named : ∃ h ∈ groups, h.name = g.name) :
      (replaceGroup g groups).map (·.post) = groups.map (·.post) := by
    induction groups with
    | nil =>
      obtain ⟨h, member, -⟩ := named
      cases member
    | cons h rest ih =>
      obtain ⟨here, later⟩ := List.forall_mem_cons.1 alike
      rw [replaceGroup]
      by_cases name : h.name = g.name
      · rw [if_pos name, List.map_cons, List.map_cons, here name]
      · have named' : ∃ h ∈ rest, h.name = g.name := by simpa [name] using named
        rw [if_neg name, List.map_cons, List.map_cons, ih later named']
  refine ⟨rfl, rfl, replaced c.nodeGroups ?_ ?_⟩
  · intro h member name
    exact unambiguous _ (mem_roster member) _ listed name
  · obtain ⟨h, member, post⟩ := List.mem_map.1 listed
    exact ⟨h, member, congrArg Prod.fst post⟩

/-- A group of a new name may be declared. -/
theorem unambiguous_declaring (unambiguous : c.Unambiguous)
    (fresh : ∀ h ∈ c.nodeGroups, h.name ≠ g.name) : (c.declaring g).Unambiguous := by
  have grown : (c.declaring g).roster = c.roster ++ [g.post] := List.map_append
  have other (p : String × Role) (member : p ∈ c.roster) : p.1 ≠ g.post.1 := by
    obtain ⟨h, there, rfl⟩ := List.mem_map.1 member
    exact fresh h there
  intro p hp q hq name
  rw [grown, List.mem_append, List.mem_singleton] at hp hq
  rcases hp with hp | rfl <;> rcases hq with hq | rfl
  · exact unambiguous p hp q hq name
  · exact absurd name (other p hp)
  · exact absurd name.symm (other q hq)
  · rfl

/-- The record without the groups of a name. -/
def without (c : Cluster) (name : String) : Cluster :=
  c.withGroups (c.nodeGroups.filter (·.name ≠ name))

theorem mem_without {name : String} :
    g ∈ (c.without name).nodeGroups ↔ g ∈ c.nodeGroups ∧ g.name ≠ name := by
  simp [without, withGroups]

theorem unambiguous_without (unambiguous : c.Unambiguous) (name : String) :
    (c.without name).Unambiguous := by
  have fewer : (c.without name).roster.Sublist c.roster := List.filter_sublist.map _
  intro p hp q hq
  exact unambiguous p (fewer.subset hp) q (fewer.subset hq)

end Cluster

namespace Deployment

variable {d : Deployment} {c c' : Cluster} {id : Uuid} {g h : NodeGroup} {t : ObjectRef} {p : Part}

/-- The object is one of those that the machines of the group are made from. -/
def Machines (d : Deployment) (id : Uuid) (g : NodeGroup) (t : ObjectRef) : Prop :=
  ∃ c, c.uuid = id ∧ d.Among c (g.parts false) t

theorem grouped_parts (own : p ∈ g.parts false) : Grouped p.1 ∧ p.2 = some g := by
  unfold NodeGroup.parts at own
  cases role : g.role <;> simp [role] at own <;> rcases own with rfl | rfl <;> exact ⟨trivial, rfl⟩

theorem named_groupParts (g : NodeGroup) :
    ∀ p ∈ (g.parts true).reverse, Grouped p.1 → p.2.isSome :=
  fun p own => (sound_groupParts g true p (List.mem_reverse.1 own)).2

/-- A grouped object goes by the identity of its cluster and the name of its group. -/
theorem target_grouped {k : ResourceKind} (grouped : Grouped k) (same : c'.uuid = c.uuid)
    (name : h.name = g.name) : d.target k c' (some h) = d.target k c (some g) := by
  cases k with
  | machineTemplate | controlPlane | machineDeployment =>
    simp only [target, ResourceKind.ref, ResourceKind.objectName, ResourceKind.groupObjectName,
      same, name]
  | _ => exact grouped.elim

/-- Groups of one role have objects of the same kinds. -/
theorem kinds_parts (role : h.role = g.role) (own : p ∈ g.parts false) :
    (p.1, some h) ∈ h.parts false := by
  unfold NodeGroup.parts at own ⊢
  cases r : g.role <;> simp [r] at own <;> rcases own with rfl | rfl <;> simp [role, r]

/-- Groups of one name and role have the same machines. -/
theorem Machines.among (machine : d.Machines c.uuid g t) (same : h.post = g.post) :
    d.Among c (h.parts false) t := by
  obtain ⟨c', mine, p, own, target⟩ := machine
  obtain ⟨grouped, group⟩ := grouped_parts own
  refine ⟨(p.1, some h), kinds_parts (congrArg Prod.snd same) own, ?_⟩
  rw [group] at target
  rw [← target]
  exact target_grouped grouped mine.symm (congrArg Prod.fst same)

theorem Machines.congr (machine : d.Machines id g t) (same : h.post = g.post) :
    d.Machines id h t := by
  obtain ⟨c, mine, own⟩ := machine
  exact ⟨c, mine, Machines.among ⟨c, rfl, own⟩ same⟩

/-- Groups with a machine's object in common have one name. -/
theorem Machines.name_eq (machine : d.Machines c.uuid g t) (machine' : d.Machines c.uuid h t) :
    g.name = h.name := by
  obtain ⟨p, own, target⟩ := machine.among rfl
  obtain ⟨q, own', target'⟩ := machine'.among rfl
  obtain ⟨grouped, group⟩ := grouped_parts own
  have names := (target_injective target target').2 grouped
  rw [group, (grouped_parts own').2] at names
  exact Option.some_inj.1 names

/-- An object that machines are made from goes by a grouped kind. -/
theorem Machines.grouped {k : ResourceKind} {group : Option NodeGroup}
    (machine : d.Machines c.uuid g t) (target : d.target k c group = .ok t) : Grouped k := by
  obtain ⟨p, own, target'⟩ := machine.among rfl
  rw [(target_injective target target').1]
  exact (grouped_parts own).1

/-- What is applied for a group is one of its machines' objects, or of nobody's. -/
theorem machines_of_group (member : p ∈ g.parts true) (target : d.target p.1 c p.2 = .ok t)
    (machine : d.Machines c.uuid h t) : d.Machines c.uuid g t := by
  rcases NodeGroup.mem_parts.1 member with own | ⟨-, rfl⟩
  · exact ⟨c, rfl, p, own, target⟩
  · exact (machine.grouped target).elim

/-- What is applied for a cluster is one of the machines' objects only for one of its groups. -/
theorem machines_of_parts (member : p ∈ (.cloudConfigSecret, none) :: c.parts)
    (target : d.target p.1 c p.2 = .ok t) (machine : d.Machines c.uuid g t) :
    ∃ h ∈ c.nodeGroups, d.Machines c.uuid h t := by
  have grouped := machine.grouped target
  have groups : ofGroups p.1 = true := by
    cases kind : p.1 with
    | machineTemplate | controlPlane | machineDeployment => rfl
    | _ =>
      rw [kind] at grouped
      exact grouped.elim
  rcases List.mem_cons.1 member with rfl | part
  · exact grouped.elim
  rcases List.mem_append.1 ((parts_perm c).mem_iff.1 part) with fixed | own
  · rw [(fixedParts_facts c).2 p fixed] at groups
    cases groups
  · obtain ⟨h, there, own⟩ := NodeGroup.mem_allParts.1 own
    exact ⟨h, there, machines_of_group own target machine⟩

end Deployment

namespace World

variable {ρ : Type} {d : Deployment} {id : Uuid} {groups groups' : List NodeGroup}
  {c c' : Cluster} {w w' : World ρ}

/-- Whatever machines of the cluster there are belong to one of the groups. -/
def Manned (d : Deployment) (id : Uuid) (groups : List NodeGroup) (w : World ρ) : Prop :=
  ∀ g t, d.Machines id g t → (w.object? t).isSome → ∃ h ∈ groups, d.Machines id h t

theorem Manned.thin (h : Manned d id groups w)
    (fewer : ∀ t, (w'.object? t).isSome → (w.object? t).isSome) : Manned d id groups w' :=
  fun g t machine there => h g t machine (fewer t there)

/-- Only names and roles count. -/
theorem Manned.of_posts (h : Manned d id groups w)
    (posts : ∀ g ∈ groups, ∃ g' ∈ groups', g'.post = g.post) : Manned d id groups' w := by
  intro g t machine there
  obtain ⟨g₁, member, machine₁⟩ := h g t machine there
  obtain ⟨g₂, member', same⟩ := posts g₁ member
  exact ⟨g₂, member', machine₁.congr same⟩

theorem Manned.of_roster (h : Manned d id c.nodeGroups w) (same : c'.roster = c.roster) :
    Manned d id c'.nodeGroups w := by
  apply h.of_posts
  intro g member
  have listed := Cluster.mem_roster member
  rw [← same] at listed
  exact List.mem_map.1 listed

theorem Manned.mono (h : Manned d id groups w) (more : ∀ g ∈ groups, g ∈ groups') :
    Manned d id groups' w :=
  h.of_posts fun g member => ⟨g, more g member, rfl⟩

/-- No machine is left where all objects of the groups are gone. -/
theorem Manned.none (h : Manned d c.uuid groups w)
    (gone : ∀ g ∈ groups, ∀ t, d.Among c (g.parts false) t → w.object? t = none) :
    Manned d c.uuid [] w := by
  intro g t machine there
  obtain ⟨g', member, own⟩ := h g t machine there
  rw [gone g' member t (own.among rfl)] at there
  cases there

/-- Applying the objects of listed groups keeps what machines there are listed. -/
theorem Manned.place {m : Manifest} (h : Manned d id groups w)
    (listed : ∀ g, d.Machines id g m.target → ∃ h ∈ groups, d.Machines id h m.target) :
    Manned d id groups (w.place m) := by
  intro g t machine there
  by_cases same : t = m.target
  · subst same
    exact listed g machine
  · rw [object?_place_of_ne same] at there
    exact h g t machine there

/-- The record accounts for the machines of its cluster. Where the cluster is being deleted there
are none. -/
structure Accounts (d : Deployment) (c : Cluster) (w : World ρ) : Prop where
  unambiguous : c.Unambiguous
  manned : Manned d c.uuid c.nodeGroups w
  cleared : c.status.action = .delete → Manned d c.uuid [] w

theorem Accounts.pursues (h : Accounts d c w) (pursues : c.Pursues c') : Accounts d c' w where
  unambiguous := pursues.unambiguous h.unambiguous
  manned := by
    rw [pursues.uuid]
    exact h.manned.of_roster pursues.roster
  cleared deleting := by
    rw [pursues.uuid]
    exact h.cleared (pursues.action.symm.trans deleting)

theorem Accounts.thin (h : Accounts d c w)
    (fewer : ∀ t, (w'.object? t).isSome → (w.object? t).isSome) : Accounts d c w' where
  unambiguous := h.unambiguous
  manned := h.manned.thin fewer
  cleared deleting := (h.cleared deleting).thin fewer

end World

end ClusterLifecycle
