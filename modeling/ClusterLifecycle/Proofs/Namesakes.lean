import ClusterLifecycle.Proofs.Names
import ClusterLifecycle.Proofs.Texts

/-!
Which of the objects of all clusters in a namespace are one and the same.

* `Uuid.toString_append_inj`: an identity is told from any text that follows it;
* `ResourceKind.suffix_eq_iff`: what follows it, where the kind of object is the same;
* `ResourceKind.ref_eq_iff`: objects are one where they are meant to be, and nowhere else.
-/

namespace ClusterLifecycle

open Deployment (Grouped)

theorem Uuid.toString_append_inj {u v : Uuid} {s t : String} :
    u.toString ++ s = v.toString ++ t ↔ u = v ∧ s = t := by
  constructor
  · intro same
    have texts := congrArg String.toList same
    rw [String.toList_append, String.toList_append] at texts
    have lengths : u.toString.toList.length = v.toString.toList.length := by
      rw [String.length_toList, String.length_toList, length_toString, length_toString]
    obtain ⟨identities, rest⟩ := List.append_inj texts lengths
    exact ⟨toString_injective (String.toList_inj.1 identities), String.toList_inj.1 rest⟩
  · rintro ⟨rfl, rfl⟩
    rfl

theorem NetworkDriver.toString_inj {m n : NetworkDriver} : m.toString = n.toString ↔ m = n := by
  constructor
  · intro same
    have read := ofString?_toString m
    rw [same, ofString?_toString] at read
    exact (Option.some.inj read).symm
  · rintro rfl
    rfl

namespace ResourceKind

variable {k l : ResourceKind} {scope : String} {a b : Cluster} {g h : Option NodeGroup}
  {t u : ObjectRef}

/-- An object that a group gives its name to has such a group. -/
theorem exists_group (named : k.ref scope a g = .ok t) (grouped : Grouped k) :
    ∃ own, g = some own := by
  cases g with
  | some own => exact ⟨own, rfl⟩
  | none =>
    cases k with
    | machineTemplate | controlPlane | machineDeployment => cases named
    | _ => exact grouped.elim

/-- Objects of one kind have the same suffix where they share what it is made of: the name of the
group, or the network driver. -/
theorem suffix_eq_iff (named : k.ref scope a g = .ok t) (named' : k.ref scope b h = .ok u) :
    k.suffix a g = k.suffix b h ↔
      (Grouped k → g.map (·.name) = h.map (·.name)) ∧
      (k = .cniConfig ∨ k = .cniResourceSet →
        a.template.networkDriver = b.template.networkDriver) := by
  cases k with
  | machineTemplate | controlPlane | machineDeployment =>
    obtain ⟨own, rfl⟩ := exists_group named trivial
    obtain ⟨own', rfl⟩ := exists_group named' trivial
    simp [suffix, Grouped, String.append_right_inj]
  | cniConfig | cniResourceSet =>
    simp [suffix, Grouped, String.append_right_inj, NetworkDriver.toString_inj]
  | _ => simp [suffix, Grouped]

/-- Two objects in a namespace are one if and only if they are of the same cluster and kind, and of
the same group or network driver where the kind takes its name from one. Whatever a group is called,
its objects are no secrets, no config maps and no objects of another cluster. -/
theorem ref_eq_iff (own : k ≠ .sharedNamespace) (own' : l ≠ .sharedNamespace)
    (named : k.ref scope a g = .ok t) (named' : l.ref scope b h = .ok u) :
    (t = u ↔ a.uuid = b.uuid ∧ k = l ∧ (Grouped k → g.map (·.name) = h.map (·.name)) ∧
      (k = .cniConfig ∨ k = .cniResourceSet →
        a.template.networkDriver = b.template.networkDriver)) ∧
    (Grouped k → l.kind = "Secret" ∨ l.kind = "ConfigMap" ∨ a.uuid ≠ b.uuid → t ≠ u) := by
  have same : t = u ↔ a.uuid = b.uuid ∧ k = l ∧ k.suffix a g = l.suffix b h := by
    rw [ref_eq own named, ref_eq own' named']
    constructor
    · intro same
      obtain ⟨-, kinds, names, -⟩ := ObjectRef.mk.inj same
      obtain ⟨identity, suffixes⟩ := Uuid.toString_append_inj.1 names
      exact ⟨identity, Deployment.kind_of_suffix kinds suffixes, suffixes⟩
    · rintro ⟨identity, rfl, suffixes⟩
      rw [identity, suffixes]
  constructor
  · rw [same]
    refine and_congr_right fun _ => and_congr_right ?_
    rintro rfl
    exact suffix_eq_iff named named'
  · intro grouped other is
    obtain ⟨identity, rfl, -⟩ := same.1 is
    cases k with
    | machineTemplate | controlPlane | machineDeployment => simp [kind, identity] at other
    | _ => exact grouped.elim

/-- A group that is called like a certificate authority, next to the secret of that authority. -/
theorem ref_eq_iff_sample :
    let c := Cluster.sample .nil
    let g : NodeGroup := { name := "ca", role := .worker, nodeCount := 1 }
    ∃ t u, machineTemplate.ref "magnum-system" c (some g) = .ok t ∧
      apiAuthority.ref "magnum-system" c none = .ok u ∧ t.name = u.name ∧ t ≠ u := by
  intro c g
  have named : ∃ t, machineTemplate.ref "magnum-system" c (some g) = .ok t := ⟨_, rfl⟩
  have named' : ∃ u, apiAuthority.ref "magnum-system" c none = .ok u := ⟨_, rfl⟩
  obtain ⟨t, named⟩ := named
  obtain ⟨u, named'⟩ := named'
  refine ⟨t, u, named, named', ?_, ?_⟩
  · rw [ref_eq (by decide) named, ref_eq (by decide) named']
    rfl
  · exact (ref_eq_iff (by decide) (by decide) named named').2 trivial (.inl rfl)

end ResourceKind

end ClusterLifecycle
