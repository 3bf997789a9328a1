/-!
Looking up in a list of named entries after it has been changed.
-/

namespace ClusterLifecycle

variable {α β : Type} [BEq α] [LawfulBEq α]

/-- What all entries satisfy, the one that is found satisfies. -/
theorem of_lookup {p : α → β → Prop} {table : List (α × β)}
    {a : α} {b : β} (all : ∀ e ∈ table, p e.1 e.2) (h : table.lookup a = some b) : p a b := by
  obtain ⟨before, later, split, _⟩ := List.lookup_eq_some_iff.1 h
  exact all (a, b) (split ▸ by simp)

theorem lookup_cons_eq_if [DecidableEq α] (a b : α) (v : β) (rest : List (α × β)) :
    ((b, v) :: rest).lookup a = if a = b then some v else rest.lookup a := by
  rw [List.lookup_cons]
  by_cases h : a = b
  · subst h
    simp
  · simp [beq_eq_false_iff_ne.2 h, h]

theorem lookup_filter_ne [DecidableEq α] {a b : α} (h : a ≠ b) (l : List (α × β)) :
    (l.filter (·.1 ≠ b)).lookup a = l.lookup a := by
  induction l with
  | nil => rfl
  | cons e rest ih =>
    obtain ⟨name, v⟩ := e
    by_cases left : name = b
    · have other : (a == name) = false := beq_eq_false_iff_ne.2 (left ▸ h)
      rw [List.filter_cons_of_neg (by simpa using left), ih, List.lookup_cons, other]
    · rw [List.filter_cons_of_pos (by simpa using left), List.lookup_cons, List.lookup_cons, ih]

theorem lookup_filter_self [DecidableEq α] (a : α) (l : List (α × β)) :
    (l.filter (·.1 ≠ a)).lookup a = none := by
  rw [List.lookup_eq_none_iff]
  intro p hp
  have differs : p.1 ≠ a := of_decide_eq_true (List.mem_filter.1 hp).2
  exact bne_iff_ne.2 differs.symm

/-- Names that are all different are each looked up with the value that stands in their place. -/
theorem lookup_zip_reverse [DecidableEq α] {names : List α} (distinct : names.Nodup) {a : α}
    {place : Nat} (named : names[place]? = some a) (values : List β) :
    (names.zip values).reverse.lookup a = values[place]? := by
  induction names generalizing values place with
  | nil => cases named
  | cons name names ih =>
    obtain ⟨new, distinct⟩ := List.nodup_cons.1 distinct
    cases values with
    | nil => rfl
    | cons value values =>
      rw [List.zip_cons_cons, List.reverse_cons, List.lookup_append]
      cases place with
      | zero =>
        obtain rfl : name = a := Option.some.inj named
        have absent : (names.zip values).reverse.lookup name = none := by
          rw [List.lookup_eq_none_iff]
          rintro ⟨other, value⟩ mem
          obtain ⟨mem, -⟩ := List.of_mem_zip (List.mem_reverse.1 mem)
          exact bne_iff_ne.2 fun same => new (same ▸ mem)
        rw [absent, List.lookup_cons_self]
        rfl
      | succ place =>
        have other : a ≠ name := fun same => new (same ▸ List.mem_of_getElem? named)
        rw [ih distinct named, lookup_cons_eq_if, if_neg other]
        exact Option.or_none

/-- A change that keeps the names changes what is found as it changes its entry. -/
theorem lookup_map {f : α × β → α × β} (names : ∀ p, (f p).1 = p.1) (a : α) (l : List (α × β)) :
    (l.map f).lookup a = (l.lookup a).map fun v => (f (a, v)).2 := by
  induction l with
  | nil => rfl
  | cons p rest ih =>
    obtain ⟨b, v⟩ := p
    rw [List.map_cons, List.lookup_cons, List.lookup_cons, names, ih]
    by_cases h : a = b
    · subst h
      simp
    · simp [beq_eq_false_iff_ne.2 h]

end ClusterLifecycle
