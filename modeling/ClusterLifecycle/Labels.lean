/-!
Labels: text by key, each key once, in ascending order of the keys.
-/

namespace ClusterLifecycle

structure Labels where
  entries : List (String × String)
  sorted : entries.Pairwise fun a b => a.1 < b.1 := by simp
deriving DecidableEq, Repr

namespace Labels

def empty : Labels := ⟨[], .nil⟩

instance : EmptyCollection Labels := ⟨empty⟩
instance : Inhabited Labels := ⟨empty⟩

/-- Puts an entry at its place in an ascending list; a key already there takes the new value. -/
def insertEntry (key value : String) : List (String × String) → List (String × String)
  | [] => [(key, value)]
  | (k, v) :: rest =>
    if key < k then (key, value) :: (k, v) :: rest
    else if key = k then (key, value) :: rest
    else (k, v) :: insertEntry key value rest

theorem mem_insertEntry {key value : String} {entries : List (String × String)}
    {e : String × String} (h : e ∈ insertEntry key value entries) :
    e = (key, value) ∨ e ∈ entries := by
  induction entries with
  | nil => simpa [insertEntry] using h
  | cons first rest ih =>
    obtain ⟨k, v⟩ := first
    simp only [insertEntry] at h
    split at h
    · simpa using h
    · split at h
      · simp only [List.mem_cons] at h ⊢
        exact h.imp id .inr
      · simp only [List.mem_cons] at h ⊢
        rcases h with h | h
        · exact .inr (.inl h)
        · exact (ih h).imp id .inr

theorem sorted_insertEntry (key value : String) {entries : List (String × String)}
    (h : entries.Pairwise fun a b => a.1 < b.1) :
    (insertEntry key value entries).Pairwise fun a b => a.1 < b.1 := by
  induction entries with
  | nil => simp [insertEntry]
  | cons first rest ih =>
    obtain ⟨k, v⟩ := first
    obtain ⟨above, below⟩ := List.pairwise_cons.1 h
    simp only [insertEntry]
    split
    next lt =>
      refine List.pairwise_cons.2 ⟨fun e he => ?_, h⟩
      rcases List.mem_cons.1 he with rfl | he
      · exact lt
      · exact String.lt_trans lt (above e he)
    next notLt =>
      split
      next eq => exact List.pairwise_cons.2 ⟨fun e he => eq ▸ above e he, below⟩
      next ne =>
        refine List.pairwise_cons.2 ⟨fun e he => ?_, ih below⟩
        rcases mem_insertEntry he with rfl | he
        · exact Std.lt_of_le_of_ne (String.not_lt.1 notLt) (Ne.symm ne)
        · exact above e he

def insert (labels : Labels) (key value : String) : Labels :=
  ⟨insertEntry key value labels.entries, sorted_insertEntry key value labels.sorted⟩

/-- Of entries with one key, the last wins. -/
def ofList (entries : List (String × String)) : Labels :=
  entries.foldl (fun labels (key, value) => labels.insert key value) ∅

def get? (labels : Labels) (key : String) : Option String := labels.entries.lookup key

end Labels

end ClusterLifecycle
