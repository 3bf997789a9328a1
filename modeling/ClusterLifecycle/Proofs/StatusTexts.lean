import ClusterLifecycle.Proofs.Texts

/-!
Which texts a status is read from, and what is wrong with all others.

* `Status.Fault`: what is first wrong with a text, and the words for it;
* `Status.written_or_fault`: a text is what a status is written as, or it has a fault;
* `Status.parse_exact`: a status is read from what it is written as and from nothing else, and every
  other text is refused for its fault.
-/

namespace ClusterLifecycle

open Text

theorem Action.ofString?_toString (a : Action) : Action.ofString? a.toString = some a := by
  cases a <;> rfl

theorem Action.ofString?_of_strange {word : String} (strange : ∀ a : Action, word ≠ a.toString) :
    Action.ofString? word = none := by
  unfold Action.ofString?
  split
  · exact absurd rfl (strange .create)
  · exact absurd rfl (strange .update)
  · exact absurd rfl (strange .delete)
  · rfl

theorem Phase.ofString?_of_strange {word : String} (strange : ∀ p : Phase, word ≠ p.toString) :
    Phase.ofString? word = none := by
  unfold Phase.ofString?
  split
  · exact absurd rfl (strange .inProgress)
  · exact absurd rfl (strange .complete)
  · exact absurd rfl (strange .failed)
  · rfl

/-- An underscore stands in a phase, but in no action. -/
theorem Action.unmarked (a : Action) : '_' ∉ a.toString.toList := by
  cases a <;> decide

namespace Status

/-- What is first wrong with a text that is to be a status, and the words for it. The first
underscore parts it, and what stands in front of that is judged before what stands behind it. -/
inductive Fault (text : String) : String → Prop
  | unmarked (free : '_' ∉ text.toList) : Fault text ("'" ++ text ++ "' has no action prefix")
  | action {before after : String} (parts : text = before ++ "_" ++ after)
      (first : '_' ∉ before.toList) (strange : ∀ a : Action, before ≠ a.toString) :
      Fault text ("unknown action '" ++ before ++ "' in '" ++ text ++ "'")
  | phase {a : Action} {after : String} (parts : text = a.toString ++ "_" ++ after)
      (strange : ∀ p : Phase, after ≠ p.toString) :
      Fault text ("unknown phase '" ++ after ++ "' in '" ++ text ++ "'")

variable {text before after words : String}

/-- A text falls apart at its first underscore. -/
theorem splitAtFirst_parts (parts : text = before ++ "_" ++ after) (first : '_' ∉ before.toList) :
    splitAtFirst '_' text.toList = some (before.toList, after.toList) := by
  have marked : text.toList = before.toList ++ '_' :: after.toList := by
    rw [parts, String.toList_append, String.toList_append, List.append_assoc]
    rfl
  rw [marked, splitAtFirst_append first]

theorem exists_parts (marked : '_' ∈ text.toList) :
    ∃ before after : String, text = before ++ "_" ++ after ∧ '_' ∉ before.toList := by
  obtain ⟨before, after, parts, first⟩ := List.eq_append_cons_of_mem marked
  refine ⟨String.ofList before, String.ofList after, ?_, by rwa [String.toList_ofList]⟩
  apply String.toList_inj.1
  simp only [parts, String.toList_append, String.toList_ofList, List.append_assoc]
  rfl

/-- A text is what a status is written as, or it has a fault. -/
theorem written_or_fault (text : String) :
    (∃ s : Status, text = s.toString) ∨ ∃ words, Fault text words := by
  by_cases marked : '_' ∈ text.toList
  · obtain ⟨before, after, parts, first⟩ := exists_parts marked
    by_cases action : ∃ a : Action, before = a.toString
    · obtain ⟨a, rfl⟩ := action
      by_cases phase : ∃ p : Phase, after = p.toString
      · obtain ⟨p, rfl⟩ := phase
        exact .inl ⟨⟨a, p⟩, parts⟩
      · exact .inr ⟨_, .phase parts (not_exists.1 phase)⟩
    · exact .inr ⟨_, .action parts first (not_exists.1 action)⟩
  · exact .inr ⟨_, .unmarked marked⟩

/-- A text is refused for its fault. -/
theorem Fault.refused (fault : Fault text words) :
    parse text = .error (.malformed "status" words) := by
  cases fault with
  | unmarked free => rw [parse, splitAtFirst_of_free free]
  | action parts first strange =>
    rw [parse, splitAtFirst_parts parts first]
    simp only [String.ofList_toList, Action.ofString?_of_strange strange]
  | @phase a _ parts strange =>
    rw [parse, splitAtFirst_parts parts a.unmarked]
    simp only [String.ofList_toList, Action.ofString?_toString, Phase.ofString?_of_strange strange]

/-- A status is read from what it is written as and from nothing else. Every other text is refused
for its fault, of which it has no more than one. -/
theorem parse_exact (text : String) :
    (∀ s, parse text = .ok s ↔ text = s.toString) ∧
      ((∀ s : Status, text ≠ s.toString) →
        ∃ words, Fault text words ∧ parse text = .error (.malformed "status" words)) ∧
      ∀ words, Fault text words → parse text = .error (.malformed "status" words) := by
  refine ⟨?_, ?_, ?_⟩
  · intro s
    constructor
    · intro read
      rcases written_or_fault text with ⟨s', rfl⟩ | ⟨words, fault⟩
      · rw [parse_toString] at read
        rw [Except.ok.inj read]
      · rw [fault.refused] at read
        cases read
    · rintro rfl
      exact parse_toString s
  · intro other
    rcases written_or_fault text with ⟨s, written⟩ | ⟨words, fault⟩
    · exact absurd written (other s)
    · exact ⟨words, fault, fault.refused⟩
  · exact fun words fault => fault.refused

/-- A phase alone is taken for an action that there is not, up to the underscore within it. -/
example : parse "IN_PROGRESS" =
    .error (.malformed "status" "unknown action 'IN' in 'IN_PROGRESS'") := rfl

end Status

end ClusterLifecycle
