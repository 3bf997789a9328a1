import ClusterLifecycle.Proofs.Yaml.Rendering
import ClusterLifecycle.Yaml.Node

/-!
The tokens of a value as a tree again. The reader takes exactly the tokens of the value and leaves
what follows, with twice their number as fuel.

* `Value.node`: the tree of a value;
* `document?_render`: the text of a mapping is read as its tree.
-/

namespace ClusterLifecycle.Yaml

open Lexer Value

namespace Value

/-- The tree of a text. -/
def textNode (s : String) : Node := .scalar none s (styleOf s.toList = .plain)

mutual

/-- The tree of a value. -/
def node : Value → Node
  | .text s => textNode s
  | .word s => .scalar none s true
  | .sequence items => .sequence none (itemNodes items)
  | .mapping fields => .mapping none (fieldNodes fields)

def itemNodes : List Value → List Node
  | [] => []
  | x :: rest => x.node :: itemNodes rest

def fieldNodes : List (String × Value) → List (Node × Node)
  | [] => []
  | (key, value) :: rest => (textNode key, value.node) :: fieldNodes rest

end

theorem itemNodes_eq_map (items : List Value) : itemNodes items = items.map node := by
  induction items with
  | nil => rfl
  | cons x rest ih => rw [itemNodes, ih, List.map_cons]

theorem fieldNodes_eq_map (fields : List (String × Value)) :
    fieldNodes fields = fields.map fun f => (textNode f.1, f.2.node) := by
  induction fields with
  | nil => rfl
  | cons f rest ih => rw [fieldNodes, ih, List.map_cons]

theorem tokens_behindKey (x : Value) (xs : List Value) :
    (sequence (x :: xs)).tokens true = itemTokens (x :: xs) := by simp [tokens]

theorem tokens_sequence (x : Value) (xs : List Value) :
    (sequence (x :: xs)).tokens false =
      .blockSequence :: itemTokens (x :: xs) ++ [.blockEnd] := by simp [tokens]

theorem tokens_mapping (f : String × Value) (fs : List (String × Value)) (indentless : Bool) :
    (mapping (f :: fs)).tokens indentless =
      .blockMapping :: fieldTokens (f :: fs) ++ [.blockEnd] := by simp [tokens]

theorem itemTokens_cons (x : Value) (xs : List Value) :
    itemTokens (x :: xs) = .item :: (x.tokens false ++ itemTokens xs) := by simp [itemTokens]

theorem fieldTokens_cons (name : String) (v : Value) (fs : List (String × Value)) :
    fieldTokens ((name, v) :: fs) =
      .key :: scalarToken name :: .value :: (v.tokens true ++ fieldTokens fs) := by
  simp [fieldTokens]

/-- A value begins with a token that ends no entry; only a sequence behind a key begins with an
item. -/
theorem tokens_cons (v : Value) (indentless : Bool) :
    ∃ t later, v.tokens indentless = t :: later ∧ t ≠ .key ∧ t ≠ .value ∧ t ≠ .blockEnd ∧
      (indentless = false → t ≠ .item) := by
  match v with
  | .text s => exact ⟨_, _, rfl, by simp [scalarToken]⟩
  | .word s => exact ⟨_, _, rfl, by simp⟩
  | .sequence [] => exact ⟨_, _, rfl, by simp⟩
  | .mapping [] => exact ⟨_, _, rfl, by simp⟩
  | .sequence (x :: xs) =>
    cases indentless with
    | true => exact ⟨.item, x.tokens false ++ itemTokens xs, rfl, by simp⟩
    | false =>
      exact ⟨.blockSequence, itemTokens (x :: xs) ++ [.blockEnd], by simp [tokens], by simp⟩
  | .mapping (f :: fs) =>
    exact ⟨.blockMapping, fieldTokens (f :: fs) ++ [.blockEnd], by simp [tokens], by simp⟩

end Value

/-- The reader in front of these tokens. -/
def TokenReader.facing (tokens : List Token) (s : TokenReader) : TokenReader := { s with tokens }

namespace TokenRead

section
variable {fuel : Nat} {block indentless : Bool} {s : TokenReader} {t : Token} {rest : List Token}

theorem bind_run {α β : Type} (m : TokenRead α) (f : α → TokenRead β) :
    (m >>= f) s = (m s).bind fun (a, s) => f a s := rfl

theorem map_run {α β : Type} (m : TokenRead α) (f : α → β) :
    (f <$> m) s = (m s).map fun (a, s) => (f a, s) := by
  simp only [Functor.map, StateT.map]
  cases m s <;> rfl

theorem pure_run {α : Type} (a : α) : (pure a : TokenRead α) s = some (a, s) := rfl

theorem peek_run : peek (s.facing rest) = some (rest.head?, s.facing rest) := rfl

theorem skip_run : skip (s.facing (t :: rest)) = some ((), s.facing rest) := rfl

theorem passIf_run : passIf t (s.facing (t :: rest)) = some (true, s.facing rest) := by
  simp [passIf, bind_run, peek_run, skip_run, map_run]

theorem passIf_other (rest : List Token) (h : rest.head? ≠ some t) :
    passIf t (s.facing rest) = some (false, s.facing rest) := by
  simp [passIf, bind_run, peek_run, pure_run, h]

theorem atAny_run (ends : List Token) :
    atAny ends (s.facing (t :: rest)) = some (ends.contains t, s.facing (t :: rest)) := by
  simp [atAny, bind_run, peek_run, pure_run]

/-- A node of its own begins here, with neither anchor nor tag. -/
def startsNode : Token → Bool
  | .anchor _ | .tag .. => false
  | _ => true

theorem properties_run (t : Token) (rest : List Token) (h : startsNode t = true) :
    properties (s.facing (t :: rest)) = some ((none, none), s.facing (t :: rest)) := by
  cases t <;> cases h
  all_goals simp [properties, anchor?, tag?, bind_run, peek_run, pure_run]

theorem node_scalar {text : String} {plain : Bool} :
    node (fuel + 1) block indentless (s.facing (.scalar text plain :: rest)) =
      some (.scalar none text plain, s.facing rest) := by
  have clear := properties_run (s := s) (.scalar text plain) rest rfl
  simp [node, bind_run, peek_run, clear, reserve, record, skip_run, pure_run, map_run]

theorem node_blockSequence :
    node (fuel + 1) true indentless (s.facing (.blockSequence :: rest)) =
      (blockItems fuel (s.facing rest)).map fun (items, s) => (.sequence none items, s) := by
  have clear := properties_run (s := s) .blockSequence rest rfl
  simp [node, bind_run, peek_run, clear, reserve, record, skip_run, pure_run, map_run]

theorem node_item :
    node (fuel + 1) true true (s.facing (.item :: rest)) =
      (indentlessItems fuel (s.facing (.item :: rest))).map
        fun (items, s) => (.sequence none items, s) := by
  have clear := properties_run (s := s) .item rest rfl
  simp [node, bind_run, peek_run, clear, reserve, record, pure_run, map_run]

theorem node_blockMapping :
    node (fuel + 1) true indentless (s.facing (.blockMapping :: rest)) =
      (blockFields fuel (s.facing rest)).map fun (fields, s) => (.mapping none fields, s) := by
  have clear := properties_run (s := s) .blockMapping rest rfl
  simp [node, bind_run, peek_run, clear, reserve, record, skip_run, pure_run, map_run]

theorem node_emptySequence :
    node (fuel + 2) block indentless (s.facing (.flowSequence :: .flowSequenceEnd :: rest)) =
      some (.sequence none [], s.facing rest) := by
  have clear := properties_run (s := s) .flowSequence (.flowSequenceEnd :: rest) rfl
  simp [node, flowItems, bind_run, peek_run, clear, reserve, record, skip_run, passIf_run,
    pure_run, map_run]

theorem node_emptyMapping :
    node (fuel + 2) block indentless (s.facing (.flowMapping :: .flowMappingEnd :: rest)) =
      some (.mapping none [], s.facing rest) := by
  have clear := properties_run (s := s) .flowMapping (.flowMappingEnd :: rest) rfl
  simp [node, flowFields, bind_run, peek_run, clear, reserve, record, skip_run, passIf_run,
    pure_run, map_run]

theorem blockItems_end :
    blockItems (fuel + 1) (s.facing (.blockEnd :: rest)) = some ([], s.facing rest) := by
  have noItem := passIf_other (s := s) (t := .item) (.blockEnd :: rest) (by simp)
  simp [blockItems, bind_run, noItem, expect, passIf_run, pure_run]

theorem blockFields_end :
    blockFields (fuel + 1) (s.facing (.blockEnd :: rest)) = some ([], s.facing rest) := by
  have noKey := passIf_other (s := s) (t := .key) (.blockEnd :: rest) (by simp)
  simp [blockFields, bind_run, noKey, expect, passIf_run, pure_run]

theorem indentlessItems_end (beyond : rest.head? ≠ some .item) :
    indentlessItems (fuel + 1) (s.facing rest) = some ([], s.facing rest) := by
  simp [indentlessItems, bind_run, passIf_other rest beyond, pure_run]

theorem blockItems_item (item : t ≠ .item) (end_ : t ≠ .blockEnd) :
    blockItems (fuel + 1) (s.facing (.item :: t :: rest)) =
      (node fuel true false (s.facing (t :: rest))).bind fun (x, s) =>
        (blockItems fuel s).map fun (xs, s) => (x :: xs, s) := by
  simp [blockItems, bind_run, passIf_run, atAny_run, item, end_, map_run]

theorem indentlessItems_item (item : t ≠ .item) (key : t ≠ .key) (value : t ≠ .value)
    (end_ : t ≠ .blockEnd) :
    indentlessItems (fuel + 1) (s.facing (.item :: t :: rest)) =
      (node fuel true false (s.facing (t :: rest))).bind fun (x, s) =>
        (indentlessItems fuel s).map fun (xs, s) => (x :: xs, s) := by
  simp [indentlessItems, bind_run, passIf_run, atAny_run, item, key, value, end_, map_run]

theorem blockFields_field {text : String} {plain : Bool} (key : t ≠ .key) (value : t ≠ .value)
    (end_ : t ≠ .blockEnd) :
    blockFields (fuel + 2)
        (s.facing (.key :: .scalar text plain :: .value :: t :: rest)) =
      (node (fuel + 1) true true (s.facing (t :: rest))).bind fun (v, s) =>
        (blockFields (fuel + 1) s).map fun (fields, s) =>
          ((.scalar none text plain, v) :: fields, s) := by
  rw [blockFields]
  simp [bind_run, passIf_run, atAny_run, node_scalar, key, value, end_, map_run]

end

mutual

/-- A value is read back from its tokens, and what follows them is left. -/
theorem node_tokens (v : Value) (indentless : Bool) (fuel : Nat) (s : TokenReader)
    (rest : List Token) (enough : 2 * (v.tokens indentless).length + 2 ≤ fuel)
    (beyond : indentless = true → rest.head? ≠ some .item) :
    node fuel true indentless (s.facing (v.tokens indentless ++ rest)) =
      some (v.node, s.facing rest) := by
  obtain ⟨fuel, rfl⟩ : ∃ less, fuel = less + 2 := ⟨fuel - 2, by omega⟩
  match v with
  | .text s => exact node_scalar
  | .word s => exact node_scalar
  | .sequence [] => exact node_emptySequence
  | .mapping [] => exact node_emptyMapping
  | .sequence (x :: xs) =>
    cases indentless with
    | true =>
      rw [tokens_behindKey] at enough ⊢
      have items := indentlessItems_tokens (x :: xs) (fuel + 1) s rest (by omega) (beyond rfl)
      rw [itemTokens_cons, List.cons_append] at items ⊢
      rw [node_item, items]
      rfl
    | false =>
      rw [tokens_sequence] at enough ⊢
      rw [List.length_append, List.length_cons] at enough
      rw [List.append_assoc, List.cons_append, node_blockSequence, List.singleton_append,
        blockItems_tokens (x :: xs) _ _ _ (by omega)]
      rfl
  | .mapping (f :: fs) =>
    rw [tokens_mapping] at enough ⊢
    rw [List.length_append, List.length_cons] at enough
    rw [List.append_assoc, List.cons_append, node_blockMapping, List.singleton_append,
      blockFields_tokens (f :: fs) _ _ _ (by omega)]
    rfl

theorem blockItems_tokens (items : List Value) (fuel : Nat) (s : TokenReader) (rest : List Token)
    (enough : 2 * (itemTokens items).length + 1 ≤ fuel) :
    blockItems fuel (s.facing (itemTokens items ++ .blockEnd :: rest)) =
      some (itemNodes items, s.facing rest) := by
  match fuel, items with
  | 0, _ => exact absurd enough (by omega)
  | fuel + 1, [] => exact blockItems_end
  | fuel + 1, x :: xs =>
    rw [itemTokens_cons, List.length_cons, List.length_append] at enough
    obtain ⟨t, later, tokens, _, _, end_, item⟩ := tokens_cons x false
    have first := node_tokens x false fuel s (itemTokens xs ++ .blockEnd :: rest) (by omega) nofun
    rw [itemTokens_cons, List.cons_append, List.append_assoc]
    rw [tokens, List.cons_append] at first ⊢
    rw [blockItems_item (item rfl) end_, first, Option.bind_some]
    dsimp only
    rw [blockItems_tokens xs _ _ _ (by omega)]
    rfl

theorem indentlessItems_tokens (items : List Value) (fuel : Nat) (s : TokenReader)
    (rest : List Token) (enough : 2 * (itemTokens items).length + 1 ≤ fuel)
    (beyond : rest.head? ≠ some .item) :
    indentlessItems fuel (s.facing (itemTokens items ++ rest)) =
      some (itemNodes items, s.facing rest) := by
  match fuel, items with
  | 0, _ => exact absurd enough (by omega)
  | fuel + 1, [] => exact indentlessItems_end beyond
  | fuel + 1, x :: xs =>
    rw [itemTokens_cons, List.length_cons, List.length_append] at enough
    obtain ⟨t, later, tokens, key, value, end_, item⟩ := tokens_cons x false
    have first := node_tokens x false fuel s (itemTokens xs ++ rest) (by omega) nofun
    rw [itemTokens_cons, List.cons_append, List.append_assoc]
    rw [tokens, List.cons_append] at first ⊢
    rw [indentlessItems_item (item rfl) key value end_, first, Option.bind_some]
    dsimp only
    rw [indentlessItems_tokens xs _ _ _ (by omega) beyond]
    rfl

theorem blockFields_tokens (fields : List (String × Value)) (fuel : Nat) (s : TokenReader)
    (rest : List Token) (enough : 2 * (fieldTokens fields).length + 1 ≤ fuel) :
    blockFields fuel (s.facing (fieldTokens fields ++ .blockEnd :: rest)) =
      some (fieldNodes fields, s.facing rest) := by
  match fuel, fields with
  | 0, _ => exact absurd enough (by omega)
  | fuel + 1, [] => exact blockFields_end
  | fuel + 1, (name, v) :: fields =>
    rw [fieldTokens_cons] at enough ⊢
    simp only [List.length_cons, List.length_append] at enough
    obtain ⟨fuel, rfl⟩ : ∃ less, fuel = less + 1 := ⟨fuel - 1, by omega⟩
    obtain ⟨t, later, tokens, key, value, end_, _⟩ := tokens_cons v true
    have beyond : (fieldTokens fields ++ .blockEnd :: rest).head? ≠ some .item := by
      cases fields with
      | nil => simp [fieldTokens]
      | cons f fields => simp [fieldTokens_cons f.1 f.2 fields]
    have first := node_tokens v true (fuel + 1) s (fieldTokens fields ++ .blockEnd :: rest)
      (by omega) fun _ => beyond
    simp only [List.cons_append, List.append_assoc]
    rw [tokens, List.cons_append] at first ⊢
    rw [scalarToken, blockFields_field key value end_, first, Option.bind_some]
    dsimp only
    rw [blockFields_tokens fields _ _ _ (by omega)]
    rfl

end

end TokenRead

open TokenRead in
/-- A document without directives and marks is the node that its tokens give. -/
theorem document?_of_tokens {text : List Char} {all : List Token} {root : Node}
    (tokens : tokens? text = some all) (some_ : all ≠ [])
    (plain : directives false [] all = some ([], all)) (unmarked : all.head? ≠ some .documentStart)
    (reads : ∀ s : TokenReader,
      node (2 * all.length + 2) true false (s.facing all) = some (root, s.facing [])) :
    document? text = some ⟨root, []⟩ := by
  let s : TokenReader := { tokens := all, handles := [("!", "!"), ("!!", "tag:yaml.org,2002:")] }
  have noMark : passIf .documentStart s = some (false, s) := passIf_other (s := s) all unmarked
  have next : peek s = some (all.head?, s) := rfl
  have root_ : node (2 * all.length + 2) true false s = some (root, s.facing []) := reads s
  simp only [document?, tokens, Option.bind_eq_bind, Option.bind_some]
  rw [plain]
  change (if _ then none else (Option.bind ((passIf .documentStart s).bind _) _)) = _
  simp only [noMark, next, bind_run, some_, List.isEmpty_iff, Nat.lt_irrefl, decide_false,
    Bool.false_and, Bool.or_false, Bool.false_eq_true, ↓reduceIte, Option.bind_some]
  rw [root_]
  rfl

/-- The text of a mapping is read as its tree. -/
theorem document?_render {fields : List (String × Value)} (some_ : fields ≠ [])
    (sound : FieldsSound fields) :
    document? (render (.mapping fields)).toList = some ⟨(Value.mapping fields).node, []⟩ := by
  cases fields with
  | nil => contradiction
  | cons f fs =>
    have tokens := tokens?_fieldLines f fs sound
    rw [render, String.toList_ofList]
    refine document?_of_tokens tokens ?_ ?_ ?_ fun s => ?_
    · simp [tokens_mapping]
    · simp [tokens_mapping, TokenRead.directives]
    · simp [tokens_mapping]
    · have reads := TokenRead.node_tokens (.mapping (f :: fs)) false _ s [] (Nat.le_refl _) nofun
      rw [tokens_mapping, List.append_nil] at reads
      rw [tokens_mapping]
      exact reads

end ClusterLifecycle.Yaml
