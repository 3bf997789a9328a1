import ClusterLifecycle.Proofs.Texts
import ClusterLifecycle.Proofs.Yaml.Fields
import ClusterLifecycle.Record

/-!
A record is read back from its text: every field with its value, an absent one as absent, and
labels and groups in their order.
-/

namespace ClusterLifecycle

open Yaml Yaml.Document Record

section
variable {d : Document} {α : Type}

theorem Record.lookup_text (name value k : String) :
    (text name value).lookup k = if k == name then some (.text value) else none := by
  rw [text, List.lookup_cons]
  cases k == name <;> rfl

theorem Record.lookup_optionalText (name k : String) (value : Option String) :
    (optionalText name value).lookup k = if k == name then value.map .text else none := by
  cases value with
  | none => simp [optionalText]
  | some value => exact lookup_text name value k

theorem Record.keys_optionalText (name : String) (value : Option String) :
    ((optionalText name value).map Prod.fst).Sublist [name] := by
  cases value with
  | none => exact List.nil_sublist _
  | some value => exact List.Sublist.refl _

/-- An optional value reads back, there or not. -/
theorem Record.optional_value {read : Node → Option α} {write : α → Value}
    (present : ∀ a, d.isPresent? (write a).node = some true)
    (back : ∀ a, read (write a).node = some a) (value : Option α) :
    (value.map ((fun v => d.optional? read v.node) ∘ write)).getD (some none) = some value := by
  cases value with
  | none => rfl
  | some a =>
    have there : d.optional? read (write a).node = some (some a) := by
      rw [optional?_present (present a), back]
      rfl
    exact there

theorem Record.optional_text (value : Option String) :
    (value.map ((fun v => d.optional? d.text? v.node) ∘ Value.text)).getD (some none) =
      some value :=
  optional_value isPresent?_text text?_text value

theorem Status.ofYaml?_text (s : Status) :
    Status.ofYaml? d (Value.text s.toString).node = some s := by
  rw [Status.ofYaml?, text?_text, Option.bind_some, Status.parse_toString]
  rfl

theorem Yaml.Document.natural?_word {bound n : Nat} (h : n < bound) (small : n < Nat.pow 2 64) :
    d.natural? bound (Value.word (toString n)).node = some n := by
  rw [Value.node]
  change (Yaml.natural? (Nat.pow 2 64) (toString n).toList).filter _ = _
  rw [toList_toString, natural?_decimal small]
  exact Option.filter_eq_some_iff.2 ⟨rfl, decide_eq_true h⟩

theorem NodeGroup.ofYaml?_toYaml (g : NodeGroup) : NodeGroup.ofYaml? d g.toYaml.node = some g := by
  have distinct : fieldNames.Nodup := by decide
  have count : d.natural? 4294967296 (Value.word g.nodeCount.toNat.repr).node =
      some g.nodeCount.toNat :=
    natural?_word g.nodeCount.toNat_lt (Nat.lt_trans g.nodeCount.toNat_lt (by decide))
  rw [NodeGroup.ofYaml?, toYaml, record?_mapping ?_ distinct]
  · simp [required_fields, defaulted_fields, List.lookup_append, lookup_text, lookup_optionalText,
      List.lookup_cons, text?_text, choice?_text, Role.ofString?_toString, count,
      Status.ofYaml?_text, optional_text]
  · simp only [List.map_append]
    exact (((((List.Sublist.refl ["name", "role", "node_count"]).append
      (keys_optionalText _ _)).append (keys_optionalText _ _)).append
      (List.Sublist.refl ["status"])).append (keys_optionalText _ _))

theorem KeyPair.ofYaml?_toYaml (k : KeyPair) : KeyPair.ofYaml? d k.toYaml.node = some k := by
  have distinct : ["certificate", "private_key"].Nodup := by decide
  rw [KeyPair.ofYaml?, toYaml, record?_mapping ?_ distinct]
  · simp [required_fields, List.lookup_append, lookup_text, text?_text]
  · exact List.Sublist.refl _

theorem Authorities.ofYaml?_toYaml (a : Authorities) :
    Authorities.ofYaml? d a.toYaml.node = some a := by
  have distinct : ["api", "etcd", "front_proxy", "service_account"].Nodup := by decide
  have lookup (name k : String) (pair : Option KeyPair) :
      (pair.toList.map fun pair => (name, pair.toYaml)).lookup k =
        if k == name then pair.map KeyPair.toYaml else none := by
    cases pair with
    | none => simp
    | some pair =>
      rw [Option.toList_some, List.map_singleton, List.lookup_cons]
      cases k == name <;> rfl
  have names (name : String) (pair : Option KeyPair) :
      ((pair.toList.map fun pair => (name, pair.toYaml)).map Prod.fst).Sublist [name] := by
    cases pair with
    | none => exact List.nil_sublist _
    | some pair => exact List.Sublist.refl _
  have present (k : KeyPair) : d.isPresent? k.toYaml.node = some true := isPresent?_mapping _
  have back := optional_value present (KeyPair.ofYaml?_toYaml (d := d))
  rw [Authorities.ofYaml?, toYaml, record?_mapping ?_ distinct]
  · simp [defaulted_fields, List.lookup_append, lookup, back]
  · simp only [List.map_append]
    exact (((names _ _).append (names _ _)).append (names _ _)).append (names _ _)

end

namespace Labels

/-- A key above all others goes to the end. -/
theorem insertEntry_above {key value : String} {entries : List (String × String)}
    (h : ∀ e ∈ entries, e.1 < key) :
    insertEntry key value entries = entries ++ [(key, value)] := by
  induction entries with
  | nil => rfl
  | cons first rest ih =>
    obtain ⟨k, v⟩ := first
    obtain ⟨here, later⟩ := List.forall_mem_cons.1 h
    have notBelow : ¬key < k := fun below => String.lt_irrefl _ (String.lt_trans here below)
    have differs : key ≠ k := fun same => String.lt_irrefl _ (same ▸ here)
    rw [insertEntry, if_neg notBelow, if_neg differs, ih later]
    rfl

theorem entries_foldl (labels : Labels) (entries : List (String × String))
    (h : (labels.entries ++ entries).Pairwise fun a b => a.1 < b.1) :
    (entries.foldl (fun labels (key, value) => labels.insert key value) labels).entries =
      labels.entries ++ entries := by
  induction entries generalizing labels with
  | nil => simp
  | cons e rest ih =>
    obtain ⟨key, value⟩ := e
    have above : ∀ e ∈ labels.entries, e.1 < key := fun e he =>
      (List.pairwise_append.1 h).2.2 e he (key, value) List.mem_cons_self
    have step : (labels.insert key value).entries = labels.entries ++ [(key, value)] :=
      insertEntry_above above
    rw [List.foldl_cons, ih]
    · rw [step, List.append_assoc]
      rfl
    · rw [step, List.append_assoc]
      exact h

/-- Labels are what their entries in order make. -/
theorem ofList_entries (labels : Labels) : ofList labels.entries = labels := by
  have entries : (ofList labels.entries).entries = labels.entries :=
    entries_foldl ∅ labels.entries labels.sorted
  cases labels
  cases h : ofList _
  rw [h] at entries
  cases entries
  rfl

theorem ofYaml?_toYaml {d : Document} (labels : Labels) :
    Labels.ofYaml? d labels.toYaml.node = some labels := by
  have entries : (named (labels.entries.map fun e => (e.1, .text e.2))).mapM
      (fun e => (d.text? e.2).map (e.1, ·)) = some labels.entries := by
    induction labels.entries with
    | nil => rfl
    | cons e rest ih =>
      rw [named] at ih ⊢
      rw [List.map_cons, List.map_cons, List.mapM_cons, ih, text?_text]
      rfl
  rw [Labels.ofYaml?, toYaml, fields?_mapping]
  refine (congrArg (Option.bind · fun entries => some (ofList entries)) entries).trans ?_
  rw [Option.bind_some, ofList_entries]

end Labels

section
variable {d : Document}

theorem Template.ofYaml?_toYaml (t : Template) : Template.ofYaml? d t.toYaml.node = some t := by
  have distinct : fieldNames.Nodup := by decide
  rw [Template.ofYaml?, toYaml, record?_mapping ?_ distinct]
  · simp [required_fields, defaulted_fields, List.lookup_append, lookup_text, List.lookup_cons,
      text?_text, choice?_text, NetworkDriver.ofString?_toString, Labels.ofYaml?_toYaml]
  · exact List.Sublist.refl _

theorem Record.optional_stamp (stamp : Option Timestamp) (valid : ∀ t, stamp = some t → t.Valid) :
    (stamp.map ((fun v => d.optional? (fun n => (d.text? n).bind Timestamp.ofString?) v.node) ∘
      Value.text ∘ Timestamp.toString)).getD (some none) = some stamp := by
  cases stamp with
  | none => rfl
  | some t =>
    have back : (d.text? (Value.text t.toString).node).bind Timestamp.ofString? = some t := by
      rw [text?_text, Option.bind_some, Timestamp.ofString?_toString (valid t rfl)]
    have there : d.optional? (fun n => (d.text? n).bind Timestamp.ofString?)
        (Value.text t.toString).node = some (some t) := by
      rw [optional?_present (isPresent?_text _), back]
      rfl
    simp only [Option.map_some, Function.comp_apply, Option.getD_some, there]

theorem Record.items_groups (groups : List NodeGroup) :
    (d.items? (Value.sequence (groups.map NodeGroup.toYaml)).node).bind
      (fun items => items.mapM (NodeGroup.ofYaml? d)) = some groups := by
  rw [items?_sequence, Option.bind_some]
  induction groups with
  | nil => rfl
  | cons g rest ih =>
    rw [List.map_cons, List.map_cons, List.mapM_cons, ih, NodeGroup.ofYaml?_toYaml]
    rfl

theorem Cluster.ofYaml?_toYaml (c : Cluster) (valid : ∀ t, c.updatedAt = some t → t.Valid) :
    Cluster.ofYaml? d c.toYaml.node = some c := by
  have distinct : fieldNames.Nodup := by decide
  have stamp := optional_stamp (d := d) c.updatedAt valid
  have groups := items_groups (d := d) c.nodeGroups
  rw [Cluster.ofYaml?, toYaml, record?_mapping ?_ distinct]
  · rw [Option.bind_eq_bind, Option.bind_some]
    simp only [List.append_assoc, List.cons_append, List.nil_append, Option.bind_some,
      required_fields, defaulted_fields, List.lookup_append, lookup_text, lookup_optionalText,
      List.lookup_cons, BEq.rfl, ↓reduceIte, String.reduceBEq, Bool.false_eq_true, Option.or_self,
      Option.or_none, Option.or_some, Option.none_or, Option.getD_none, Option.getD_some,
      Option.map_some, Option.map_map, text?_text, Uuid.ofString?_toString, Status.ofYaml?_text,
      optional_text, Template.ofYaml?_toYaml, Authorities.ofYaml?_toYaml, groups, stamp]
    rfl
  · simp only [List.map_append]
    exact (((((((List.Sublist.refl ["uuid", "name", "user_id", "project_id", "status"]).append
      (keys_optionalText _ _)).append (keys_optionalText _ _)).append
      (keys_optionalText _ _)).append (List.Sublist.refl ["cluster_template"])).append
      (keys_optionalText _ _)).append
      (List.Sublist.refl ["certificate_authorities", "nodegroups"])).append (keys_optionalText _ _)

end

section

theorem Yaml.Value.fieldsSound_append {s t : List (String × Value)} :
    Value.FieldsSound (s ++ t) ↔ Value.FieldsSound s ∧ Value.FieldsSound t := by
  induction s with
  | nil => simp [Value.FieldsSound]
  | cons f s ih => simp [Value.FieldsSound, ih, and_assoc]

theorem Record.sound_text (name value : String) : Value.FieldsSound (text name value) :=
  ⟨trivial, trivial⟩

theorem Record.sound_optionalText (name : String) (value : Option String) :
    Value.FieldsSound (optionalText name value) := by
  cases value with
  | none => trivial
  | some value => exact sound_text name value

theorem NodeGroup.sound_toYaml (g : NodeGroup) : g.toYaml.Sound := by
  have count : IsWord (toString g.nodeCount.toNat).toList := by
    rw [toList_toString]
    exact isWord_digits Nat.toDigits_ne_nil (Text.isDecimalDigit_decimal _)
  simp only [toYaml, Value.Sound, Value.fieldsSound_append, sound_text, sound_optionalText,
    Value.FieldsSound, count, and_true]

theorem KeyPair.sound_toYaml (k : KeyPair) : k.toYaml.Sound := by
  simp only [toYaml, Value.Sound, Value.fieldsSound_append, sound_text, and_true]

theorem Authorities.sound_toYaml (a : Authorities) : a.toYaml.Sound := by
  have pair (name : String) (k : Option KeyPair) :
      Value.FieldsSound (k.toList.map fun k => (name, k.toYaml)) := by
    cases k with
    | none => trivial
    | some k => exact ⟨k.sound_toYaml, trivial⟩
  simp only [toYaml, Value.Sound, Value.fieldsSound_append, pair, and_true]

theorem Labels.sound_toYaml (labels : Labels) : labels.toYaml.Sound := by
  rw [toYaml, Value.Sound]
  induction labels.entries with
  | nil => trivial
  | cons e rest ih => exact ⟨trivial, ih⟩

theorem Template.sound_toYaml (t : Template) : t.toYaml.Sound := by
  simp only [toYaml, Value.Sound, Value.fieldsSound_append, sound_text, Value.FieldsSound,
    t.labels.sound_toYaml, and_true]

theorem Record.sound_groups (groups : List NodeGroup) :
    Value.ItemsSound (groups.map NodeGroup.toYaml) := by
  induction groups with
  | nil => trivial
  | cons g rest ih => exact ⟨g.sound_toYaml, ih⟩

theorem Cluster.sound_toYaml (c : Cluster) : c.toYaml.Sound := by
  simp only [toYaml, Value.Sound, Value.fieldsSound_append, sound_text, sound_optionalText,
    Value.FieldsSound, c.template.sound_toYaml, c.authorities.sound_toYaml, sound_groups, and_true]

/-- A node group is read back from its text. -/
theorem NodeGroup.read?_render (g : NodeGroup) : NodeGroup.read? g.render = some g := by
  have document := document?_render (by simp [text]) g.sound_toYaml
  rw [read?, render, toYaml, document, Option.bind_some]
  exact ofYaml?_toYaml g

/-- A cluster record is read back from its text. -/
theorem Cluster.read?_render (c : Cluster) (valid : ∀ t, c.updatedAt = some t → t.Valid) :
    Cluster.read? c.render = some c := by
  have document := document?_render (by simp [text]) c.sound_toYaml
  rw [read?, render, toYaml, document, Option.bind_some]
  exact ofYaml?_toYaml c valid

end

end ClusterLifecycle
