import ClusterLifecycle.Identity.Credentials
import Mathlib.Data.List.TakeDrop

/-!
Which endpoints of a service have an address.

* `Url.parse?_below`: a name that starts with a word and a slash is a path below, if there is a path
  that it can be below;
* `Identity.endpoint_tokens`, `Identity.endpoint_credentials`: so it is for the endpoints of the
  identity service.
-/

namespace ClusterLifecycle

open Text

namespace Url

variable {start word : List Char} {mark : Char} {base : Url} {query fragment : Option (List Char)}

/-- A character that counts for nothing at the ends of a text. -/
def blank (c : Char) : Bool := c.toNat ≤ 0x20

theorem letter_above {c : Char} (letter : c.isAlpha) : 0x40 < c.toNat := by
  rcases Bool.or_eq_true_iff.1 letter with upper | lower
  · have low : 'A'.val ≤ c.val := (of_decide_eq_true upper).1
    exact Nat.lt_of_lt_of_le (by decide) (UInt32.le_iff_toNat_le.1 low)
  · have low : 'a'.val ≤ c.val := of_decide_eq_true (Bool.and_eq_true_iff.1 lower).1
    exact Nat.lt_of_lt_of_le (by decide) (UInt32.le_iff_toNat_le.1 low)

/-- The first and the last character of a start that counts are not cut off. -/
theorem clean_append (filled : start ≠ []) (solid : ∀ c ∈ start, blank c = false)
    (rest : List Char) : ∃ rest', clean (start ++ rest) = start ++ rest' := by
  have keeps {text : List Char} (filled : text ≠ []) (solid : ∀ c ∈ text, blank c = false)
      (more : List Char) : (text ++ more).dropWhile blank = text ++ more := by
    cases text with
    | nil => exact absurd rfl filled
    | cons c text => rw [List.cons_append, List.dropWhile_cons_of_neg (by simp [solid c])]
  have reversed : start.reverse ≠ [] := by simpa using filled
  obtain ⟨rest', trimmed⟩ : ∃ rest', (((start ++ rest).reverse).dropWhile blank).reverse =
      start ++ rest' := by
    rw [List.reverse_append, List.dropWhile_append]
    split
    · have kept := keeps reversed (by simpa using solid) []
      rw [List.append_nil] at kept
      exact ⟨[], by rw [kept, List.reverse_reverse, List.append_nil]⟩
    · exact ⟨(rest.reverse.dropWhile blank).reverse, by simp⟩
  let visible (c : Char) : Bool := c ≠ '\t' && c ≠ '\n' && c ≠ '\r'
  have shown : start.filter visible = start := by
    refine List.filter_eq_self.2 fun c mem => ?_
    have above := solid c mem
    simp only [visible, Bool.and_eq_true, decide_eq_true_eq]
    refine ⟨⟨?_, ?_⟩, ?_⟩ <;>
    · rintro rfl
      exact absurd above (by decide)
  refine ⟨rest'.filter visible, ?_⟩
  change ((((start ++ rest).dropWhile blank).reverse.dropWhile blank).reverse).filter visible = _
  rw [keeps filled solid, trimmed, List.filter_append, shown]

theorem cut_append (free : mark ∉ start) (rest : List Char) :
    ∃ before after, cut mark (start ++ rest) = (start ++ before, after) := by
  have same : splitAtFirst mark (start ++ rest) =
      (splitAtFirst mark rest).map (Prod.map (start ++ ·) id) := by
    induction start with
    | nil =>
      rw [List.nil_append]
      cases splitAtFirst mark rest <;> rfl
    | cons d start ih =>
      obtain ⟨other, free⟩ := not_or.1 (mt List.mem_cons.2 free)
      rw [List.cons_append, splitAtFirst, if_neg (Ne.symm other), ih free, Option.map_map]
      rfl
  rw [cut, same]
  cases splitAtFirst mark rest with
  | none => exact ⟨rest, none, rfl⟩
  | some parts => exact ⟨parts.1, some parts.2, rfl⟩

theorem splitScheme?_word (letters : ∀ c ∈ word, c.isAlpha) (rest : List Char) :
    splitScheme? (word ++ '/' :: rest) = none := by
  have schemeLetters : ∀ c ∈ word, isSchemeCharacter c = true := by
    intro c mem
    simp [isSchemeCharacter, letters c mem]
  rw [splitScheme?, List.dropWhile_append_of_pos schemeLetters,
    List.dropWhile_cons_of_neg (by decide)]
  split <;> rfl

theorem relativeTo?_word (filled : word ≠ []) (letters : ∀ c ∈ word, c.isAlpha)
    (rest : List Char) : (relativeTo? base (word ++ rest) query fragment).isSome ↔
      ∃ parts, base.path = .segments parts := by
  cases word with
  | nil => exact absurd rfl filled
  | cons c word =>
    have alpha := letters c List.mem_cons_self
    have other : isSlash (isSpecial base.scheme) c = false := by
      have apart : c ≠ '/' ∧ c ≠ '\\' := by
        constructor <;>
        · rintro rfl
          exact absurd alpha (by decide)
      simp [isSlash, apart]
    unfold relativeTo?
    cases base.path with
    | verbatim text => simp
    | segments parts => simp [other]

/-- A name that starts with a word and a slash is a path below, if there is any. -/
theorem parse?_below (filled : word ≠ []) (letters : ∀ c ∈ word, c.isAlpha) (rest : List Char) :
    (parse? (some base) (word ++ '/' :: rest)).isSome ↔ ∃ parts, base.path = .segments parts := by
  have apart (mark : Char) (other : mark.isAlpha = false) (slash : mark ≠ '/') :
      mark ∉ word ++ ['/'] := by
    simp only [List.mem_append, List.mem_singleton, not_or]
    exact ⟨fun mem => by simp [letters mark mem] at other, slash⟩
  have solid : ∀ c ∈ word ++ ['/'], blank c = false := by
    intro c mem
    rcases List.mem_append.1 mem with mem | mem
    · have above := letter_above (letters c mem)
      simp only [blank, decide_eq_false_iff_not]
      omega
    · rw [List.mem_singleton.1 mem]
      decide
  have whole (rest : List Char) : word ++ '/' :: rest = (word ++ ['/']) ++ rest := by simp
  obtain ⟨cleaned, clean⟩ := clean_append (by simp) solid rest
  obtain ⟨before, after, cut⟩ := cut_append (apart '#' (by decide) (by decide)) cleaned
  obtain ⟨path, query, cut'⟩ := cut_append (apart '?' (by decide) (by decide)) before
  rw [whole, parse?, clean, cut]
  dsimp only
  rw [cut']
  dsimp only
  rw [← whole, splitScheme?_word letters]
  exact relativeTo?_word filled letters _

end Url

namespace Identity

open IdentitySession.Call

variable {base : Url}

theorem endpoint_word (word rest : List Char) (filled : word ≠ [])
    (letters : ∀ c ∈ word, c.isAlpha) {name : String}
    (starts : name.toList = word ++ '/' :: rest) :
    (∃ url, endpoint base name = .ok url) ↔ ∃ parts, base.path = .segments parts := by
  rw [← Url.parse?_below filled letters rest, ← starts, endpoint, Url.join?]
  cases Url.parse? (some base) name.toList <;> simp

/-- Tokens have an address where there is a path that it can be below. -/
theorem endpoint_tokens :
    (∃ url, endpoint base "auth/tokens" = .ok url) ↔ ∃ parts, base.path = .segments parts :=
  endpoint_word "auth".toList "tokens".toList (by decide) (List.all_eq_true.1 (by decide)) rfl

/-- So do the credentials of every user. -/
theorem endpoint_credentials (user more : String) :
    (∃ url, endpoint base (credentialsOf user ++ more) = .ok url) ↔
      ∃ parts, base.path = .segments parts := by
  refine endpoint_word "users".toList
    (user.toList ++ "/application_credentials".toList ++ more.toList) (by decide)
    (List.all_eq_true.1 (by decide)) ?_
  simp [credentialsOf, String.toList_append]

end Identity

end ClusterLifecycle
