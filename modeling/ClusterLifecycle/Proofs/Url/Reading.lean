import ClusterLifecycle.Proofs.Digits
import ClusterLifecycle.Proofs.Endpoints
import Mathlib.Data.List.DropRight

/-!
Web addresses read off their text.

* `front`: the text in front of the query and the fragment, which all the rest is read from;
* `site?`: what is read from it; `site?_of_parse?` and `parse?_of_site?` tie it to the whole reader;
* `Parts`: how such a text falls apart; `Parts.site` reads the parts, and `parts_of_site?` finds
  them.
-/

namespace ClusterLifecycle.Url

open Text

variable {mark : Char} {text start scheme rest word auth path : List Char} {u v : Url}

/-- A mark that ends the path of an address. -/
def isEnd (c : Char) : Bool := c = '?' || c = '#'

/-- A tab or a line break counts for nothing anywhere. -/
def visible (c : Char) : Bool := c ≠ '\t' && c ≠ '\n' && c ≠ '\r'

/-- What a text in front of others counts for. -/
def flushed (text : List Char) : List Char := (text.dropWhile blank).filter visible

/-- The text in front of the query and the fragment. -/
def front (text : List Char) : List Char := (clean text).takeWhile (!isEnd ·)

def IsWeb (scheme : List Char) : Prop := scheme = "http".toList ∨ scheme = "https".toList

theorem IsWeb.special (web : IsWeb scheme) : isSpecial scheme = true := by
  rcases web with rfl | rfl <;> decide

theorem IsWeb.ne_file (web : IsWeb scheme) : scheme ≠ "file".toList := by
  rcases web with rfl | rfl <;> decide

/-! ### Blanks -/

theorem clean_eq (text : List Char) :
    clean text = ((text.dropWhile blank).rdropWhile blank).filter visible := rfl

theorem visible_of_solid {c : Char} (solid : blank c = false) : visible c = true := by
  have apart : ∀ d, d = '\t' ∨ d = '\n' ∨ d = '\r' → blank d = true := by
    rintro d (rfl | rfl | rfl) <;> decide
  have other := mt (apart c) (by simp [solid])
  simp only [not_or] at other
  simp [visible, other]

theorem filter_visible (solid : ∀ c ∈ text, blank c = false) : text.filter visible = text :=
  List.filter_eq_self.2 fun c mem => visible_of_solid (solid c mem)

theorem rdropWhile_solid (solid : ∀ c ∈ text, blank c = false) : text.rdropWhile blank = text := by
  rw [List.rdropWhile_eq_self_iff]
  intro filled
  simp [solid _ (List.getLast_mem filled)]

theorem dropWhile_append_solid {c : Char} (solid : blank c = false) (text more : List Char) :
    (text ++ c :: more).dropWhile blank = text.dropWhile blank ++ c :: more := by
  induction text with
  | nil => exact List.dropWhile_cons_of_neg (by simp [solid])
  | cons d text ih =>
    by_cases gone : blank d = true
    · simp only [List.cons_append, List.dropWhile_cons_of_pos gone, ih]
    · simp only [List.cons_append, List.dropWhile_cons_of_neg gone]

theorem rdropWhile_append_solid {c : Char} (solid : blank c = false) (text more : List Char) :
    (text ++ c :: more).rdropWhile blank = text ++ c :: more.rdropWhile blank := by
  have reversed := dropWhile_append_solid solid more.reverse text.reverse
  rw [List.rdropWhile, List.rdropWhile]
  simpa using congrArg List.reverse reversed

/-- Blanks on both sides of a character that counts are cut off independently. -/
theorem clean_append_solid {c : Char} (solid : blank c = false) (text more : List Char) :
    clean (text ++ c :: more) = flushed text ++ c :: (more.rdropWhile blank).filter visible := by
  rw [clean_eq, dropWhile_append_solid solid, rdropWhile_append_solid solid, List.filter_append,
    List.filter_cons_of_pos (visible_of_solid solid), flushed]

theorem clean_below {c : Char} (solid : blank c = false) (text : List Char) {more : List Char}
    (solid' : ∀ d ∈ more, blank d = false) :
    clean (text ++ c :: more) = flushed text ++ c :: more := by
  rw [clean_append_solid solid, rdropWhile_solid solid', filter_visible solid']

theorem flushed_below {c : Char} (solid : blank c = false) (text : List Char) {more : List Char}
    (solid' : ∀ d ∈ more, blank d = false) :
    flushed (text ++ c :: more) = flushed text ++ c :: more := by
  rw [flushed, dropWhile_append_solid solid, List.filter_append,
    List.filter_cons_of_pos (visible_of_solid solid), filter_visible solid', flushed]

theorem clean_solid (solid : ∀ c ∈ text, blank c = false) : clean text = text := by
  cases text with
  | nil => rfl
  | cons c text =>
    exact clean_below (solid c List.mem_cons_self) [] fun d mem =>
      solid d (List.mem_cons_of_mem _ mem)

theorem flushed_solid (solid : ∀ c ∈ text, blank c = false) : flushed text = text := by
  cases text with
  | nil => rfl
  | cons c text =>
    exact flushed_below (solid c List.mem_cons_self) [] fun d mem =>
      solid d (List.mem_cons_of_mem _ mem)

/-- All that a text in front of others has more than one that stands alone are blanks. -/
theorem flushed_eq (text : List Char) :
    ∃ blanks, flushed text = clean text ++ blanks ∧ ∀ c ∈ blanks, blank c = true := by
  refine ⟨((text.dropWhile blank).rtakeWhile blank).filter visible, ?_, ?_⟩
  · rw [clean_eq, ← List.filter_append, List.rdropWhile_append_rtakeWhile, flushed]
  · intro c mem
    exact List.mem_rtakeWhile_imp (List.mem_of_mem_filter mem)

theorem mem_of_flushed {c : Char} (mem : c ∈ flushed text) : c ∈ text :=
  (List.dropWhile_sublist _).subset (List.mem_of_mem_filter mem)

theorem mem_of_clean {c : Char} (mem : c ∈ clean text) : c ∈ text := by
  obtain ⟨blanks, flushed, -⟩ := flushed_eq text
  exact mem_of_flushed (by rw [flushed]; exact List.mem_append_left _ mem)

/-! ### Marks -/

theorem solid_of_isEnd {c : Char} (mark : isEnd c = true) : blank c = false := by
  simp only [isEnd, Bool.or_eq_true, decide_eq_true_eq] at mark
  rcases mark with rfl | rfl <;> decide

theorem front_of_unmarked (free : ∀ c ∈ text, isEnd c = false) : front text = clean text := by
  rw [front, List.takeWhile_eq_self_iff]
  intro c mem
  simp [free c (mem_of_clean mem)]

theorem front_of_marked {c : Char} (free : ∀ c ∈ text, isEnd c = false) (mark : isEnd c = true)
    (more : List Char) : front (text ++ c :: more) = flushed text := by
  rw [front, clean_append_solid (solid_of_isEnd mark), List.takeWhile_append_of_pos,
    List.takeWhile_cons_of_neg (by simp [mark]), List.append_nil]
  intro c mem
  simp [free c (mem_of_flushed mem)]

/-- Nothing behind a mark changes what stands in front of it. -/
theorem front_append_of_marked (marked : ∃ c ∈ text, isEnd c = true) (more : List Char) :
    front (text ++ more) = front text := by
  have free : ∀ c ∈ text.takeWhile (!isEnd ·), isEnd c = false := by
    intro c mem
    simpa using List.mem_takeWhile_imp mem
  cases rest : text.dropWhile (!isEnd ·) with
  | nil =>
    obtain ⟨c, mem, mark⟩ := marked
    have all := List.dropWhile_eq_nil_iff.1 rest c mem
    rw [mark] at all
    cases all
  | cons c after =>
    have mark : isEnd c = true := by
      have head := List.head?_dropWhile_not (!isEnd ·) text
      rw [rest] at head
      simpa using head
    have whole : text = text.takeWhile (!isEnd ·) ++ c :: after := by
      rw [← rest, List.takeWhile_append_dropWhile]
    rw [whole, List.append_assoc, List.cons_append, front_of_marked free mark,
      front_of_marked free mark]

theorem cut_fst (mark : Char) (text : List Char) :
    (cut mark text).1 = text.takeWhile (· ≠ mark) := by
  unfold cut
  induction text with
  | nil => rfl
  | cons c text ih =>
    rw [splitAtFirst]
    by_cases same : c = mark
    · rw [if_pos same, List.takeWhile_cons_of_neg (by simp [same])]
    · rw [if_neg same, List.takeWhile_cons_of_pos (by simp [same]), ← ih]
      cases splitAtFirst mark text <;> rfl

theorem cut_of_free (free : mark ∉ text) : cut mark text = (text, none) := by
  rw [cut, splitAtFirst_of_free free]

theorem front_eq (text : List Char) : (cut '?' (cut '#' (clean text)).1).1 = front text := by
  rw [cut_fst, cut_fst, List.takeWhile_takeWhile, front]
  congr 1
  funext c
  simp [isEnd, Bool.not_or]

/-! ### The scheme -/

theorem splitScheme?_append (letter : word.head?.any Char.isAlpha)
    (all : ∀ c ∈ word, isSchemeCharacter c = true) (rest : List Char) :
    splitScheme? (word ++ ':' :: rest) = some (word.map Char.toLower, rest) := by
  have first : (word ++ ':' :: rest).head?.any Char.isAlpha = true := by
    cases word with
    | nil => cases letter
    | cons c word => exact letter
  rw [splitScheme?, if_pos first, List.dropWhile_append_of_pos all,
    List.dropWhile_cons_of_neg (by decide), List.takeWhile_append_of_pos all,
    List.takeWhile_cons_of_neg (by decide), List.append_nil]
  rfl

theorem word_of_splitScheme? (found : splitScheme? text = some (scheme, rest)) :
    ∃ word, text = word ++ ':' :: rest ∧ word.head?.any Char.isAlpha ∧
      (∀ c ∈ word, isSchemeCharacter c = true) ∧ scheme = word.map Char.toLower := by
  unfold splitScheme? at found
  split at found
  next letter =>
    split at found
    next more colon =>
      obtain ⟨rfl, rfl⟩ := Prod.mk.inj (Option.some.inj found)
      have whole := List.takeWhile_append_dropWhile (p := isSchemeCharacter) (l := text)
      rw [colon] at whole
      refine ⟨text.takeWhile isSchemeCharacter, whole.symm, ?_,
        fun c mem => List.mem_takeWhile_imp mem, rfl⟩
      cases text with
      | nil => cases letter
      | cons c text =>
        have taken : isSchemeCharacter c = true := by
          unfold isSchemeCharacter
          rw [show c.isAlpha = true from letter]
          rfl
        rw [List.takeWhile_cons_of_pos taken]
        exact letter
    next => cases found
  next => cases found

/-! ### What is read in front of the marks -/

/-- An address from its scheme, what its authority says, and its path. -/
def address (scheme path : List Char) (place : List Char × List Char × Host × Option Nat) : Url :=
  { scheme, username := place.1, password := place.2.1, host := some place.2.2.1
    port := place.2.2.2, path := rootPath true path, query := none, fragment := none }

section
variable [Naming]

/-- A web address without its query and its fragment. -/
def site? (text : List Char) : Option Url := do
  let (scheme, rest) ← splitScheme? text
  let behind := rest.dropWhile (isSlash true)
  (authority? scheme (behind.takeWhile (!isSlash true ·))).map
    (address scheme (behind.dropWhile (!isSlash true ·)))

theorem ofAuthority?_special (special : isSpecial scheme = true)
    (query fragment : Option (List Char)) :
    ofAuthority? scheme text query fragment =
      (authority? scheme (text.takeWhile (!isSlash true ·))).map fun place =>
        { address scheme (text.dropWhile (!isSlash true ·)) place with
          query := queryOf scheme query, fragment := fragmentOf fragment } := by
  simp only [ofAuthority?, special]
  cases authority? scheme (text.takeWhile (!isSlash true ·)) <;> rfl

/-- Where there is a web scheme, query and fragment are all that is read behind the marks. -/
theorem parse?_web {more : List Char} (found : splitScheme? (front text) = some (scheme, more))
    (web : IsWeb scheme) :
    ∃ query fragment, parse? none text =
      (site? (front text)).map fun v => { v with query, fragment } := by
  refine ⟨queryOf scheme (cut '?' (cut '#' (clean text)).1).2,
    fragmentOf (cut '#' (clean text)).2, ?_⟩
  have site : site? (front text) =
      (authority? scheme ((more.dropWhile (isSlash true)).takeWhile (!isSlash true ·))).map
        (address scheme ((more.dropWhile (isSlash true)).dropWhile (!isSlash true ·))) := by
    simp only [site?, found, Option.bind_eq_bind, Option.bind_some]
  rw [site]
  rw [← front_eq] at found
  simp only [parse?, found, if_neg web.ne_file, if_pos web.special,
    ofAuthority?_special web.special, Option.map_map]
  rfl

theorem parse?_of_site? (found : site? (front text) = some v) (web : IsWeb v.scheme) :
    ∃ query fragment, parse? none text = some { v with query, fragment } := by
  obtain ⟨⟨scheme, more⟩, split, read⟩ := Option.bind_eq_some_iff.1 found
  obtain ⟨place, -, rfl⟩ := Option.map_eq_some_iff.1 read
  obtain ⟨query, fragment, parsed⟩ := parse?_web split web
  exact ⟨query, fragment, by rw [parsed, found]; rfl⟩

theorem scheme_of_ofAuthority? {query fragment : Option (List Char)}
    (found : ofAuthority? scheme text query fragment = some u) : u.scheme = scheme := by
  obtain ⟨place, -, is⟩ := Option.bind_eq_some_iff.1 found
  rw [← Option.some.inj is]

theorem scheme_of_ofFile? {query fragment : Option (List Char)}
    (found : ofFile? text query fragment = some u) : u.scheme = "file".toList := by
  unfold ofFile? at found
  dsimp only at found
  split at found
  next a b rest =>
    split at found
    next =>
      split at found
      next => rw [← Option.some.inj found]
      next =>
        obtain ⟨host, -, is⟩ := Option.bind_eq_some_iff.1 found
        rw [← Option.some.inj is]
    next => rw [← Option.some.inj found]
  next => rw [← Option.some.inj found]

theorem scheme_of_ofPlain? {query fragment : Option (List Char)}
    (found : ofPlain? scheme text query fragment = some u) : u.scheme = scheme := by
  unfold ofPlain? at found
  split at found
  next => exact scheme_of_ofAuthority? found
  next => rw [← Option.some.inj found]

/-- A web address has its scheme from its text. -/
theorem splitScheme?_of_parse? (found : parse? none text = some u) (web : IsWeb u.scheme) :
    ∃ more, splitScheme? (front text) = some (u.scheme, more) := by
  rw [← front_eq]
  unfold parse? at found
  dsimp only at found
  cases split : splitScheme? (cut '?' (cut '#' (clean text)).1).1 with
  | none =>
    rw [split] at found
    cases found
  | some parts =>
    obtain ⟨scheme, more⟩ := parts
    rw [split] at found
    dsimp only at found
    have same : u.scheme = scheme := by
      split at found
      next => exact absurd (scheme_of_ofFile? found) web.ne_file
      next =>
        split at found
        next => exact scheme_of_ofAuthority? found
        next => exact scheme_of_ofPlain? found
    exact ⟨more, by rw [same]⟩

theorem site?_of_parse? (found : parse? none text = some u) (web : IsWeb u.scheme) :
    site? (front text) = some { u with query := none, fragment := none } := by
  obtain ⟨more, split⟩ := splitScheme?_of_parse? found web
  obtain ⟨query, fragment, parsed⟩ := parse?_web split web
  rw [parsed] at found
  obtain ⟨v, site, rfl⟩ := Option.map_eq_some_iff.1 found
  rw [site]
  obtain ⟨parts, -, read⟩ := Option.bind_eq_some_iff.1 site
  obtain ⟨place, -, rfl⟩ := Option.map_eq_some_iff.1 read
  rfl

end

/-! ### How the text falls apart -/

/-- A scheme, its colon and the slashes behind it; an authority; and a path, if there is one. -/
structure Parts (scheme start auth path : List Char) : Prop where
  start : ∃ word slashes, start = word ++ ':' :: slashes ∧ scheme = word.map Char.toLower ∧
    word.head?.any Char.isAlpha ∧ (∀ c ∈ word, isSchemeCharacter c = true) ∧
    ∀ c ∈ slashes, isSlash true c = true
  filled : auth ≠ []
  auth : ∀ c ∈ auth, isSlash true c = false
  path : path.head?.all (isSlash true) = true

theorem Parts.below (parts : Parts scheme start auth path) (more : List Char) :
    Parts scheme start auth (path ++ '/' :: more) := by
  refine { parts with path := ?_ }
  have rooted := parts.path
  cases path with
  | nil => rfl
  | cons c path => exact rooted

theorem Parts.append (parts : Parts scheme start auth path) (filled : path ≠ []) (more : List Char) :
    Parts scheme start auth (path ++ more) := by
  refine { parts with path := ?_ }
  have rooted := parts.path
  cases path with
  | nil => exact absurd rfl filled
  | cons c path => exact rooted

section
variable [Naming]

/-- The path is whatever the rest is read as. -/
theorem Parts.site (parts : Parts scheme start auth path) :
    site? (start ++ auth ++ path) = (authority? scheme auth).map (address scheme path) := by
  obtain ⟨word, slashes, rfl, rfl, letter, all, slashes_all⟩ := parts.start
  have stays : (auth ++ path).dropWhile (isSlash true) = auth ++ path := by
    cases auth with
    | nil => exact absurd rfl parts.filled
    | cons c auth =>
      rw [List.cons_append, List.dropWhile_cons_of_neg (by simp [parts.auth c])]
  have open_ : ∀ c ∈ auth, (!isSlash true c) = true := by
    intro c mem
    rw [parts.auth c mem]
    rfl
  have taken : path.takeWhile (!isSlash true ·) = [] ∧
      path.dropWhile (!isSlash true ·) = path := by
    cases path with
    | nil => exact ⟨rfl, rfl⟩
    | cons c path =>
      have slash : isSlash true c = true := parts.path
      constructor
      · exact List.takeWhile_cons_of_neg (by simp [slash])
      · exact List.dropWhile_cons_of_neg (by simp [slash])
  have whole : word ++ ':' :: slashes ++ auth ++ path = word ++ ':' :: (slashes ++ (auth ++ path)) := by
    simp
  rw [whole, site?, splitScheme?_append letter all]
  simp only [Option.bind_eq_bind, Option.bind_some]
  rw [List.dropWhile_append_of_pos slashes_all, stays, List.takeWhile_append_of_pos open_,
    List.dropWhile_append_of_pos open_, taken.1, taken.2, List.append_nil]

/-- So a text in parts is read by its authority. -/
theorem Parts.reads (parts : Parts scheme start auth path) (web : IsWeb scheme)
    (is : front text = start ++ auth ++ path) :
    ∃ query fragment, parse? none text =
      (authority? scheme auth).map fun place => { address scheme path place with query, fragment } := by
  obtain ⟨word, slashes, opens, lower, letter, all, -⟩ := parts.start
  have split : splitScheme? (front text) = some (scheme, slashes ++ auth ++ path) := by
    rw [is, opens, lower]
    simpa using splitScheme?_append letter all (slashes ++ auth ++ path)
  obtain ⟨query, fragment, parsed⟩ := parse?_web split web
  refine ⟨query, fragment, ?_⟩
  rw [parsed, is, parts.site, Option.map_map]
  rfl

theorem parts_of_site? (found : site? text = some v) (web : IsWeb v.scheme) :
    ∃ start auth path, text = start ++ auth ++ path ∧ Parts v.scheme start auth path := by
  obtain ⟨⟨scheme, rest⟩, split, read⟩ := Option.bind_eq_some_iff.1 found
  obtain ⟨place, authority, rfl⟩ := Option.map_eq_some_iff.1 read
  obtain ⟨word, rfl, letter, all, rfl⟩ := word_of_splitScheme? split
  let behind := rest.dropWhile (isSlash true)
  refine ⟨word ++ ':' :: rest.takeWhile (isSlash true), behind.takeWhile (!isSlash true ·),
    behind.dropWhile (!isSlash true ·), ?_, ?_⟩
  · simp [behind, List.takeWhile_append_dropWhile]
  · constructor
    · exact ⟨word, _, rfl, rfl, letter, all, fun c mem => List.mem_takeWhile_imp mem⟩
    · intro empty
      rw [show behind.takeWhile (!isSlash true ·) = [] from empty] at authority
      have none_ : authority? (word.map Char.toLower) [] = none := by
        have special : isSpecial (word.map Char.toLower) = true := web.special
        simp [authority?, splitCredentials, splitAtFirst, splitPort, special]
      rw [none_] at authority
      cases authority
    · intro c mem
      simpa using List.mem_takeWhile_imp mem
    · cases rest_ : behind.dropWhile (!isSlash true ·) with
      | nil => rfl
      | cons c path =>
        have head := List.head?_dropWhile_not (!isSlash true ·) behind
        rw [rest_] at head
        simpa using head

/-- The path of a web address is in segments. -/
theorem segments_of_web (found : parse? none text = some u) (web : IsWeb u.scheme) :
    ∃ parts, u.path = .segments parts := by
  obtain ⟨parts, -, read⟩ := Option.bind_eq_some_iff.1 (site?_of_parse? found web)
  obtain ⟨place, -, is⟩ := Option.map_eq_some_iff.1 read
  rw [address, Url.mk.injEq] at is
  obtain ⟨-, -, -, -, -, path, -, -⟩ := is
  rw [← path]
  unfold rootPath
  split <;> exact ⟨_, rfl⟩

/-! ### Comparing addresses -/

/-- The same server at the same port. -/
def SamePlace (v u : Url) : Prop := v.scheme = u.scheme ∧ v.host = u.host ∧ v.port = u.port

/-- Texts that are the same in front of their marks are the same address but for what is behind. -/
theorem parse?_congr {text' : List Char} (same : front text' = front text)
    (found : parse? none text = some u) (web : IsWeb u.scheme) :
    ∃ v, parse? none text' = some v ∧ v.SamePlace u ∧ v.path = u.path := by
  have site := site?_of_parse? found web
  rw [← same] at site
  obtain ⟨query, fragment, parsed⟩ := parse?_of_site? site web
  exact ⟨_, parsed, ⟨rfl, rfl, rfl⟩, rfl⟩

/-- What an authority has to say for its address to be at the place of another. -/
def AuthorityOf (u : Url) (auth : List Char) : Prop :=
  ∃ place, authority? u.scheme auth = some place ∧ some place.2.2.1 = u.host ∧ place.2.2.2 = u.port

/-- A text in parts is an address at some place where its authority and its path are right. -/
theorem Parts.reads_iff (parts : Parts u.scheme start auth path) (web : IsWeb u.scheme)
    (is : front text = start ++ auth ++ path) {P : Path → Prop} :
    (∃ v, parse? none text = some v ∧ v.SamePlace u ∧ P v.path) ↔
      u.AuthorityOf auth ∧ P (rootPath true path) := by
  obtain ⟨query, fragment, parsed⟩ := parts.reads web is
  rw [parsed]
  constructor
  · rintro ⟨v, found, ⟨-, host, port⟩, right⟩
    obtain ⟨place, authority, rfl⟩ := Option.map_eq_some_iff.1 found
    exact ⟨⟨place, authority, host, port⟩, right⟩
  · rintro ⟨⟨place, authority, host, port⟩, right⟩
    rw [authority]
    exact ⟨_, rfl, ⟨rfl, host, port⟩, right⟩

end

end ClusterLifecycle.Url
