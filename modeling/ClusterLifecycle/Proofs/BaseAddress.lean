import ClusterLifecycle.Config
import ClusterLifecycle.Proofs.Routes

/-!
Where the requests to the identity service go, by the address that is configured.

* `Identity.baseText_eq`: the text that all addresses of the service are taken relative to;
* `Identity.Regular`: an address whose text, edited, is its path edited;
* `Identity.Ordinary`: an address that is written out; it is regular, and `Identity.Ordinary.route`
  finds all that the service is asked for below it;
* `Config.routes_versioned_iff`: the routes lead under the version of the interface for exactly the
  regular addresses.
-/

namespace ClusterLifecycle

open Text

namespace Identity

/-! ### The text of the base -/

/-- The last segment of the path that the service is reached under. -/
def version : List Char := "v3".toList

theorem version_word : version.all Url.isWord = true := by decide

/-- The text of an address without the slashes at its end. -/
def trimmed (authUrl : String) : List Char := authUrl.toList.rdropWhile (· = '/')

theorem trimmed_append (authUrl : String) :
    ∃ n, authUrl.toList = trimmed authUrl ++ List.replicate n '/' := by
  refine ⟨(authUrl.toList.rtakeWhile (· = '/')).length, ?_⟩
  have slashes : ∀ c ∈ authUrl.toList.rtakeWhile (· = '/'), c = '/' := by
    intro c mem
    simpa using List.mem_rtakeWhile_imp mem
  rw [← List.eq_replicate_of_mem slashes]
  exact List.rdropWhile_append_rtakeWhile.symm

/-- The version is put behind the text, unless the text ends with it. -/
theorem baseText_eq (authUrl : String) :
    baseText authUrl.toList = trimmed authUrl ++
      '/' :: (if "/v3".toList <:+ trimmed authUrl then [] else "v3/".toList) := by
  change (if "/v3".toList.isSuffixOf (trimmed authUrl) then trimmed authUrl
    else trimmed authUrl ++ "/v3".toList) ++ ['/'] = _
  by_cases ends : "/v3".toList <:+ trimmed authUrl
  · rw [if_pos (List.isSuffixOf_iff_suffix.2 ends), if_pos ends]
  · rw [if_neg (mt List.isSuffixOf_iff_suffix.1 ends), if_neg ends, List.append_assoc]
    rfl

/-- The path with the version at its end, where that is not there yet, and without slashes. -/
def versioned (parts : List (List Char)) : List (List Char) :=
  let names := Url.stripped parts
  if names.getLast? = some version then names else names ++ [version]

/-- An address whose text can be edited for its path. One with a query or a fragment is as it has to
be before it is edited; any other has its path at the end of its text. -/
inductive Regular (authUrl : String) (u : Url) (names : List (List Char)) : Prop
  | marked (mark : ∃ c ∈ authUrl.toList, Url.isEnd c = true)
      (path : u.path = .segments (names ++ [[]])) (ends : names.getLast? = some version)
  | unmarked (free : ∀ c ∈ authUrl.toList, Url.isEnd c = false)
      (slash : ∃ v, Url.parse? none (trimmed authUrl ++ ['/']) = some v ∧ v.SamePlace u ∧
        v.path = .segments (names ++ [[]]))
      (ends : names.getLast? = some version ↔ "/v3".toList <:+ trimmed authUrl)

section

variable {parts names directory : List (List Char)} {authUrl : String} {u : Url}

theorem stripped_version (names : List (List Char)) :
    Url.stripped (names ++ [version]) = names ++ [version] :=
  List.rdropWhile_concat_neg _ _ _ (by decide)

theorem versioned_of_ends (ends : (Url.stripped parts).getLast? = some version) :
    versioned parts = Url.stripped parts := if_pos ends

theorem versioned_of_other (other : (Url.stripped parts).getLast? ≠ some version) :
    versioned parts = Url.stripped parts ++ [version] := if_neg other

theorem length_stripped_le_versioned (parts : List (List Char)) :
    (Url.stripped parts).length ≤ (versioned parts).length := by
  unfold versioned
  dsimp only
  split <;> simp

/-- A path that ends with the version behind its last name and no more than one slash is the path
with the version at its end. -/
theorem dropLast_eq_versioned :
    parts.dropLast = versioned parts ↔ parts = Url.stripped parts ++ [[]] ∧
      (Url.stripped parts).getLast? = some version := by
  constructor
  · intro same
    rcases List.eq_nil_or_concat' parts with rfl | ⟨init, last, rfl⟩
    · cases same
    · rw [List.dropLast_concat] at same
      by_cases empty : last = []
      · rw [empty] at same ⊢
        by_cases ends : (Url.stripped (init ++ [[]])).getLast? = some version
        · rw [versioned_of_ends ends] at same
          exact ⟨by rw [← same], ends⟩
        · rw [versioned_of_other ends, Url.stripped_concat_nil] at same
          have twice := congrArg Url.stripped same
          rw [stripped_version, ← same] at twice
          rw [twice] at same
          exact absurd (congrArg List.length same) (by simp)
      · have whole : Url.stripped (init ++ [last]) = init ++ [last] :=
          List.rdropWhile_concat_neg _ _ _ (by simpa using empty)
        have longer := length_stripped_le_versioned (init ++ [last])
        rw [← same, whole] at longer
        exact absurd longer (by simp)
  · rintro ⟨is, ends⟩
    rw [versioned_of_ends ends]
    conv_lhs => rw [is]
    exact List.dropLast_concat

/-- The same of a directory that the version is put below, unless the text ends with it. -/
theorem directory_eq_versioned {ends : Prop} [Decidable ends]
    (shallow : (Url.stripped parts).length ≤ directory.length)
    (same : ends → Url.stripped parts = Url.stripped directory) :
    (if ends then directory else directory ++ [version]) = versioned parts ↔
      directory = Url.stripped parts ∧ ((Url.stripped parts).getLast? = some version ↔ ends) := by
  by_cases last : (Url.stripped parts).getLast? = some version
  · rw [versioned_of_ends last]
    by_cases text : ends
    · simp [text, last]
    · rw [if_neg text]
      constructor
      · intro longer
        have length := congrArg List.length longer
        rw [List.length_append, List.length_singleton] at length
        omega
      · rintro ⟨-, agree⟩
        exact absurd (agree.1 last) text
  · rw [versioned_of_other last]
    by_cases text : ends
    · rw [if_pos text]
      constructor
      · intro longer
        have again := same text
        rw [longer, stripped_version] at again
        exact absurd (congrArg List.length again) (by simp)
      · rintro ⟨-, agree⟩
        exact absurd (agree.2 text) last
    · simp [text, last]

end

/-! ### The text in parts -/

section

variable {authUrl : String} {u : Url} {parts : List (List Char)}

/-- What a blank at the end of a text is not. -/
theorem apart_of_blank {c : Char} (is : Url.blank c = true) :
    c ≠ '/' ∧ c ≠ '\\' ∧ c.toLower ∉ ".%2e".toList := by
  have low : c.toNat ≤ 0x20 := of_decide_eq_true is
  refine of_ascii (p := fun c => Url.blank c = true → c ≠ '/' ∧ c ≠ '\\' ∧
    c.toLower ∉ ".%2e".toList) (by decide) (by omega) is

/-- Slashes behind an address belong to its path. -/
theorem parts_of_slashes {start auth path text : List Char} {scheme : List Char} {n : Nat}
    (fall : Url.Parts scheme start auth path)
    (whole : start ++ auth ++ path = text ++ List.replicate n '/') :
    ∃ path', text = start ++ auth ++ path' ∧ path = path' ++ List.replicate n '/' ∧
      Url.Parts scheme start auth path' := by
  rcases List.append_eq_append_iff.1 whole with ⟨path', same, tail⟩ | ⟨rest, same, tail⟩
  · refine ⟨path', same, tail, { fall with path := ?_ }⟩
    cases path' with
    | nil => rfl
    | cons c path' =>
      have rooted := fall.path
      rw [tail] at rooted
      exact rooted
  · rcases List.eq_nil_or_concat' rest with rfl | ⟨rest, c, rfl⟩
    · refine ⟨[], by simpa using same.symm, by simpa using tail.symm, { fall with path := rfl }⟩
    · -- The authority would end with a slash.
      rcases List.eq_nil_or_concat' auth with empty | ⟨auth', d, rfl⟩
      · exact absurd empty fall.filled
      · have slash : c = '/' := List.eq_of_mem_replicate (n := n) (by rw [tail]; simp)
        rw [← List.append_assoc, ← List.append_assoc] at same
        have last : d = c := by
          have ends := congrArg List.getLast? same
          simpa using ends
        have other := fall.auth d (by simp)
        rw [last, slash] at other
        exact absurd other (by decide)

/-- Blanks behind an address make its path no shorter: they end no segment, and no dots stand before
them. -/
theorem parts_of_blanks {scheme start auth path blanks : List Char}
    (fall : Url.Parts scheme start auth path) (reads : Url.rootPath true path = .segments parts)
    (some_ : blanks ≠ []) (each : ∀ c ∈ blanks, Url.blank c = true) :
    ∃ auth' path', start ++ auth ++ path ++ blanks = start ++ auth' ++ path' ∧
      Url.Parts scheme start auth' path' ∧
      (Url.stripped parts).length ≤ (Url.directory path').length := by
  by_cases empty : path = []
  · have slashless : ∀ c ∈ blanks, Url.isSlash true c = false := by
      intro c mem
      obtain ⟨slash, backslash, -⟩ := apart_of_blank (each c mem)
      simp [Url.isSlash, slash, backslash]
    refine ⟨auth ++ blanks, [], by simp [empty], ?_, ?_⟩
    · exact { start := fall.start, path := rfl, filled := by simp [fall.filled]
              auth := List.forall_mem_append.2 ⟨fall.auth, slashless⟩ }
    · rw [empty] at reads
      cases reads
      exact Nat.le_refl 0
  · refine ⟨auth, path ++ blanks, by simp, fall.append empty blanks, ?_⟩
    exact Url.length_stripped_le empty fall.path reads some_ fun c mem => apart_of_blank (each c mem)

/-- Behind the version there are no blanks. -/
theorem flushed_of_version {text : List Char} (ends : "/v3".toList <:+ text) :
    Url.flushed text = Url.clean text := by
  obtain ⟨before, rfl⟩ := ends
  have solid : ∀ c ∈ version, Url.blank c = false := fun c mem =>
    (Url.apart_of_word (List.all_eq_true.1 version_word c mem)).1
  exact (Url.flushed_below (by decide) before solid).trans
    (Url.clean_below (by decide) before solid).symm

/-- The text without its slashes falls apart like the whole. Blanks at its end, which count for
nothing there and for something in front of others, make its path no shorter; nor is there any behind
the version. -/
theorem flushed_parts (found : Url.ofString? authUrl = some u) (web : Url.IsWeb u.scheme)
    (free : ∀ c ∈ authUrl.toList, Url.isEnd c = false) (at_ : u.path = .segments parts) :
    ∃ start auth path, Url.flushed (trimmed authUrl) = start ++ auth ++ path ∧
      Url.Parts u.scheme start auth path ∧
      (Url.stripped parts).length ≤ (Url.directory path).length ∧
      ("/v3".toList <:+ trimmed authUrl →
        Url.stripped parts = Url.stripped (Url.directory path)) := by
  have site := Url.site?_of_parse? found web
  rw [Url.front_of_unmarked free] at site
  obtain ⟨start, auth, path, whole, fall⟩ := Url.parts_of_site? site web
  have reads : Url.rootPath true path = .segments parts := by
    rw [whole, fall.site] at site
    obtain ⟨place, -, is⟩ := Option.map_eq_some_iff.1 site
    rw [← at_, show u.path = _ from (congrArg Url.path is).symm]
    rfl
  obtain ⟨n, slashes⟩ := trimmed_append authUrl
  cases n with
  | zero =>
    rw [List.replicate_zero, List.append_nil] at slashes
    rw [slashes] at whole
    obtain ⟨blanks, flushed, each⟩ := Url.flushed_eq (trimmed authUrl)
    by_cases none_ : blanks = []
    · have stripped := Url.stripped_rootPath fall.path reads
      refine ⟨start, auth, path, ?_, fall, ?_, fun _ => stripped⟩
      · rw [flushed, whole, none_, List.append_nil]
      · rw [stripped]
        exact Url.length_stripped _
    · obtain ⟨auth', path', same, fall', shallow⟩ := parts_of_blanks fall reads none_ each
      refine ⟨start, auth', path', by rw [flushed, whole, same], fall', shallow, fun ends => ?_⟩
      rw [flushed_of_version ends] at flushed
      exact absurd (List.self_eq_append_right.1 flushed) none_
  | succ n =>
    have solid : ∀ c ∈ List.replicate n '/', Url.blank c = false := by
      intro c mem
      rw [List.eq_of_mem_replicate mem]
      decide
    rw [slashes, List.replicate_succ, Url.clean_below (by decide) _ solid, ← List.replicate_succ]
      at whole
    obtain ⟨path', same, tail, fall'⟩ := parts_of_slashes fall whole.symm
    rw [tail, Url.rootPath_slashes fall'.path] at reads
    have stripped : Url.stripped parts = Url.stripped (Url.directory path') := by
      rw [← Url.Path.segments.inj reads, Url.stripped_append_replicate]
    refine ⟨start, auth, path', same, fall', ?_, fun _ => stripped⟩
    rw [stripped]
    exact Url.length_stripped _

/-- A text is an address at the place of another, and its directory is this. -/
def Leads (text : List Char) (u : Url) (names : List (List Char)) : Prop :=
  ∃ v, Url.parse? none text = some v ∧ v.SamePlace u ∧
    ∃ parts, v.path = .segments parts ∧ parts.dropLast = names

theorem front_baseText (mark : ∃ c ∈ authUrl.toList, Url.isEnd c = true) :
    Url.front (baseText authUrl.toList) = Url.front authUrl.toList := by
  obtain ⟨n, slashes⟩ := trimmed_append authUrl
  have mark' : ∃ c ∈ trimmed authUrl, Url.isEnd c = true := by
    obtain ⟨c, mem, is⟩ := mark
    rw [slashes, List.mem_append] at mem
    refine ⟨c, mem.resolve_right fun slash => ?_, is⟩
    rw [List.eq_of_mem_replicate slash] at is
    exact absurd is (by decide)
  rw [baseText_eq, Url.front_append_of_marked mark', slashes, Url.front_append_of_marked mark']

theorem leads_iff_marked (found : Url.ofString? authUrl = some u) (web : Url.IsWeb u.scheme)
    (mark : ∃ c ∈ authUrl.toList, Url.isEnd c = true) (at_ : u.path = .segments parts) :
    Leads (baseText authUrl.toList) u (versioned parts) ↔
      u.path = .segments (Url.stripped parts ++ [[]]) ∧
        (Url.stripped parts).getLast? = some version := by
  obtain ⟨v, parsed, place, path⟩ := Url.parse?_congr (front_baseText mark) found web
  rw [at_, Url.Path.segments.injEq, ← dropLast_eq_versioned]
  constructor
  · rintro ⟨v', parsed', -, parts', at_', same⟩
    have unique : v' = v := by
      rw [parsed] at parsed'
      exact (Option.some.inj parsed').symm
    rw [unique, path, at_] at at_'
    cases at_'
    exact same
  · intro same
    exact ⟨v, parsed, place, parts, path.trans at_, same⟩

/-- What stands below an address without marks is at its place, if what it is put behind is. -/
theorem below_iff {start auth path : List Char} {P : Url.Path → Prop}
    (web : Url.IsWeb u.scheme) (free : ∀ c ∈ authUrl.toList, Url.isEnd c = false)
    (whole : Url.flushed (trimmed authUrl) = start ++ auth ++ path)
    (fall : Url.Parts u.scheme start auth path)
    (more : List Char) (solid : ∀ c ∈ more, Url.blank c = false ∧ Url.isEnd c = false)
    (plain : ∀ segment ∈ Url.splitSegments true more, Url.Plain segment) :
    (∃ v, Url.parse? none (trimmed authUrl ++ '/' :: more) = some v ∧ v.SamePlace u ∧ P v.path) ↔
      u.AuthorityOf auth ∧
        P (.segments (Url.directory path ++ Url.splitSegments true more)) := by
  obtain ⟨n, slashes⟩ := trimmed_append authUrl
  have free' : ∀ c ∈ trimmed authUrl ++ '/' :: more, Url.isEnd c = false := by
    refine List.forall_mem_append.2 ⟨fun c mem => ?_, List.forall_mem_cons.2 ⟨by decide, ?_⟩⟩
    · exact free c (by rw [slashes]; exact List.mem_append_left _ mem)
    · exact fun c mem => (solid c mem).2
  have front : Url.front (trimmed authUrl ++ '/' :: more) =
      start ++ auth ++ (path ++ '/' :: more) := by
    rw [Url.front_of_unmarked free', Url.clean_below (by decide) _ fun c mem => (solid c mem).1,
      whole, List.append_assoc _ path]
  refine ((fall.below more).reads_iff web front).trans ?_
  rw [Url.rootPath_below fall.path plain]

theorem leads_iff_unmarked (found : Url.ofString? authUrl = some u) (web : Url.IsWeb u.scheme)
    (free : ∀ c ∈ authUrl.toList, Url.isEnd c = false) (at_ : u.path = .segments parts) :
    Leads (baseText authUrl.toList) u (versioned parts) ↔
      (∃ v, Url.parse? none (trimmed authUrl ++ ['/']) = some v ∧ v.SamePlace u ∧
        v.path = .segments (Url.stripped parts ++ [[]])) ∧
      ((Url.stripped parts).getLast? = some version ↔ "/v3".toList <:+ trimmed authUrl) := by
  obtain ⟨start, auth, path, whole, fall, shallow, same⟩ := flushed_parts found web free at_
  have slash := below_iff (P := fun p => p = .segments (Url.stripped parts ++ [[]]))
    web free whole fall [] (by simp) (List.forall_mem_singleton.2 Url.plain_nil)
  have base : Leads (baseText authUrl.toList) u (versioned parts) ↔ u.AuthorityOf auth ∧
      (if "/v3".toList <:+ trimmed authUrl then Url.directory path
        else Url.directory path ++ [version]) = versioned parts := by
    let P (p : Url.Path) : Prop := ∃ parts', p = .segments parts' ∧ parts'.dropLast = versioned parts
    have held {parts' : List (List Char)} :
        P (.segments parts') ↔ parts'.dropLast = versioned parts := by
      simp [P]
    rw [baseText_eq]
    by_cases ends : "/v3".toList <:+ trimmed authUrl
    · rw [if_pos ends, if_pos ends]
      have split : Url.splitSegments true [] = [[]] := rfl
      refine (below_iff (P := P) web free whole fall [] (by simp) ?_).trans ?_
      · exact List.forall_mem_singleton.2 Url.plain_nil
      · rw [held, split, List.dropLast_concat]
    · rw [if_neg ends, if_neg ends]
      have split : Url.splitSegments true "v3/".toList = [version] ++ [[]] := rfl
      have plain : Url.Plain version := Url.plain_of_word (List.all_eq_true.1 version_word)
      have solid : "v3/".toList.all (fun c => !Url.blank c && !Url.isEnd c) = true := by decide
      refine (below_iff (P := P) web free whole fall _ (fun c mem => ?_) ?_).trans ?_
      · simpa using List.all_eq_true.1 solid c mem
      · rw [split]
        exact List.forall_mem_cons.2 ⟨plain, List.forall_mem_singleton.2 Url.plain_nil⟩
      · rw [held, split, ← List.append_assoc, List.dropLast_concat]
  rw [base, slash, directory_eq_versioned shallow same, Url.Path.segments.injEq]
  have nothing : Url.splitSegments true [] = [[]] := rfl
  rw [nothing, List.append_left_inj, and_assoc]

theorem leads_iff (found : Url.ofString? authUrl = some u) (web : Url.IsWeb u.scheme)
    (at_ : u.path = .segments parts) :
    Leads (baseText authUrl.toList) u (versioned parts) ↔
      Regular authUrl u (Url.stripped parts) := by
  by_cases mark : ∃ c ∈ authUrl.toList, Url.isEnd c = true
  · rw [leads_iff_marked found web mark at_]
    constructor
    · rintro ⟨path, ends⟩
      exact .marked mark path ends
    · rintro (⟨-, path, ends⟩ | ⟨free, -, -⟩)
      · exact ⟨path, ends⟩
      · obtain ⟨c, mem, is⟩ := mark
        rw [free c mem] at is
        cases is
  · have free : ∀ c ∈ authUrl.toList, Url.isEnd c = false := by
      intro c mem
      rw [Bool.eq_false_iff]
      exact fun is => mark ⟨c, mem, is⟩
    rw [leads_iff_unmarked found web free at_]
    constructor
    · rintro ⟨slash, ends⟩
      exact .unmarked free slash ends
    · rintro (⟨is, -, -⟩ | ⟨-, slash, ends⟩)
      · exact absurd is mark
      · exact ⟨slash, ends⟩

end

/-! ### Ordinary addresses -/

/-- An address that is written out as a scheme, a server, names and any number of slashes. The server
is not called like the version. -/
structure Ordinary (authUrl : String) (scheme server : List Char) (names : List (List Char))
    (n : Nat) : Prop where
  web : Url.IsWeb scheme
  text : authUrl.toList = scheme ++ "://".toList ++ server ++ (Url.Path.segments names).toList ++
    List.replicate n '/'
  filled : server ≠ []
  other : server ≠ version
  plain : ∀ c ∈ server, Url.blank c = false ∧ Url.isEnd c = false ∧ Url.isSlash true c = false
  names : ∀ name ∈ names, name ≠ [] ∧ ∀ c ∈ name, Url.isWord c

section

variable {scheme server : List Char} {names : List (List Char)} {n : Nat} {authUrl : String}
  {u : Url}

theorem path_toList (names : List (List Char)) (filled : names ≠ []) :
    (Url.Path.segments names).toList = '/' :: Url.Domain.joinAll '/' names := by
  induction names with
  | nil => exact absurd rfl filled
  | cons name names ih =>
    cases names with
    | nil => simp [Url.Path.toList, Url.Domain.joinAll]
    | cons name' names =>
      have rest := ih (by simp)
      have joined := Url.Domain.joinAll.eq_3 '/' name (name' :: names) (by simp)
      simp only [Url.Path.toList] at rest ⊢
      rw [List.flatMap_cons, rest, joined]
      simp

theorem directory_names (words : ∀ name ∈ names, ∀ c ∈ name, Url.isWord c) :
    Url.directory (Url.Path.segments names).toList = names := by
  by_cases empty : names = []
  · rw [empty]
    rfl
  · rw [path_toList names empty, Url.directory, Url.segmentsOf,
      Url.splitSegments_joinAll true empty words,
      Url.foldl_step_plain fun name there => Url.plain_of_word (words name there)]
    rfl

theorem stripped_names (filled : ∀ name ∈ names, name ≠ []) : Url.stripped names = names := by
  rcases List.eq_nil_or_concat' names with rfl | ⟨init, last, rfl⟩
  · rfl
  · exact List.rdropWhile_concat_neg _ _ _ (by simpa using filled last (by simp))

/-- A text ends with the version just if that is what stands behind its last slash. -/
theorem version_suffix_iff {before last : List Char} (free : '/' ∉ last) :
    "/v3".toList <:+ before ++ '/' :: last ↔ last = version := by
  have split (before' : List Char) {last' : List Char} (free' : '/' ∉ last') :
      splitAtFirst '/' (before' ++ '/' :: last').reverse = some (last'.reverse, before'.reverse) := by
    rw [List.reverse_append, List.reverse_cons, List.append_assoc]
    exact splitAtFirst_append (by simpa using free') _
  constructor
  · rintro ⟨before', is⟩
    have whole := split before' (by decide : '/' ∉ version)
    rw [show before' ++ '/' :: version = before ++ '/' :: last from is, split before free,
      Option.some.injEq, Prod.mk.injEq] at whole
    exact List.reverse_injective whole.1
  · rintro rfl
    exact ⟨before, rfl⟩

theorem rdropWhile_slashes (text : List Char) (n : Nat) :
    (text ++ List.replicate n '/').rdropWhile (· = '/') = text.rdropWhile (· = '/') := by
  induction n with
  | zero => rw [List.replicate_zero, List.append_nil]
  | succ n ih =>
    rw [List.replicate_succ', ← List.append_assoc, List.rdropWhile_concat_pos _ _ _ (by simp), ih]

theorem trimmed_of_tail {before last : List Char}
    (is : authUrl.toList = before ++ '/' :: last ++ List.replicate n '/') (filled : last ≠ [])
    (free : '/' ∉ last) : trimmed authUrl = before ++ '/' :: last := by
  rcases List.eq_nil_or_concat' last with rfl | ⟨init, c, rfl⟩
  · exact absurd rfl filled
  · have other : c ≠ '/' := by
      rintro rfl
      simp at free
    have whole : before ++ '/' :: (init ++ [c]) = before ++ '/' :: init ++ [c] := by simp
    rw [trimmed, is, rdropWhile_slashes, whole,
      List.rdropWhile_concat_neg _ _ _ (by simpa using other)]

namespace Ordinary

variable (ordinary : Ordinary authUrl scheme server names n)
include ordinary

theorem parts : Url.Parts scheme (scheme ++ "://".toList) server (Url.Path.segments names).toList := by
  refine ⟨?_, ordinary.filled, fun c mem => (ordinary.plain c mem).2.2, ?_⟩
  · refine ⟨scheme, "//".toList, rfl, ?_, ?_, ?_, ?_⟩
    · rcases ordinary.web with rfl | rfl <;> decide
    · rcases ordinary.web with rfl | rfl <;> decide
    · rcases ordinary.web with rfl | rfl <;> exact List.all_eq_true.1 (by decide)
    · exact List.all_eq_true.1 (by decide)
  · cases names <;> rfl

/-- No part of it has blanks or marks. -/
theorem solid : ∀ c ∈ authUrl.toList, Url.blank c = false ∧ Url.isEnd c = false := by
  have word {c : Char} (is : Url.isWord c) : Url.blank c = false ∧ Url.isEnd c = false :=
    Url.of_word (p := fun c => Url.blank c = false ∧ Url.isEnd c = false) (by decide) is
  have web : (scheme ++ "://".toList).all (fun c => !Url.blank c && !Url.isEnd c) = true := by
    rcases ordinary.web with rfl | rfl <;> decide
  intro c mem
  rw [ordinary.text] at mem
  rcases List.mem_append.1 mem with mem | slash
  · rcases List.mem_append.1 mem with mem | mem
    · rcases List.mem_append.1 mem with mem | mem
      · simpa using List.all_eq_true.1 web c mem
      · exact ⟨(ordinary.plain c mem).1, (ordinary.plain c mem).2.1⟩
    · obtain ⟨name, there, mem⟩ := List.mem_flatMap.1 mem
      rcases List.mem_cons.1 mem with rfl | mem
      · decide
      · exact word ((ordinary.names name there).2 c mem)
  · rw [List.eq_of_mem_replicate slash]
    decide

/-- Behind its last slash it has its last name, or its server. -/
theorem tail :
    ∃ before last, scheme ++ "://".toList ++ server ++ (Url.Path.segments names).toList =
      before ++ '/' :: last ∧ last ≠ [] ∧ '/' ∉ last ∧
      (names.getLast? = some version ↔ last = version) := by
  rcases List.eq_nil_or_concat' names with rfl | ⟨init, last, rfl⟩
  · refine ⟨scheme ++ ":/".toList, server, by simp [Url.Path.toList], ordinary.filled, ?_, ?_⟩
    · intro mem
      exact absurd (ordinary.plain _ mem).2.2 (by decide)
    · simp [ordinary.other]
  · obtain ⟨filled, words⟩ := ordinary.names last (by simp)
    refine ⟨scheme ++ "://".toList ++ server ++ (Url.Path.segments init).toList, last, ?_, filled,
      ?_, by simp⟩
    · simp [Url.Path.toList]
    · intro mem
      exact absurd (words _ mem) (by decide)

theorem trimmed_eq :
    trimmed authUrl = scheme ++ "://".toList ++ server ++ (Url.Path.segments names).toList := by
  obtain ⟨before, last, is, filled, free, -⟩ := ordinary.tail
  rw [is]
  exact trimmed_of_tail (n := n) (by rw [ordinary.text, is]) filled free

/-- The version is put behind it just if it is not the last name. -/
theorem version_iff : names.getLast? = some version ↔ "/v3".toList <:+ trimmed authUrl := by
  obtain ⟨before, last, is, -, free, iff⟩ := ordinary.tail
  rw [ordinary.trimmed_eq, is, version_suffix_iff free, iff]

/-- What it is read as. -/
theorem reads (found : Url.ofString? authUrl = some u) :
    u.scheme = scheme ∧ u.AuthorityOf server ∧
      ∃ parts, u.path = .segments parts ∧ Url.stripped parts = names := by
  have free : ∀ c ∈ authUrl.toList, Url.isEnd c = false := fun c mem => (ordinary.solid c mem).2
  have words : ∀ name ∈ names, ∀ c ∈ name, Url.isWord c :=
    fun name there => (ordinary.names name there).2
  have fall : Url.Parts scheme (scheme ++ "://".toList) server
      ((Url.Path.segments names).toList ++ List.replicate n '/') := by
    cases n with
    | zero => simpa using ordinary.parts
    | succ n => exact ordinary.parts.below _
  have front : Url.front authUrl.toList = scheme ++ "://".toList ++ server ++
      ((Url.Path.segments names).toList ++ List.replicate n '/') := by
    rw [Url.front_of_unmarked free, Url.clean_solid fun c mem => (ordinary.solid c mem).1,
      ordinary.text, List.append_assoc]
  obtain ⟨query, fragment, parsed⟩ := fall.reads ordinary.web front
  obtain ⟨place, authority, rfl⟩ := Option.map_eq_some_iff.1 (parsed.symm.trans found)
  refine ⟨rfl, ⟨place, authority, rfl, rfl⟩, ?_⟩
  have same : Url.stripped names = names :=
    stripped_names fun name there => (ordinary.names name there).1
  cases n with
  | zero =>
    obtain ⟨parts, at_⟩ := Url.segments_of_web found ordinary.web
    refine ⟨parts, at_, ?_⟩
    have rooted := fall.path
    rw [Url.stripped_rootPath rooted at_, List.replicate_zero, List.append_nil,
      directory_names words, same]
  | succ n =>
    refine ⟨_, Url.rootPath_slashes ordinary.parts.path n, ?_⟩
    rw [Url.stripped_append_replicate, directory_names words, same]

theorem regular (found : Url.ofString? authUrl = some u) : Regular authUrl u names := by
  have free : ∀ c ∈ authUrl.toList, Url.isEnd c = false := fun c mem => (ordinary.solid c mem).2
  obtain ⟨rfl, authority, -⟩ := ordinary.reads found
  have whole : Url.flushed (trimmed authUrl) =
      u.scheme ++ "://".toList ++ server ++ (Url.Path.segments names).toList := by
    obtain ⟨n, slashes⟩ := trimmed_append authUrl
    rw [← ordinary.trimmed_eq]
    refine Url.flushed_solid fun c mem => (ordinary.solid c ?_).1
    rw [slashes]
    exact List.mem_append_left _ mem
  refine .unmarked free ?_ ordinary.version_iff
  refine (below_iff (P := fun p => p = .segments (names ++ [[]])) ordinary.web free whole
    ordinary.parts [] (by simp) (List.forall_mem_singleton.2 Url.plain_nil)).2 ⟨authority, ?_⟩
  rw [directory_names fun name there => (ordinary.names name there).2]
  rfl

end Ordinary

end

theorem baseUrl_ok {i : Identity} {base : Url} :
    i.baseUrl = .ok base ↔ Url.parse? none (baseText i.authUrl.toList) = some base := by
  unfold baseUrl
  cases Url.parse? none (baseText i.authUrl.toList) <;> simp

/-- A route leads somewhere below a directory just if the text of the base does. -/
theorem route_iff_leads {i : Identity} {r : Route} (ids : r.Alphanumeric) (u : Url)
    (names : List (List Char)) :
    (∃ base url, i.baseUrl = .ok base ∧ endpoint base r.name = .ok url ∧ url.SamePlace u ∧
      url.path = .segments (names ++ r.path) ∧ url.query = r.query) ↔
      Leads (baseText i.authUrl.toList) u names := by
  constructor
  · rintro ⟨base, url, is, route, place, path, -⟩
    obtain ⟨parts, at_⟩ := segments_of_endpoint ids route
    rw [endpoint_route ids at_] at route
    cases route
    refine ⟨base, baseUrl_ok.1 is, place, parts, at_, ?_⟩
    exact List.append_left_injective _ (Url.Path.segments.inj path)
  · rintro ⟨base, parsed, ⟨scheme, host, port⟩, parts, at_, rfl⟩
    exact ⟨base, _, baseUrl_ok.2 parsed, endpoint_route ids at_, ⟨scheme, host, port⟩, rfl, rfl⟩

/-- Below an ordinary address every route leads to its server, under its names and the version. -/
theorem Ordinary.route {i : Identity} {r : Route} {u : Url} {scheme server : List Char}
    {names : List (List Char)} {n : Nat} (ordinary : Ordinary i.authUrl scheme server names n)
    (found : Url.ofString? i.authUrl = some u) (ids : r.Alphanumeric) :
    ∃ base url, i.baseUrl = .ok base ∧ endpoint base r.name = .ok url ∧ url.SamePlace u ∧
      url.path = .segments ((if names.getLast? = some version then names else names ++ [version]) ++
        r.path) ∧ url.query = r.query := by
  obtain ⟨rfl, -, parts, at_, same⟩ := ordinary.reads found
  have leads := (leads_iff found ordinary.web at_).2 (same.symm ▸ ordinary.regular found)
  rw [versioned, same] at leads
  exact (route_iff_leads ids u _).2 leads

end Identity

namespace Config

open Identity

/-- Settings that can be used have a web address. -/
theorem web_of_validate {c : Config} (valid : c.validate = .ok ()) :
    ∃ u, Url.ofString? c.identity.authUrl = some u ∧ Url.IsWeb u.scheme := by
  unfold validate at valid
  split at valid
  · cases valid
  · split at valid
    · cases valid
    · split at valid
      · cases valid
      next u found =>
        split at valid
        next web => exact ⟨u, found, web⟩
        next => cases valid

/-- For settings that can be used, every route leads to the configured server, under the version at
the end of the configured path, if and only if the address is regular. -/
theorem routes_versioned_iff {c : Config} {r : Route} (valid : c.validate = .ok ())
    (ids : r.Alphanumeric) :
    ∃ u parts, Url.ofString? c.identity.authUrl = some u ∧ u.path = .segments parts ∧
      ((∃ base url, c.identity.baseUrl = .ok base ∧ endpoint base r.name = .ok url ∧
          url.SamePlace u ∧ url.path = .segments (versioned parts ++ r.path) ∧
          url.query = r.query) ↔
        Regular c.identity.authUrl u (Url.stripped parts)) := by
  obtain ⟨u, found, web⟩ := web_of_validate valid
  obtain ⟨parts, at_⟩ := Url.segments_of_web found web
  refine ⟨u, parts, found, at_, ?_⟩
  rw [route_iff_leads ids, leads_iff found web at_]

theorem routes_versioned_sample :
    let c := Config.sample
    let r := Route.credential "user1" "cred1"
    c.validate = .ok () ∧ r.Alphanumeric ∧ ∃ u base url,
      Url.ofString? c.identity.authUrl = some u ∧ Regular c.identity.authUrl u [version] ∧
      c.identity.baseUrl = .ok base ∧ endpoint base r.name = .ok url ∧ url.SamePlace u ∧
      url.path = .segments (version :: r.path) := by
  intro c r
  have valid : c.validate = .ok () := by decide +kernel
  have ids : r.Alphanumeric :=
    ⟨List.all_eq_true.1 (by decide), List.all_eq_true.1 (by decide)⟩
  let given : Url :=
    { scheme := "https".toList, host := some (.domain "keystone.example.com".toList)
      port := some 5000, path := .segments [version], query := none, fragment := none }
  have read : Url.ofString? c.identity.authUrl = some given := by decide +kernel
  have slash : Url.parse? none (trimmed c.identity.authUrl ++ ['/']) =
      some { given with path := .segments [version, []] } := by decide +kernel
  have regular : Regular c.identity.authUrl given [version] := by
    have free : c.identity.authUrl.toList.all (!Url.isEnd ·) = true := by decide
    refine .unmarked (fun d mem => ?_) ⟨_, slash, ⟨rfl, rfl, rfl⟩, rfl⟩ (by decide)
    simpa using List.all_eq_true.1 free d mem
  obtain ⟨u, parts, found, at_, iff⟩ := routes_versioned_iff valid ids
  cases read.symm.trans found
  cases at_
  obtain ⟨base, url, is, route, place, path, -⟩ := iff.2 regular
  exact ⟨valid, ids, given, base, url, read, regular, is, route, place, path⟩

/-- A blank behind the address passes, and is part of what the version is put behind. -/
example :
    let i := { Identity.sample with authUrl := "https://keystone.example.com:5000 " }
    { Config.sample with identity := i }.validate = .ok () ∧
      i.baseUrl = .error (.config ("invalid auth_url " ++ i.authUrl ++ ": " ++ Error.foreign)) := by
  decide +kernel

end Config

end ClusterLifecycle
