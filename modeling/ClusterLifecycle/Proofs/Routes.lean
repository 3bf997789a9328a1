import ClusterLifecycle.Proofs.Listing
import ClusterLifecycle.Proofs.Url.Paths
import ClusterLifecycle.Proofs.Url.Reading

/-!
What the identity service is asked for, below the address that it is reached at.

* `Url.parse?_words`: words in a row, taken relative to an address, are the end of its path;
* `Identity.Route`: what the service is asked for, as text, as a path and as a query;
* `Identity.endpoint_route`: a route leads below the directory of its base.
-/

namespace ClusterLifecycle

open Text

namespace Url

open Domain

variable {mark c : Char} {text more word path : List Char} {segments parts : List (List Char)}
  {base : Url} {query : Option (List Char)}

/-! ### Names taken relative to an address -/

theorem cut_at (free : mark ∉ text) (more : List Char) :
    cut mark (text ++ mark :: more) = (text, some more) := by
  rw [cut, splitAtFirst_append free]

theorem relativeTo?_name (at_ : base.path = .segments parts)
    (filled : text ≠ []) (open_ : text.head?.any (isSlash (isSpecial base.scheme)) = false) :
    relativeTo? base text query none =
      some { base with
        path := .segments (follow parts.dropLast (splitSegments (isSpecial base.scheme) text))
        query := queryOf base.scheme query, fragment := none } := by
  cases text with
  | nil => exact absurd rfl filled
  | cons c text =>
    have other : isSlash (isSpecial base.scheme) c = false := open_
    unfold relativeTo?
    rw [at_]
    dsimp only
    rw [if_neg (by simp [other])]
    rfl

/-- A character of a query that stands for itself. -/
def isQueryWord (c : Char) : Bool := isWord c || c = '='

theorem apart_of_word (word : isWord c) :
    blank c = false ∧ c ≠ '#' ∧ c ≠ '?' ∧ c ≠ '/' ∧ c ≠ '\\' :=
  of_word (p := fun c => blank c = false ∧ c ≠ '#' ∧ c ≠ '?' ∧ c ≠ '/' ∧ c ≠ '\\')
    (by decide) word

theorem apart_of_queryWord (word : isQueryWord c) : blank c = false ∧ c ≠ '#' ∧
    Percent.inQuerySet c = false ∧ Percent.inSpecialQuerySet c = false := by
  rcases Bool.or_eq_true_iff.1 word with word | is
  · exact of_word (p := fun c => blank c = false ∧ c ≠ '#' ∧ Percent.inQuerySet c = false ∧
      Percent.inSpecialQuerySet c = false) (by decide) word
  · rw [of_decide_eq_true is]
    decide

theorem apart_of_joined (words : ∀ part ∈ parts, ∀ c ∈ part, isWord c)
    (mem : c ∈ joinAll '/' parts) : blank c = false ∧ c ≠ '#' ∧ c ≠ '?' ∧ c ≠ '\\' := by
  rcases mem_joinAll mem with rfl | ⟨part, there, mem⟩
  · decide
  · obtain ⟨solid, hash, question, -, backslash⟩ := apart_of_word (words part there c mem)
    exact ⟨solid, hash, question, backslash⟩

theorem splitSegments_joinAll (special : Bool) (filled : parts ≠ [])
    (words : ∀ part ∈ parts, ∀ c ∈ part, isWord c) :
    splitSegments special (joinAll '/' parts) = parts := by
  have same : (joinAll '/' parts).map (fun c => if c = '\\' then '/' else c) =
      joinAll '/' parts := by
    have each : ∀ c ∈ joinAll '/' parts, (if c = '\\' then '/' else c) = id c :=
      fun c mem => if_neg (apart_of_joined words mem).2.2.2
    rw [List.map_congr_left each, List.map_id]
  rw [splitSegments, same, ite_self, splitAll_joinAll filled]
  intro part there mem
  exact (apart_of_word (words part there _ mem)).2.2.2.1 rfl

theorem cut_marked (free : mark ∉ text) (query : Option (List Char)) :
    cut mark (text ++ marked mark query) = (text, query) := by
  cases query with
  | none => exact (congrArg (cut mark) (List.append_nil _)).trans (cut_of_free free)
  | some q => exact cut_at free q

theorem queryOf_words (asked : ∀ q, query = some q → ∀ c ∈ q, isQueryWord c) (scheme : List Char) :
    queryOf scheme query = query := by
  cases query with
  | none => rfl
  | some q =>
    rw [queryOf, Option.map_some, encode_of_free]
    intro c mem
    obtain ⟨-, -, plain, special⟩ := apart_of_queryWord (asked q rfl c mem)
    split
    · exact special
    · exact plain

theorem solid_of_marked (asked : ∀ q, query = some q → ∀ c ∈ q, isQueryWord c)
    (mem : c ∈ marked '?' query) : blank c = false ∧ c ≠ '#' := by
  cases query with
  | none => cases mem
  | some q =>
    rcases List.mem_cons.1 mem with rfl | mem
    · decide
    · obtain ⟨solid, hash, -⟩ := apart_of_queryWord (asked q rfl c mem)
      exact ⟨solid, hash⟩

/-- Words in a row, the first of letters, are the end of the path; the query is what it says. -/
theorem parse?_words (filled : word ≠ []) (letters : ∀ c ∈ word, c.isAlpha)
    (words : ∀ segment ∈ segments, ∀ c ∈ segment, isWord c) (more : segments ≠ [])
    (asked : ∀ q, query = some q → ∀ c ∈ q, isQueryWord c) (at_ : base.path = .segments parts) :
    parse? (some base) (joinAll '/' (word :: segments) ++ marked '?' query) =
      some { base with
        path := .segments (parts.dropLast ++ word :: segments), query, fragment := none } := by
  have all : ∀ part ∈ word :: segments, ∀ c ∈ part, isWord c := by
    refine List.forall_mem_cons.2 ⟨fun c mem => ?_, words⟩
    simp [isWord, Char.isAlphanum, letters c mem]
  have path {c : Char} (mem : c ∈ joinAll '/' (word :: segments)) := apart_of_joined all mem
  have question : '?' ∉ joinAll '/' (word :: segments) := fun mem => (path mem).2.2.1 rfl
  have solid : ∀ c ∈ joinAll '/' (word :: segments) ++ marked '?' query,
      blank c = false ∧ c ≠ '#' := by
    intro c mem
    rcases List.mem_append.1 mem with mem | mem
    · exact ⟨(path mem).1, (path mem).2.1⟩
    · exact solid_of_marked asked mem
  have whole : joinAll '/' (word :: segments) = word ++ '/' :: joinAll '/' segments :=
    joinAll.eq_3 _ _ _ more
  rw [parse?, clean_solid fun c mem => (solid c mem).1,
    cut_of_free fun mem => (solid _ mem).2 rfl]
  dsimp only
  rw [cut_marked question]
  dsimp only
  have noScheme : splitScheme? (joinAll '/' (word :: segments)) = none := by
    rw [whole, splitScheme?_word letters]
  have open_ : (joinAll '/' (word :: segments)).head?.any (isSlash (isSpecial base.scheme)) =
      false := by
    rw [whole]
    cases word with
    | nil => exact absurd rfl filled
    | cons c word =>
      obtain ⟨-, -, -, slash, backslash⟩ := apart_of_word (all _ List.mem_cons_self c List.mem_cons_self)
      simp [isSlash, slash, backslash]
  have plain : ∀ segment ∈ word :: segments, Plain segment :=
    fun segment there => plain_of_word (all segment there)
  rw [noScheme]
  refine (relativeTo?_name at_ (by simp [whole]) open_).trans ?_
  rw [splitSegments_joinAll _ (by simp) all, follow_plain plain, queryOf_words asked]

end Url

namespace Identity

open IdentitySession.Call

/-- What the service is asked for. -/
inductive Route where
  | tokens
  | credentials (user : String)
  /-- The credentials of a name, which is the identity of a cluster. -/
  | named (user : String) (id : Uuid)
  | credential (user id : String)

namespace Route

/-- The name that its address is found by. -/
def name : Route → String
  | tokens => "auth/tokens"
  | credentials user => credentialsOf user
  | named user id => credentialsOf user ++ "?name=" ++ id.toString
  | credential user id => credentialsOf user ++ "/" ++ id

/-- The segments of its path below the service. -/
def path : Route → List (List Char)
  | tokens => ["auth".toList, "tokens".toList]
  | credentials user | named user _ =>
    ["users".toList, user.toList, "application_credentials".toList]
  | credential user id =>
    ["users".toList, user.toList, "application_credentials".toList, id.toList]

def query : Route → Option (List Char)
  | named _ id => some ("name=".toList ++ id.toList)
  | _ => none

/-- The users and the credentials in it are of letters and digits. -/
def Alphanumeric : Route → Prop
  | tokens => True
  | credentials user | named user _ => ∀ c ∈ user.toList, c.isAlphanum
  | credential user id => (∀ c ∈ user.toList, c.isAlphanum) ∧ ∀ c ∈ id.toList, c.isAlphanum

theorem name_toList (r : Route) :
    r.name.toList = Url.Domain.joinAll '/' r.path ++ Url.marked '?' r.query := by
  cases r <;> simp [name, path, query, credentialsOf, Url.Domain.joinAll, Url.marked, Uuid.toString]

/-- A route starts with a word of letters, and goes on in words. -/
theorem path_words {r : Route} (ids : r.Alphanumeric) :
    ∃ word segments, r.path = word :: segments ∧ word ≠ [] ∧ segments ≠ [] ∧
      (∀ c ∈ word, c.isAlpha) ∧ ∀ segment ∈ segments, ∀ c ∈ segment, Url.isWord c := by
  have alphanumeric {s : String} (all : ∀ c ∈ s.toList, c.isAlphanum) :
      ∀ c ∈ s.toList, Url.isWord c := by
    intro c mem
    simp [Url.isWord, all c mem]
  have service : ∀ c ∈ "application_credentials".toList, Url.isWord c :=
    List.all_eq_true.1 (by decide)
  have users : ∀ c ∈ "users".toList, c.isAlpha := List.all_eq_true.1 (by decide)
  cases r with
  | tokens =>
    refine ⟨_, _, rfl, by decide, by decide, List.all_eq_true.1 (by decide), ?_⟩
    exact List.forall_mem_singleton.2 (List.all_eq_true.1 (by decide))
  | credentials user | named user id =>
    refine ⟨_, _, rfl, by decide, by simp, users, ?_⟩
    exact List.forall_mem_cons.2 ⟨alphanumeric ids, List.forall_mem_singleton.2 service⟩
  | credential user id =>
    refine ⟨_, _, rfl, by decide, by simp, users, ?_⟩
    exact List.forall_mem_cons.2 ⟨alphanumeric ids.1,
      List.forall_mem_cons.2 ⟨service, List.forall_mem_singleton.2 (alphanumeric ids.2)⟩⟩

theorem query_words {r : Route} {q : List Char} (is : r.query = some q) :
    ∀ c ∈ q, Url.isQueryWord c := by
  have digits : ∀ d : Fin 16, Url.isQueryWord (hexDigit d.val) := by decide
  cases r with
  | tokens | credentials | credential => cases is
  | named user id =>
    obtain rfl := Option.some.inj is
    intro c mem
    rcases List.mem_append.1 mem with mem | mem
    · exact List.all_eq_true.1 (by decide : "name=".toList.all Url.isQueryWord) c mem
    · by_contra other
      refine id.not_mem_toList ?_ ?_ mem
      · rintro rfl
        exact other (by decide)
      · rintro d rfl
        exact other (digits d)

end Route

/-- A route leads below the directory of the base. -/
theorem endpoint_route {base : Url} {parts : List (List Char)} {r : Route} (ids : r.Alphanumeric)
    (at_ : base.path = .segments parts) :
    endpoint base r.name = .ok { base with
      path := .segments (parts.dropLast ++ r.path), query := r.query, fragment := none } := by
  obtain ⟨word, segments, is, filled, more, letters, words⟩ := r.path_words ids
  have joined := Url.parse?_words filled letters words more
    (fun q same => Route.query_words (r := r) same) at_
  rw [← is, ← r.name_toList] at joined
  rw [endpoint, Url.join?, joined]

/-- A route leads nowhere where the base has no segments. -/
theorem segments_of_endpoint {base url : Url} {r : Route} (ids : r.Alphanumeric)
    (found : endpoint base r.name = .ok url) : ∃ parts, base.path = .segments parts := by
  obtain ⟨word, segments, is, filled, more, letters, -⟩ := r.path_words ids
  refine (endpoint_word word (Url.Domain.joinAll '/' segments ++ Url.marked '?' r.query) filled
    letters ?_).1 ⟨url, found⟩
  rw [r.name_toList, is, Url.Domain.joinAll.eq_3 _ _ _ more]
  simp

end Identity

end ClusterLifecycle
