import ClusterLifecycle.Host
import ClusterLifecycle.Proofs.Parts
import ClusterLifecycle.Proofs.Sessions

/-!
What the identity service has answered where the revocation of a credential is reported.

* `Gone`: the answers show that no credential is left under the name;
* `finds_of_traces`, `deletes_of_traces`: what finding and deleting a credential come to;
* `revoked_iff`: a revocation succeeds where the credential is gone, and also where a token could
  not be renewed because there was no address for that.
-/

namespace ClusterLifecycle

open Program

namespace Http.Response

/-- The credentials that a successful answer lists. -/
def listed? (a : Http.Response) : Option (List ApplicationCredential) :=
  if a.isSuccess then a.read? ApplicationCredential.listed? else none

/-- Nothing is held under the name. -/
def Denies (a : Http.Response) (name : String) : Prop :=
  a.status = 404 ∨ ∃ listed, a.listed? = some listed ∧ ∀ c ∈ listed, c.name ≠ name

/-- The first credential of the name is this one. -/
def Names (a : Http.Response) (name : String) (c : ApplicationCredential) : Prop :=
  ∃ listed, a.listed? = some listed ∧ listed.find? (·.name = name) = some c

/-- What was to be deleted is no longer there. -/
def Confirms (a : Http.Response) : Prop := a.isSuccess ∨ a.status = 404

variable {a : Http.Response} {name : String}

theorem listed?_refusal (refused : a.status = 401) : a.listed? = none := by
  simp [listed?, isSuccess, refused]

theorem not_denies_refusal (refused : a.status = 401) : ¬a.Denies name := by
  simp [Denies, listed?_refusal refused, refused]

theorem not_names_refusal (refused : a.status = 401) (c : ApplicationCredential) :
    ¬a.Names name c := by
  simp [Names, listed?_refusal refused]

/-- An answer that names a credential does not deny that there is one. -/
theorem Names.not_denies {c : ApplicationCredential} (h : a.Names name c) : ¬a.Denies name := by
  obtain ⟨listed, lists, found⟩ := h
  rintro (missing | ⟨listed', lists', others⟩)
  · simp [listed?, isSuccess, missing] at lists
  · cases lists.symm.trans lists'
    exact others c (List.mem_of_find?_eq_some found) (by simpa using List.find?_some found)

theorem Names.unique {c c' : ApplicationCredential} (h : a.Names name c) (h' : a.Names name c') :
    c' = c := by
  obtain ⟨listed, lists, found⟩ := h
  obtain ⟨listed', lists', found'⟩ := h'
  cases lists.symm.trans lists'
  exact Option.some.inj (found'.symm.trans found)

end Http.Response

namespace IdentitySession.Call

/-- The listing of the user's credentials of a name was answered so. -/
def Listed (base : Url) (user name : String) (log : Log Http.exchange) (a : Http.Response) : Prop :=
  ∃ url, Identity.endpoint base (credentialsOf user ++ "?name=" ++ name) = .ok url ∧
    Answered log .get url a

/-- The deletion of a credential of the user was answered so. -/
def Deletion (base : Url) (user id : String) (log : Log Http.exchange) (a : Http.Response) : Prop :=
  ∃ url, Identity.endpoint base (credentialsOf user ++ "/" ++ id) = .ok url ∧
    Answered log .delete url a

/-- The answers show that no credential is left under the name. -/
inductive Gone (base : Url) (user name : String) (log : Log Http.exchange) : Prop
  | denied {a : Http.Response} (listed : Listed base user name log a) (denies : a.Denies name)
  | deleted {a b : Http.Response} {c : ApplicationCredential}
      (listed : Listed base user name log a) (names : a.Names name c)
      (deletion : Deletion base user c.id log b) (confirms : b.Confirms)

variable {α : Type} {s t : IdentitySession} {l : Login} {log : Log Http.exchange}
  {user name id : String} {e : Error}

theorem isNotFound_endpoint {base : Url} {endpoint : String}
    (h : Identity.endpoint base endpoint = .error e) : e.isNotFound = false := by
  unfold Identity.endpoint at h
  split at h
  · cases h
  · cases h
    rfl

/-- Reading an answer gives what stands in it, or an error that says that something is missing where
the answer does. -/
theorem traces_read {read? : Json.Written → Option α} {a : Http.Response} {r : Result α}
    (h : ((read read? a).run.run s).Traces log (r, t)) :
    log = [] ∧ t = s ∧
      ((∃ b, r = .ok b ∧ a.isSuccess = true ∧ a.read? read? = some b) ∨
        ∃ e, r = .error e ∧ (a.isSuccess = true → a.read? read? = none) ∧
          (e.isNotFound = true ↔ a.status = 404)) := by
  unfold read at h
  cases success : a.isSuccess with
  | false =>
    rw [success] at h
    obtain ⟨rfl, same⟩ := traces_done.1 h
    cases same
    exact ⟨rfl, rfl, .inr ⟨_, rfl, nofun, Identity.isNotFound_failure a⟩⟩
  | true =>
    rw [success] at h
    cases reads : a.read? read? with
    | none =>
      rw [reads] at h
      obtain ⟨rfl, same⟩ := traces_done.1 h
      cases same
      refine ⟨rfl, rfl, .inr ⟨_, rfl, fun _ => rfl, ?_⟩⟩
      simp [Error.isNotFound, Http.Response.not_missing success]
    | some b =>
      rw [reads] at h
      obtain ⟨rfl, same⟩ := traces_done.1 h
      cases same
      exact ⟨rfl, rfl, .inl ⟨b, rfl, rfl, rfl⟩⟩

/-- An answered listing names a credential, or it says that there is none, which is then what is
returned. -/
theorem found_of_answer {a : Http.Response} {r : Result ApplicationCredential}
    (h : ((do
      let listed ← read ApplicationCredential.listed? a
      match listed.find? (·.name = name) with
      | some credential => return credential
      | none => throw (.notFound "ApplicationCredential" name) :
        Call ApplicationCredential).run.run s).Traces log (r, t)) :
    log = [] ∧ t = s ∧
      ((∃ c, r = .ok c ∧ a.Names name c) ∨
        ∃ e, r = .error e ∧ (∀ c, ¬a.Names name c) ∧ (e.isNotFound = true ↔ a.Denies name)) := by
  rcases traces_bind.1 h with ⟨listed, u, before, after, rfl, reads, later⟩ | ⟨e, rfl, reads⟩
  · obtain ⟨rfl, rfl, outcome⟩ := traces_read reads
    have lists : a.listed? = some listed := by
      rcases outcome with ⟨_, ⟨⟩, success, parsed⟩ | ⟨_, ⟨⟩, _⟩
      rw [Http.Response.listed?, if_pos success]
      exact parsed
    cases found : listed.find? (·.name = name) with
    | some c =>
      rw [found] at later
      obtain ⟨rfl, same⟩ := traces_done.1 later
      cases same
      exact ⟨rfl, rfl, .inl ⟨c, rfl, listed, lists, found⟩⟩
    | none =>
      rw [found] at later
      obtain ⟨rfl, same⟩ := traces_done.1 later
      cases same
      refine ⟨rfl, rfl, .inr ⟨_, rfl, ?_, ?_⟩⟩
      · rintro c ⟨listed', lists', found'⟩
        cases lists.symm.trans lists'
        rw [found] at found'
        cases found'
      · have denied : a.Denies name := .inr ⟨listed, lists, by simpa using found⟩
        simp [Error.isNotFound, denied]
  · obtain ⟨rfl, rfl, outcome⟩ := traces_read reads
    rcases outcome with ⟨_, ⟨⟩, _⟩ | ⟨_, ⟨⟩, unread, missing⟩
    have unlisted : a.listed? = none := by
      unfold Http.Response.listed?
      split
      next success => exact unread success
      next => rfl
    refine ⟨rfl, rfl, .inr ⟨e, rfl, ?_, ?_⟩⟩
    · rintro c ⟨listed, lists, -⟩
      rw [unlisted] at lists
      cases lists
    · simp [Http.Response.Denies, unlisted, missing]

/-- The log shows a listing that names the credential, and no other answer. -/
structure Found (l : Login) (base : Url) (user name : String) (log : Log Http.exchange)
    (c : ApplicationCredential) : Prop where
  listed : ∃ a, Listed base user name log a ∧ a.Names name c
  only : ∀ a, Listed base user name log a → a.Names name c ∨ a.status = 401
  renewed : ¬TokenMissing l log

/-- The log shows no listing that names a credential, and the error says that something is missing
where a listing denies it or a token could not be got because of that. -/
structure Unfound (l : Login) (base : Url) (user name : String) (log : Log Http.exchange)
    (e : Error) : Prop where
  unnamed : ∀ a, Listed base user name log a → ∀ c, ¬a.Names name c
  missing : e.isNotFound = true ↔
    (∃ a, Listed base user name log a ∧ a.Denies name) ∨ TokenMissing l log

theorem listed_iff {base url : Url} {a : Http.Response}
    (named : Identity.endpoint base (credentialsOf user ++ "?name=" ++ name) = .ok url) :
    Listed base user name log a ↔ Answered log .get url a := by
  simp [Listed, named]

/-- What finding a credential comes to. -/
theorem finds_of_traces {r : Result ApplicationCredential} (login : s.login = some l)
    (h : ((find user name).run.run s).Traces log (r, t)) :
    t.login = some l ∧ t.base = s.base ∧ (∀ e ∈ log, e.request.method ≠ .delete) ∧
      ((∃ c, r = .ok c ∧ Found l s.base user name log c) ∨
        ∃ e, r = .error e ∧ Unfound l s.base user name log e) := by
  unfold find at h
  rcases traces_bind.1 h with ⟨a, u, before, after, rfl, sends, later⟩ | ⟨e, rfl, sends⟩
  · obtain ⟨still, base, ⟨_, _, ⟨⟩, _⟩ | ⟨url, named, sent⟩⟩ := sent_of_traces login sends
    obtain ⟨answered, only, renewed⟩ := sent.ok (by decide)
    obtain ⟨rfl, rfl, outcome⟩ := found_of_answer later
    rw [List.append_nil]
    refine ⟨still, base, sent.kept (by decide), ?_⟩
    rcases outcome with ⟨c, rfl, names⟩ | ⟨e, rfl, unnamed, missing⟩
    · refine .inl ⟨c, rfl, ⟨a, (listed_iff named).2 answered, names⟩, ?_, renewed⟩
      intro b listed
      rcases only b ((listed_iff named).1 listed) with rfl | refused
      · exact .inl names
      · exact .inr refused
    · refine .inr ⟨e, rfl, ?_, ?_⟩
      · intro b listed
        rcases only b ((listed_iff named).1 listed) with rfl | refused
        · exact unnamed
        · exact Http.Response.not_names_refusal refused
      · rw [missing]
        constructor
        · exact fun denies => .inl ⟨a, (listed_iff named).2 answered, denies⟩
        · rintro (⟨b, listed, denies⟩ | unrenewed)
          · rcases only b ((listed_iff named).1 listed) with rfl | refused
            · exact denies
            · exact absurd denies (Http.Response.not_denies_refusal refused)
          · exact absurd unrenewed renewed
  · obtain ⟨still, base, unasked | ⟨url, named, sent⟩⟩ := sent_of_traces login sends
    · obtain ⟨e, unnamed, ⟨⟩, rfl⟩ := unasked
      refine ⟨still, base, by simp, .inr ⟨_, rfl, ?_, ?_⟩⟩
      · rintro b ⟨url, named, -⟩
        cases unnamed.symm.trans named
      · simp [Listed, unnamed, TokenMissing, answered_nil, isNotFound_endpoint unnamed]
    · obtain ⟨refused, missing⟩ := sent.error (by decide)
      refine ⟨still, base, sent.kept (by decide), .inr ⟨e, rfl, ?_, ?_⟩⟩
      · intro b listed
        exact Http.Response.not_names_refusal (refused b ((listed_iff named).1 listed))
      · rw [missing, iff_or_self]
        rintro ⟨b, listed, denies⟩
        exact absurd denies
          (Http.Response.not_denies_refusal (refused b ((listed_iff named).1 listed)))

/-- The deletion is done: it succeeds, or what was to be deleted is missing. -/
def Done (r : Result Unit) : Prop := r = .ok () ∨ ∃ e, r = .error e ∧ e.isNotFound = true

theorem deletion_iff {base url : Url} {a : Http.Response}
    (named : Identity.endpoint base (credentialsOf user ++ "/" ++ id) = .ok url) :
    Deletion base user id log a ↔ Answered log .delete url a := by
  simp [Deletion, named]

/-- A deletion is done where that is answered, and also where a token could not be got because there
was nothing to ask for it. -/
theorem deletes_of_traces {r : Result Unit} (login : s.login = some l)
    (h : ((delete user id).run.run s).Traces log (r, t)) :
    (∀ e ∈ log, e.request.method ≠ .get) ∧
      (Done r ↔ (∃ a, Deletion s.base user id log a ∧ a.Confirms) ∨ TokenMissing l log) := by
  unfold delete at h
  rcases traces_bind.1 h with ⟨a, u, before, after, rfl, sends, later⟩ | ⟨e, rfl, sends⟩
  · obtain ⟨still, base, ⟨_, _, ⟨⟩, _⟩ | ⟨url, named, sent⟩⟩ := sent_of_traces login sends
    obtain ⟨answered, only, renewed⟩ := sent.ok (by decide)
    have confirmed : (∃ b, Deletion s.base user id before b ∧ b.Confirms) ↔ a.Confirms := by
      constructor
      · rintro ⟨b, deletion, confirms⟩
        rcases only b ((deletion_iff named).1 deletion) with rfl | refused
        · exact confirms
        · simp [Http.Response.Confirms, Http.Response.isSuccess, refused] at confirms
      · exact fun confirms => ⟨a, (deletion_iff named).2 answered, confirms⟩
    cases success : a.isSuccess with
    | true =>
      rw [success] at later
      obtain ⟨rfl, same⟩ := traces_done.1 later
      cases same
      rw [List.append_nil, confirmed]
      exact ⟨sent.kept (by decide), iff_of_true (.inl rfl) (.inl (.inl success))⟩
    | false =>
      rw [success] at later
      obtain ⟨rfl, same⟩ := traces_done.1 later
      cases same
      rw [List.append_nil, confirmed]
      refine ⟨sent.kept (by decide), ?_⟩
      simp [Done, Identity.isNotFound_failure, Http.Response.Confirms, success, renewed]
  · obtain ⟨still, base, unasked | ⟨url, named, sent⟩⟩ := sent_of_traces login sends
    · obtain ⟨e, unnamed, ⟨⟩, rfl⟩ := unasked
      refine ⟨by simp, ?_⟩
      simp [Done, Deletion, unnamed, TokenMissing, answered_nil, isNotFound_endpoint unnamed]
    · obtain ⟨refused, missing⟩ := sent.error (by decide)
      refine ⟨sent.kept (by decide), ?_⟩
      have undone : Done (.error e) ↔ TokenMissing l log := by simp [Done, missing]
      rw [undone, iff_or_self]
      rintro ⟨b, deletion, confirms⟩
      have refused := refused b ((deletion_iff named).1 deletion)
      simp [Http.Response.Confirms, Http.Response.isSuccess, refused] at confirms

section
variable {base : Url} {later : Log Http.exchange}

theorem answered_append {method : Http.Method} {url : Url} {a : Http.Response} :
    Answered (log ++ later) method url a ↔ Answered log method url a ∨ Answered later method url a := by
  simp only [Answered, List.mem_append, and_or_left, exists_or]

theorem not_listed (quiet : ∀ e ∈ log, e.request.method ≠ .get) (a : Http.Response) :
    ¬Listed base user name log a := by
  rintro ⟨url, -, q, aims, member⟩
  exact quiet _ member aims.1

theorem not_deletion (quiet : ∀ e ∈ log, e.request.method ≠ .delete) (a : Http.Response) :
    ¬Deletion base user id log a := by
  rintro ⟨url, -, q, aims, member⟩
  exact quiet _ member aims.1

theorem listed_append (unlisted : ∀ e ∈ later, e.request.method ≠ .get) {a : Http.Response} :
    Listed base user name (log ++ later) a ↔ Listed base user name log a := by
  have never : ¬Listed base user name later a := not_listed unlisted a
  simp only [Listed, answered_append, and_or_left, exists_or] at never ⊢
  simp only [never, or_false]

theorem deletion_append (quiet : ∀ e ∈ log, e.request.method ≠ .delete) {a : Http.Response} :
    Deletion base user id (log ++ later) a ↔ Deletion base user id later a := by
  have never : ¬Deletion base user id log a := not_deletion quiet a
  simp only [Deletion, answered_append, and_or_left, exists_or] at never ⊢
  simp only [never, false_or]

theorem tokenMissing_append :
    TokenMissing l (log ++ later) ↔ TokenMissing l log ∨ TokenMissing l later := by
  simp only [TokenMissing, answered_append, or_and_right, exists_or]

/-- Where nothing is deleted a credential is gone if it was denied that there is one. -/
theorem gone_iff_denied (quiet : ∀ e ∈ log, e.request.method ≠ .delete) :
    Gone base user name log ↔ ∃ a, Listed base user name log a ∧ a.Denies name := by
  constructor
  · rintro (⟨listed, denies⟩ | ⟨_, _, deletion, _⟩)
    · exact ⟨_, listed, denies⟩
    · exact absurd deletion (not_deletion quiet _)
  · rintro ⟨a, listed, denies⟩
    exact .denied listed denies

/-- Where a credential was found it is gone if its deletion was confirmed. -/
theorem Found.gone_iff {c : ApplicationCredential} (h : Found l base user name log c)
    (quiet : ∀ e ∈ log, e.request.method ≠ .delete)
    (unlisted : ∀ e ∈ later, e.request.method ≠ .get) :
    Gone base user name (log ++ later) ↔
      ∃ a, Deletion base user c.id later a ∧ a.Confirms := by
  constructor
  · rintro (⟨listed, denies⟩ | ⟨listed, names, deletion, confirms⟩)
    · rcases h.only _ ((listed_append unlisted).1 listed) with names | refused
      · exact absurd denies names.not_denies
      · exact absurd denies (Http.Response.not_denies_refusal refused)
    · rcases h.only _ ((listed_append unlisted).1 listed) with named | refused
      · cases named.unique names
        exact ⟨_, (deletion_append quiet).1 deletion, confirms⟩
      · exact absurd names (Http.Response.not_names_refusal refused _)
  · rintro ⟨b, deletion, confirms⟩
    obtain ⟨a, listed, names⟩ := h.listed
    exact .deleted ((listed_append unlisted).2 listed) names ((deletion_append quiet).2 deletion)
      confirms

end

end IdentitySession.Call

namespace Host

/-- What was said to the identity service, and what it answered. -/
def identityLog (log : Log host) : Log Http.exchange :=
  log.filterMap fun e => match e with
    | ⟨.identity q, a⟩ => some ⟨q, a⟩
    | _ => none

theorem identityLog_append (before after : Log host) :
    identityLog (before ++ after) = identityLog before ++ identityLog after :=
  List.filterMap_append

theorem traces_identity {α : Type} {p : Program Http.exchange α} {log : Log host} {a : α}
    (h : (identity p).Traces log a) : p.Traces (identityLog log) a := by
  induction p generalizing log with
  | done b =>
    obtain ⟨rfl, rfl⟩ := traces_done.1 h
    exact .done a
  | ask q next ih =>
    obtain ⟨x, rest, rfl, later⟩ := traces_ask.1 h
    exact .ask (ih x later)

/-- What is said to the identity service is said to it through the host. -/
theorem traces_through {α : Type} {p : Program Http.exchange α} {log : Log Http.exchange} {a : α}
    (h : p.Traces log a) :
    (identity p).Traces (log.map fun e => ⟨.identity e.request, e.answer⟩) a := by
  induction h with
  | done a => exact .done a
  | ask _ ih => exact .ask ih

end Host

namespace Connection

open Host IdentitySession.Call

variable {α : Type} {c c' : Connection} {log : Log host}

theorem traces_inSession {call : IdentitySession.Call α} {r : Result α}
    (h : (c.inSession call).Traces log (r, c')) :
    ∃ s, c' = { c with session := s } ∧ (call.run.run c.session).Traces (identityLog log) (r, s) := by
  obtain ⟨⟨r', s⟩, before, after, rfl, first, later⟩ := Program.traces_bind.1 h
  obtain ⟨rfl, same⟩ := traces_done.1 later
  cases same
  rw [List.append_nil]
  exact ⟨s, rfl, traces_identity first⟩

/-- What a revocation asks, and what it makes of the answers. -/
theorem run_revoke (user : String) (id : Uuid) :
    (Credential.revoke user id).run =
      (ask (.findCredential user id.toString) fun found => match found with
        | .ok credential => ask (.deleteCredential user credential.id) fun deleted =>
          match deleted with
          | .ok _ => done (.ok ())
          | .error e => done (if e.isNotFound then .ok () else .error e)
        | .error e => done (if e.isNotFound then .ok () else .error e) :
        Program services (Result Unit)) := by
  refine congrArg (ask (I := services) (.findCredential user id.toString)) (funext ?_)
  rintro (e | credential)
  · cases e <;> rfl
  · refine congrArg (ask (I := services) (.deleteCredential user credential.id)) (funext ?_)
    rintro (e | _)
    · cases e <;> rfl
    · rfl

theorem traces_lower {q : ServiceRequest} {next : q.Answer → Program services (Result α)}
    {r : Result α}
    (h : ((ask (I := services) q next).lower answerService c).Traces log (r, c')) :
    ∃ a c₁ before after, log = before ++ after ∧ (answerService q c).Traces before (a, c₁) ∧
      ((next a).lower answerService c₁).Traces after (r, c') := by
  obtain ⟨⟨a, c₁⟩, before, after, rfl, first, later⟩ := Program.traces_bind.1 h
  exact ⟨a, c₁, before, after, rfl, first, later⟩

/-- A revocation succeeds where the credential is gone, and where a token was to be got for it and
the address for tokens was answered as missing. -/
theorem revoked_iff {l : Login} {user : String} {id : Uuid} {r : Result Unit}
    (login : c.session.login = some l)
    (ran : ((Credential.revoke user id).run.lower answerService c).Traces log (r, c')) :
    r = .ok () ↔ Gone c.session.base user id.toString (identityLog log) ∨
      TokenMissing l (identityLog log) := by
  rw [run_revoke] at ran
  obtain ⟨found, c₁, before, after, rfl, asked, later⟩ := traces_lower ran
  obtain ⟨s, rfl, finds⟩ := traces_inSession asked
  obtain ⟨still, base, quiet, outcome⟩ := finds_of_traces login finds
  rw [identityLog_append]
  rcases outcome with ⟨credential, rfl, found⟩ | ⟨e, rfl, unfound⟩
  · obtain ⟨deleted, c₂, before', after', rfl, asked', ends⟩ := traces_lower later
    obtain ⟨s', rfl, deletes⟩ := traces_inSession asked'
    obtain ⟨unlisted, done⟩ := deletes_of_traces still deletes
    obtain ⟨rfl, result⟩ : after' = [] ∧ (r = .ok () ↔ Done deleted) := by
      cases deleted with
      | ok _ =>
        obtain ⟨rfl, same⟩ := traces_done.1 ends
        cases same
        exact ⟨rfl, iff_of_true rfl (.inl rfl)⟩
      | error e =>
        obtain ⟨rfl, same⟩ := traces_done.1 ends
        cases same
        simp [Done]
    rw [List.append_nil, result, done, found.gone_iff quiet unlisted, tokenMissing_append,
      or_iff_right found.renewed, base]
  · obtain ⟨rfl, same⟩ := traces_done.1 later
    cases same
    rw [show identityLog [] = [] from rfl, List.append_nil, gone_iff_denied quiet,
      ← unfound.missing]
    simp

/-- Nothing has been found out where the listing is refused and there is no address for tokens, and
yet the revocation succeeds. -/
theorem revokes_unrenewed {l : Login} {user : String} {id : Uuid} {url : Url} {a b : Http.Response}
    (login : c.session.login = some l)
    (named : Identity.endpoint c.session.base (credentialsOf user ++ "?name=" ++ id.toString) =
      .ok url)
    (refused : a.status = 401) (missing : b.status = 404) :
    ∃ log, ((Credential.revoke user id).run.lower answerService c).Traces log (.ok (), c) ∧
      ¬Gone c.session.base user id.toString (identityLog log) := by
  have failed : b.isSuccess = false := by simp [Http.Response.isSuccess, missing]
  obtain ⟨q, q', lists, renews, sends⟩ := traces_unrenewed login named refused failed
  refine ⟨[⟨.identity q, some a⟩, ⟨.identity q', some b⟩], ?_, ?_⟩
  · have finds : ((find user id.toString).run.run c.session).Traces [⟨q, some a⟩, ⟨q', some b⟩]
        (.error (Identity.failure b), c.session) := by
      unfold find
      exact IdentitySession.Call.traces_bind.2 (.inr ⟨_, rfl, sends⟩)
    have asks : (c.inSession (find user id.toString)).Traces
        [⟨.identity q, some a⟩, ⟨.identity q', some b⟩] (.error (Identity.failure b), c) :=
      Program.traces_bind.2 ⟨_, _, [], rfl, traces_through finds, .done _⟩
    rw [run_revoke]
    refine Program.traces_bind.2 ⟨_, _, [], rfl, asks, ?_⟩
    dsimp only
    rw [if_pos ((Identity.isNotFound_failure b).2 missing)]
    exact .done _
  · change ¬Gone _ _ _ [⟨q, some a⟩, ⟨q', some b⟩]
    rw [gone_iff_denied (by simp [lists.1, renews.1])]
    rintro ⟨a', ⟨url', -, answered⟩, denies⟩
    rcases answered_cons.1 answered with ⟨-, same⟩ | answered
    · cases same
      exact Http.Response.not_denies_refusal refused denies
    · rcases answered_cons.1 answered with ⟨reads, -⟩ | unanswered
      · exact renews.elsewhere (by decide) url' reads
      · exact answered_nil unanswered

theorem listing_sample :
    Identity.endpoint (Identity.sampleUrl ["v3", ""] none)
        (credentialsOf "user-1" ++ "?name=" ++ Uuid.nil.toString) =
      .ok (Identity.sampleUrl ["v3", "users", "user-1", "application_credentials"]
        (some "name=00000000-0000-0000-0000-000000000000")) :=
  Identity.endpoint_of_join (by decide +kernel)

/-- The token is refused, and there is no address for another. The credential is left alone. -/
theorem revoked_iff_sample :
    ∃ q body, ∃ log : Log host,
      let session := IdentitySession.sample body
      let c : Connection :=
        { server := "http://localhost:8080", session, deployment := .sample, store := ⟨"clusters"⟩ }
      (IdentitySession.authenticate .sample fun _ => some "magnum").run.Traces
          [⟨q, some IdentitySession.sampleAnswer⟩] (.ok session) ∧
        ((Credential.revoke "user-1" .nil).run.lower answerService c).Traces log (.ok (), c) ∧
        ¬Gone session.base "user-1" Uuid.nil.toString (identityLog log) ∧
        ∃ l, session.login = some l ∧ TokenMissing l (identityLog log) := by
  obtain ⟨q, body, opened⟩ := IdentitySession.authenticate_sample
  obtain ⟨log, revokes, left⟩ := revokes_unrenewed
    (c := ⟨"http://localhost:8080", IdentitySession.sample body, .sample, ⟨"clusters"⟩⟩)
    (a := { status := 401 }) (b := { status := 404 }) rfl listing_sample rfl rfl
  have cause := (revoked_iff rfl revokes).1 rfl
  exact ⟨q, body, log, opened, revokes, left, _, rfl, cause.resolve_left left⟩

end Connection

end ClusterLifecycle
