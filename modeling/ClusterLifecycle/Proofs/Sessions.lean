import ClusterLifecycle.Identity.Credentials
import ClusterLifecycle.Proofs.Logs

/-!
Requests to the identity service in a session that can renew its token.

* `Sent`: a request is answered, or it is refused, and sent once more with another token;
* `sent_of_traces`: these are all the ways in which it goes.
-/

namespace ClusterLifecycle

open Program

/-- The request goes to the address by the method. -/
def Http.Request.Aims (q : Http.Request) (method : Http.Method) (url : Url) : Prop :=
  q.method = method ∧ q.target = Identity.target url

theorem Http.Request.Aims.elsewhere {q : Http.Request} {method method' : Http.Method} {url : Url}
    (h : q.Aims method url) (other : method ≠ method') (url' : Url) : ¬q.Aims method' url' :=
  fun h' => other (h.1.symm.trans h'.1)

/-- The addresses of the service to try things on. -/
def Identity.sampleUrl (path : List String) (query : Option String) : Url where
  scheme := "https".toList
  host := some (.domain "keystone.example.com".toList)
  port := some 5000
  path := .segments (path.map String.toList)
  query := query.map String.toList
  fragment := none

theorem Identity.baseUrl_sample : sample.baseUrl = .ok (sampleUrl ["v3", ""] none) := by
  have parsed : Url.parse? none (baseText sample.authUrl.toList) =
      some (sampleUrl ["v3", ""] none) := by
    decide +kernel
  rw [baseUrl, parsed]

theorem Identity.endpoint_of_join {base url : Url} {name : String}
    (joined : base.join? name = some url) : endpoint base name = .ok url := by
  rw [endpoint, joined]

theorem Http.Response.not_missing {a : Http.Response} (success : a.isSuccess = true) :
    a.status ≠ 404 := by
  intro missing
  simp [Http.Response.isSuccess, missing] at success

/-- A failed answer says that something is missing where its status does. -/
theorem Identity.isNotFound_failure (a : Http.Response) :
    (Identity.failure a).isNotFound = true ↔ a.status = 404 := by
  unfold Identity.failure
  by_cases missing : a.status = 404 <;> simp [missing, Error.isNotFound]

/-- Getting a token takes one request, and nothing is taken for missing but what is answered so. -/
theorem Login.traces_run {l : Login} {log : Log Http.exchange} {r : Result String}
    (h : l.run.run.Traces log r) :
    ∃ q x, log = [⟨q, x⟩] ∧ q.Aims .post l.url ∧
      (∀ token, r = .ok token → ∃ a, x = some a ∧ a.isSuccess) ∧
      ∀ e, r = .error e → (e.isNotFound = true ↔ ∃ a, x = some a ∧ a.status = 404) := by
  obtain ⟨x, rest, rfl, later⟩ := traces_ask.1 h
  cases x with
  | none =>
    obtain ⟨rfl, rfl⟩ := traces_done.1 later
    refine ⟨_, none, rfl, ⟨rfl, rfl⟩, nofun, ?_⟩
    rintro e ⟨⟩
    simp [Error.isNotFound]
  | some a =>
    simp only [done_bind, Function.comp, ExceptT.bindCont] at later
    cases success : a.isSuccess with
    | false =>
      rw [success] at later
      obtain ⟨rfl, rfl⟩ := traces_done.1 later
      refine ⟨_, some a, rfl, ⟨rfl, rfl⟩, nofun, ?_⟩
      rintro e ⟨⟩
      simp [Identity.isNotFound_failure]
    | true =>
      rw [success] at later
      cases token : (a.header? "X-Subject-Token").filter isToken with
      | none =>
        rw [token] at later
        obtain ⟨rfl, rfl⟩ := traces_done.1 later
        refine ⟨_, some a, rfl, ⟨rfl, rfl⟩, nofun, ?_⟩
        rintro e ⟨⟩
        simp [Error.isNotFound, Http.Response.not_missing success]
      | some token =>
        rw [token] at later
        obtain ⟨rfl, rfl⟩ := traces_done.1 later
        exact ⟨_, some a, rfl, ⟨rfl, rfl⟩, fun _ _ => ⟨a, rfl, success⟩, nofun⟩

/-- A successful answer with a token gives the token. -/
theorem Login.traces_ok (l : Login) {a : Http.Response} {token : String} (success : a.isSuccess)
    (given : (a.header? "X-Subject-Token").filter isToken = some token) :
    ∃ q, l.run.run.Traces [⟨q, some a⟩] (.ok token) := by
  refine ⟨_, .ask ?_⟩
  simp only [done_bind, Function.comp, ExceptT.bindCont]
  rw [success, given]
  exact .done _

theorem Login.traces_failed (l : Login) {a : Http.Response} (failed : a.isSuccess = false) :
    ∃ q, q.Aims .post l.url ∧ l.run.run.Traces [⟨q, some a⟩] (.error (Identity.failure a)) := by
  refine ⟨_, ⟨rfl, rfl⟩, .ask ?_⟩
  simp only [done_bind, Function.comp, ExceptT.bindCont]
  rw [failed]
  exact .done _

namespace IdentitySession

/-- Opening a session asks for a token once it is settled where and as whom. -/
theorem run_authenticate (i : Identity) (env : Environment) :
    (authenticate i env).run = match i.baseUrl with
      | .error e => done (.error e)
      | .ok base => match Login.ofIdentity i env base with
        | .error e => done (.error e)
        | .ok l => l.run.run.bind fun token =>
          done (token.map fun token => { base, login := some l, token }) := by
  unfold authenticate
  cases i.baseUrl with
  | error e => rfl
  | ok base =>
    have settled : (do
        let login ← Login.ofIdentity i env base
        return { base, login := some login, token := ← login.run } :
        ExceptT Error (Program Http.exchange) IdentitySession).run =
      match Login.ofIdentity i env base with
        | .error e => done (.error e)
        | .ok l => l.run.run.bind fun token =>
          done (token.map fun token => { base, login := some l, token }) := by
      cases Login.ofIdentity i env base with
      | error e => rfl
      | ok l =>
        refine congrArg l.run.run.bind (funext ?_)
        rintro (e | token) <;> rfl
    exact settled

/-- A session with the service to try things on. -/
def sample (body : Json) : IdentitySession where
  base := Identity.sampleUrl ["v3", ""] none
  login := some { url := Identity.sampleUrl ["v3", "auth", "tokens"] none, body }
  token := "token"

/-- An answer that opens it. -/
def sampleAnswer : Http.Response where
  status := 201
  headers := [("X-Subject-Token", "token")]

theorem authenticate_sample :
    ∃ q body, (authenticate .sample fun _ => some "magnum").run.Traces [⟨q, some sampleAnswer⟩]
      (.ok (sample body)) := by
  have named : Identity.endpoint (Identity.sampleUrl ["v3", ""] none) "auth/tokens" =
      .ok (Identity.sampleUrl ["v3", "auth", "tokens"] none) :=
    Identity.endpoint_of_join (by decide +kernel)
  obtain ⟨body, prepared⟩ : ∃ body,
      Login.ofIdentity .sample (fun _ => some "magnum") (Identity.sampleUrl ["v3", ""] none) =
        .ok { url := Identity.sampleUrl ["v3", "auth", "tokens"] none, body } := by
    unfold Login.ofIdentity
    rw [named]
    exact ⟨_, rfl⟩
  have given : (sampleAnswer.header? "X-Subject-Token").filter Login.isToken = some "token" := by
    decide +kernel
  obtain ⟨q, traced⟩ :=
    Login.traces_ok { url := Identity.sampleUrl ["v3", "auth", "tokens"] none, body } rfl given
  refine ⟨q, body, ?_⟩
  rw [run_authenticate, Identity.baseUrl_sample]
  dsimp only
  rw [prepared]
  exact traces_bind.2 ⟨_, _, [], rfl, traced, .done _⟩

end IdentitySession

namespace IdentitySession.Call

variable {α β : Type} {s t : IdentitySession} {l : Login} {log : Log Http.exchange}
  {method : Http.Method} {url : Url}

theorem traces_bind {call : Call β} {f : β → Call α} {r : Result α} :
    ((call >>= f).run.run s).Traces log (r, t) ↔
      (∃ b u before after, log = before ++ after ∧ (call.run.run s).Traces before (.ok b, u) ∧
        ((f b).run.run u).Traces after (r, t)) ∨
      ∃ e, r = .error e ∧ (call.run.run s).Traces log (.error e, t) := by
  rw [ExceptT.run_bind, StateT.run_bind, Program.bind_eq, Program.traces_bind]
  constructor
  · rintro ⟨⟨result, u⟩, before, after, rfl, first, rest⟩
    cases result with
    | ok b => exact .inl ⟨b, u, before, after, rfl, first, rest⟩
    | error e =>
      obtain ⟨rfl, ends⟩ := traces_done.1 rest
      cases ends
      exact .inr ⟨e, rfl, by rwa [List.append_nil]⟩
  · rintro (⟨b, u, before, after, rfl, first, rest⟩ | ⟨e, rfl, first⟩)
    · exact ⟨_, before, after, rfl, first, rest⟩
    · exact ⟨_, log, [], (List.append_nil log).symm, first, .done _⟩

theorem run_get_bind (f : IdentitySession → Call α) (s : IdentitySession) :
    (get >>= f : Call α).run.run s = (f s).run.run s := rfl

theorem run_ok_bind (b : β) (f : β → Call α) (s : IdentitySession) :
    (liftM (.ok b : Result β) >>= f : Call α).run.run s = (f b).run.run s := rfl

theorem traces_sendOnce {body : Option Json} {r : Result Http.Response}
    (h : ((sendOnce method url body).run.run s).Traces log (r, t)) :
    t = s ∧ ∃ q x, log = [⟨q, x⟩] ∧ q.Aims method url ∧
      ((∃ a, x = some a ∧ r = .ok a) ∨ (x = none ∧ ∃ e, r = .error e ∧ e.isNotFound = false)) := by
  obtain ⟨x, rest, rfl, later⟩ := traces_ask.1 h
  cases x with
  | none =>
    obtain ⟨rfl, same⟩ := traces_done.1 later
    cases same
    exact ⟨rfl, _, none, rfl, ⟨rfl, rfl⟩, .inr ⟨rfl, _, rfl, rfl⟩⟩
  | some a =>
    obtain ⟨rfl, same⟩ := traces_done.1 later
    cases same
    exact ⟨rfl, _, some a, rfl, ⟨rfl, rfl⟩, .inl ⟨a, rfl, rfl⟩⟩

/-- Getting a token leaves the session as it is. -/
theorem traces_login {r : Result String} :
    ((ExceptT.mk (StateT.lift l.run.run) : Call String).run.run s).Traces log (r, t) ↔
      t = s ∧ l.run.run.Traces log r := by
  constructor
  · intro h
    obtain ⟨token, before, after, rfl, first, later⟩ := Program.traces_bind.1 h
    obtain ⟨rfl, same⟩ := traces_done.1 later
    cases same
    exact ⟨rfl, by rwa [List.append_nil]⟩
  · rintro ⟨rfl, h⟩
    exact Program.traces_bind.2 ⟨r, log, [], (List.append_nil log).symm, h, .done _⟩

theorem traces_sendOnce_answered (s : IdentitySession) (method : Http.Method) (url : Url)
    (body : Option Json) (a : Http.Response) :
    ∃ q, q.Aims method url ∧
      ((sendOnce method url body).run.run s).Traces [⟨q, some a⟩] (.ok a, s) :=
  ⟨_, ⟨rfl, rfl⟩, .ask (.done _)⟩

/-- A request that is refused fails as the request for another token does. -/
theorem traces_unrenewed {endpoint : String} {body : Option Json} {a b : Http.Response}
    (login : s.login = some l) (named : Identity.endpoint s.base endpoint = .ok url)
    (refused : a.status = 401) (failed : b.isSuccess = false) :
    ∃ q q', q.Aims method url ∧ q'.Aims .post l.url ∧
      ((send method endpoint body).run.run s).Traces [⟨q, some a⟩, ⟨q', some b⟩]
        (.error (Identity.failure b), s) := by
  obtain ⟨q, aims, first⟩ := traces_sendOnce_answered s method url body a
  obtain ⟨q', renews, renewal⟩ := l.traces_failed failed
  refine ⟨q, q', aims, renews, ?_⟩
  unfold send
  rw [run_get_bind, named, run_ok_bind]
  refine traces_bind.2 (.inl ⟨a, s, [_], [_], rfl, first, ?_⟩)
  rw [run_get_bind, login, refused]
  exact traces_bind.2 (.inr ⟨_, rfl, traces_login.2 ⟨rfl, renewal⟩⟩)

/-- How a request goes in a session with a login. One that is refused is sent again, once another
token has been got. -/
inductive Sent (l : Login) (method : Http.Method) (url : Url) :
    Log Http.exchange → Result Http.Response → Prop
  | lost {q : Http.Request} {e : Error} (aims : q.Aims method url) (other : e.isNotFound = false) :
      Sent l method url [⟨q, none⟩] (.error e)
  | answered {q : Http.Request} {a : Http.Response} (aims : q.Aims method url)
      (accepted : a.status ≠ 401) : Sent l method url [⟨q, some a⟩] (.ok a)
  | unrenewed {q q' : Http.Request} {a : Http.Response} {x : Option Http.Response} {e : Error}
      (aims : q.Aims method url) (refused : a.status = 401) (renews : q'.Aims .post l.url)
      (missing : e.isNotFound = true ↔ ∃ b, x = some b ∧ b.status = 404) :
      Sent l method url [⟨q, some a⟩, ⟨q', x⟩] (.error e)
  | lostAgain {q q' q'' : Http.Request} {a b : Http.Response} {e : Error}
      (aims : q.Aims method url) (refused : a.status = 401) (renews : q'.Aims .post l.url)
      (renewed : b.isSuccess) (again : q''.Aims method url) (other : e.isNotFound = false) :
      Sent l method url [⟨q, some a⟩, ⟨q', some b⟩, ⟨q'', none⟩] (.error e)
  | answeredAgain {q q' q'' : Http.Request} {a b a' : Http.Response}
      (aims : q.Aims method url) (refused : a.status = 401) (renews : q'.Aims .post l.url)
      (renewed : b.isSuccess) (again : q''.Aims method url) :
      Sent l method url [⟨q, some a⟩, ⟨q', some b⟩, ⟨q'', some a'⟩] (.ok a')

/-- A request that has been refused goes on so. -/
theorem sent_of_refusal {body : Option Json} {r : Result Http.Response} {q : Http.Request}
    {a : Http.Response} (aims : q.Aims method url) (refused : a.status = 401)
    (h : ((do
      let token ← ExceptT.mk (StateT.lift l.run.run)
      modify ({ · with token })
      sendOnce method url body : Call Http.Response).run.run s).Traces log (r, t)) :
    t.login = s.login ∧ t.base = s.base ∧ Sent l method url (⟨q, some a⟩ :: log) r := by
  rcases traces_bind.1 h with ⟨token, u, before, after, rfl, first, later⟩ | ⟨e, rfl, first⟩
  · obtain ⟨rfl, renewal⟩ := traces_login.1 first
    obtain ⟨q', x, rfl, renews, ok, -⟩ := Login.traces_run renewal
    obtain ⟨b, rfl, renewed⟩ := ok token rfl
    obtain ⟨rfl, q'', y, rfl, again, outcome⟩ := traces_sendOnce later
    refine ⟨rfl, rfl, ?_⟩
    rcases outcome with ⟨a', rfl, rfl⟩ | ⟨rfl, e, rfl, other⟩
    · exact .answeredAgain aims refused renews renewed again
    · exact .lostAgain aims refused renews renewed again other
  · obtain ⟨rfl, renewal⟩ := traces_login.1 first
    obtain ⟨q', x, rfl, renews, -, failed⟩ := Login.traces_run renewal
    exact ⟨rfl, rfl, .unrenewed aims refused renews (failed e rfl)⟩

theorem sent_of_traces {endpoint : String} {body : Option Json} {r : Result Http.Response}
    (login : s.login = some l) (h : ((send method endpoint body).run.run s).Traces log (r, t)) :
    t.login = some l ∧ t.base = s.base ∧
      ((∃ e, Identity.endpoint s.base endpoint = .error e ∧ r = .error e ∧ log = []) ∨
        ∃ url, Identity.endpoint s.base endpoint = .ok url ∧ Sent l method url log r) := by
  unfold send at h
  rw [run_get_bind] at h
  cases named : Identity.endpoint s.base endpoint with
  | error e =>
    rw [named] at h
    obtain ⟨rfl, same⟩ := traces_done.1 h
    cases same
    exact ⟨login, rfl, .inl ⟨e, rfl, rfl, rfl⟩⟩
  | ok url =>
    rw [named, run_ok_bind] at h
    rcases traces_bind.1 h with ⟨a, u, before, after, rfl, first, later⟩ | ⟨e, rfl, first⟩
    · obtain ⟨rfl, q, x, rfl, aims, outcome⟩ := traces_sendOnce first
      have there : x = some a := by
        rcases outcome with ⟨a', rfl, same⟩ | ⟨-, e, same, -⟩
        · cases same
          rfl
        · cases same
      subst there
      rw [run_get_bind, login] at later
      by_cases refused : a.status = 401
      · rw [refused] at later
        obtain ⟨still, base, sent⟩ := sent_of_refusal aims refused later
        exact ⟨still.trans login, base, .inr ⟨url, rfl, sent⟩⟩
      · split at later
        next status _ => exact absurd status refused
        next =>
          obtain ⟨rfl, same⟩ := traces_done.1 later
          cases same
          exact ⟨login, rfl, .inr ⟨url, rfl, .answered aims refused⟩⟩
    · obtain ⟨rfl, q, x, rfl, aims, outcome⟩ := traces_sendOnce first
      rcases outcome with ⟨a, -, same⟩ | ⟨rfl, e', same, other⟩
      · cases same
      · cases same
        exact ⟨login, rfl, .inr ⟨url, rfl, .lost aims other⟩⟩

/-- The log shows this answer to a request to the address. -/
def Answered (log : Log Http.exchange) (method : Http.Method) (url : Url) (a : Http.Response) :
    Prop :=
  ∃ q, q.Aims method url ∧ (⟨q, some a⟩ : Exchange Http.exchange) ∈ log

/-- A request for a token was answered as if there were no such thing. -/
def TokenMissing (l : Login) (log : Log Http.exchange) : Prop :=
  ∃ a, Answered log .post l.url a ∧ a.status = 404

theorem answered_nil {a : Http.Response} : ¬Answered [] method url a := by
  rintro ⟨q, -, member⟩
  cases member

theorem answered_cons {q : Http.Request} {x : Option Http.Response} {a : Http.Response} :
    Answered (⟨q, x⟩ :: log) method url a ↔
      (q.Aims method url ∧ x = some a) ∨ Answered log method url a := by
  constructor
  · rintro ⟨q', aims, member⟩
    rcases List.mem_cons.1 member with same | later
    · cases same
      exact .inl ⟨aims, rfl⟩
    · exact .inr ⟨q', aims, later⟩
  · rintro (⟨aims, rfl⟩ | ⟨q', aims, later⟩)
    · exact ⟨q, aims, List.mem_cons_self⟩
    · exact ⟨q', aims, List.mem_cons_of_mem _ later⟩

/-- No requests are made by other methods. -/
theorem Sent.kept {r : Result Http.Response} (h : Sent l method url log r) {other : Http.Method}
    (apart : other ≠ method ∧ other ≠ .post) : ∀ e ∈ log, e.request.method ≠ other := by
  have only : ∀ e ∈ log, e.request.method = method ∨ e.request.method = .post := by
    cases h <;> simp_all [Http.Request.Aims]
  rintro e member rfl
  exact (only e member).elim apart.1 apart.2

/-- The answer that a request comes to is the last one: the one before was a refusal, after which
another token was got. -/
theorem Sent.ok {a : Http.Response} (h : Sent l method url log (.ok a)) (other : method ≠ .post) :
    Answered log method url a ∧ (∀ b, Answered log method url b → b = a ∨ b.status = 401) ∧
      ¬TokenMissing l log := by
  cases h with
  | answered aims accepted =>
    have elsewhere := aims.elsewhere other l.url
    simp [TokenMissing, answered_cons, answered_nil, aims, elsewhere, eq_comm]
  | answeredAgain aims refused renews renewed again =>
    have elsewhere := aims.elsewhere other l.url
    have elsewhere' := renews.elsewhere other.symm url
    have elsewhere'' := again.elsewhere other l.url
    have present := Http.Response.not_missing renewed
    simp only [TokenMissing, answered_cons, answered_nil, aims, renews, again, elsewhere,
      elsewhere', elsewhere'']
    grind

/-- A request that comes to an error has been answered by a refusal at most, and says that something
is missing only where a token could not be got because of that. -/
theorem Sent.error {e : Error} (h : Sent l method url log (.error e)) (other : method ≠ .post) :
    (∀ b, Answered log method url b → b.status = 401) ∧
      (e.isNotFound = true ↔ TokenMissing l log) := by
  cases h with
  | lost aims unknown =>
    have elsewhere := aims.elsewhere other l.url
    simp [TokenMissing, answered_cons, answered_nil, elsewhere, unknown]
  | unrenewed aims refused renews missing =>
    have elsewhere := aims.elsewhere other l.url
    have elsewhere' := renews.elsewhere other.symm url
    simp [TokenMissing, answered_cons, answered_nil, aims, renews, elsewhere, elsewhere', refused,
      missing]
  | lostAgain aims refused renews renewed again unknown =>
    have elsewhere := aims.elsewhere other l.url
    have elsewhere' := renews.elsewhere other.symm url
    have elsewhere'' := again.elsewhere other l.url
    have present := Http.Response.not_missing renewed
    simp [TokenMissing, answered_cons, answered_nil, aims, renews, elsewhere, elsewhere',
      elsewhere'', refused, unknown, present]

end IdentitySession.Call

end ClusterLifecycle
