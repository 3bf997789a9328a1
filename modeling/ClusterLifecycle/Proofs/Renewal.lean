import ClusterLifecycle.Proofs.Endpoints
import ClusterLifecycle.Proofs.Sessions

/-!
The tokens of a session: how they are sent, refused, renewed and kept.

* `Login.given`, `Query.outcome`: what is made of the answers, apart from the asking;
* `Query.Course`: how one query goes in a session that can renew its token;
* `Conversation`, `Monologue`: how any number of them go, there and where all there is is a token;
* `HoldsToken`: each request carries the token that was issued last.
-/

namespace ClusterLifecycle

open Program

theorem Identity.failure_of_refusal {a : Http.Response} (refused : a.status = 401) :
    Identity.failure a = .identity (Identity.words a) (some 401) := by
  simp [Identity.failure, refused]

namespace Login

/-- The request for a token. It is the only one that carries none. -/
def request (l : Login) : Http.Request where
  method := .post
  target := Identity.target l.url
  contentType := some "application/json"
  body := some l.body

/-- The token that an answer gives. -/
def given : Option Http.Response → Result String
  | none => .error (.identity ("failed to reach identity service: " ++ Error.foreign) none)
  | some a =>
    if a.isSuccess then
      match (a.header? "X-Subject-Token").filter isToken with
      | some token => .ok token
      | none => .error (.identity "identity service returned no token" none)
    else .error (Identity.failure a)

theorem run_eq (l : Login) : l.run.run = ask (I := Http.exchange) l.request (done ∘ given) := by
  refine congrArg (ask (I := Http.exchange) l.request) (funext ?_)
  rintro (_ | a)
  · rfl
  · rw [Function.comp_apply, given]
    simp only [done_bind, Function.comp, ExceptT.bindCont]
    cases a.isSuccess with
    | false => rfl
    | true =>
      cases (a.header? "X-Subject-Token").filter isToken <;> rfl

end Login

namespace IdentitySession

open Call

/-- What is asked in a session. -/
inductive Query where
  | create (user name description : String)
  | find (user name : String)
  | delete (user id : String)

namespace Query

/-- What a query is for. -/
def Given : Query → Type
  | create .. | find .. => ApplicationCredential
  | delete .. => Unit

def call : (q : Query) → Call q.Given
  | create user name description => Call.create user name description
  | find user name => Call.find user name
  | delete user id => Call.delete user id

def method : Query → Http.Method
  | create .. => .post
  | find .. => .get
  | delete .. => .delete

def endpoint : Query → String
  | create user .. => credentialsOf user
  | find user name => credentialsOf user ++ "?name=" ++ name
  | delete user id => credentialsOf user ++ "/" ++ id

def body : Query → Option Json
  | create _ name description => some (.object [("application_credential",
      .object [("name", .string name), ("description", .string description)])])
  | find .. | delete .. => none

/-- The query as it is sent with a token. -/
def request (q : Query) (url : Url) (token : String) : Http.Request where
  method := q.method
  target := Identity.target url
  contentType := some "application/json"
  token := some token
  body := q.body

/-- Nothing has come back. -/
def unanswered (q : Query) : Error :=
  .identity ("failed to send " ++ q.method.toString ++ " request: " ++ Error.foreign) none

/-- What stands in an answer. -/
def reading {α : Type} (read? : Json.Written → Option α) (a : Http.Response) : Result α :=
  if a.isSuccess then
    match a.read? read? with
    | some found => .ok found
    | none => .error (.identity ("failed to parse API response: " ++ Error.foreign) none)
  else .error (Identity.failure a)

/-- What is made of an answer. -/
def outcome : (q : Query) → Http.Response → Result q.Given
  | create .., a => reading ApplicationCredential.told? a
  | find _ name, a =>
    Except.bind (reading ApplicationCredential.listed? a) fun listed =>
      match listed.find? (·.name = name) with
      | some credential => .ok credential
      | none => .error (.notFound "ApplicationCredential" name)
  | delete .., a => if a.isSuccess then .ok () else .error (Identity.failure a)

variable {q : Query} {s t : IdentitySession} {l : Login}

theorem run_read {α : Type} (read? : Json.Written → Option α) (a : Http.Response)
    (s : IdentitySession) : (Call.read read? a).run.run s = done (reading read? a, s) := by
  rw [Call.read, reading]
  cases a.isSuccess with
  | false => rfl
  | true =>
    cases a.read? read? <;> rfl

theorem run_listed (user name : String) (a : Http.Response) (s : IdentitySession) :
    ((do
      let listed ← Call.read ApplicationCredential.listed? a
      match listed.find? (·.name = name) with
      | some credential => return credential
      | none => throw (.notFound "ApplicationCredential" name) :
        Call ApplicationCredential).run.run s) = done ((find user name).outcome a, s) := by
  rw [ExceptT.run_bind, StateT.run_bind, run_read, Program.bind_eq, done_bind, outcome]
  cases reading _ a with
  | error e => rfl
  | ok listed =>
    dsimp only [Except.bind]
    cases listed.find? (·.name = name) <;> rfl

/-- A query is sent, and something is made of the answer. -/
theorem run_call (q : Query) (s : IdentitySession) :
    q.call.run.run s = ((send q.method q.endpoint q.body).run.run s).bind fun (answer, s) =>
      done (Except.bind answer q.outcome, s) := by
  have sends (make : Http.Response → Call q.Given)
      (made : ∀ a s, (make a).run.run s = done (q.outcome a, s)) :
      ((send q.method q.endpoint q.body >>= make).run.run s) =
        ((send q.method q.endpoint q.body).run.run s).bind fun (answer, s) =>
          done (Except.bind answer q.outcome, s) := by
    rw [ExceptT.run_bind, StateT.run_bind, Program.bind_eq]
    refine congrArg _ (funext ?_)
    rintro ⟨e | a, s'⟩
    · rfl
    · exact made a s'
  cases q with
  | create user name description => exact sends _ (run_read _)
  | find user name => exact sends _ (run_listed user name)
  | delete user id =>
    refine sends _ fun a s => ?_
    rw [outcome]
    cases a.isSuccess <;> rfl

/-- What a query comes to where it is not sent again. -/
def result (q : Query) : Option Http.Response → Result q.Given
  | none => .error q.unanswered
  | some a => q.outcome a

variable {url : Url}

theorem run_sendOnce (q : Query) (url : Url) (s : IdentitySession) :
    (sendOnce q.method url q.body).run.run s = ask (I := Http.exchange) (q.request url s.token)
      fun x => done (match x with
        | none => .error q.unanswered
        | some a => .ok a, s) := by
  refine congrArg (ask (I := Http.exchange) (q.request url s.token)) (funext ?_)
  rintro (_ | a) <;> rfl

/-- Another token is got and kept, and the query is sent with it. -/
theorem run_renewal (l : Login) (q : Query) (url : Url) (s : IdentitySession) :
    ((do
      let token ← ExceptT.mk (StateT.lift l.run.run)
      modify ({ · with token })
      sendOnce q.method url q.body : Call Http.Response).run.run s) =
      ask (I := Http.exchange) l.request fun x => match Login.given x with
        | .error e => done (.error e, s)
        | .ok token => (sendOnce q.method url q.body).run.run { s with token } := by
  rw [ExceptT.run_bind, StateT.run_bind]
  change ((l.run.run.bind fun token => done (token, s)).bind _) = _
  rw [Login.run_eq]
  refine congrArg (ask (I := Http.exchange) l.request) (funext fun x => ?_)
  change ((done (Login.given x)).bind fun token => done (token, s)).bind _ = _
  cases Login.given x <;> rfl

/-- A query is sent, and if it is refused something else may be done. -/
theorem run_send (named : Identity.endpoint s.base q.endpoint = .ok url) :
    (send q.method q.endpoint q.body).run.run s =
      ask (I := Http.exchange) (q.request url s.token) fun x => match x with
        | none => done (.error q.unanswered, s)
        | some a => StateT.run (ExceptT.run (match a.status, s.login with
          | 401, some l => (do
            let token ← ExceptT.mk (StateT.lift l.run.run)
            modify ({ · with token })
            sendOnce q.method url q.body : Call Http.Response)
          | _, _ => (pure a : Call Http.Response))) s := by
  rw [send, run_get_bind, named, run_ok_bind, ExceptT.run_bind, StateT.run_bind, run_sendOnce]
  refine congrArg (ask (I := Http.exchange) (q.request url s.token)) (funext ?_)
  rintro (_ | a) <;> rfl

/-- Where all there is is a token, a query is sent once. -/
theorem run_call_token (login : s.login = none)
    (named : Identity.endpoint s.base q.endpoint = .ok url) :
    q.call.run.run s = ask (I := Http.exchange) (q.request url s.token) fun x =>
      done (q.result x, s) := by
  rw [run_call, run_send named, login]
  refine congrArg (ask (I := Http.exchange) (q.request url s.token)) (funext ?_)
  rintro (_ | a)
  · rfl
  · dsimp only
    split
    next found => cases found
    next => rfl

/-- A query that is refused is sent again, once another token has been got. -/
theorem run_call_login (login : s.login = some l)
    (named : Identity.endpoint s.base q.endpoint = .ok url) :
    q.call.run.run s = ask (I := Http.exchange) (q.request url s.token) fun x => match x with
      | none => done (.error q.unanswered, s)
      | some a =>
        if a.status = 401 then
          ask (I := Http.exchange) l.request fun x => match Login.given x with
            | .error e => done (.error e, s)
            | .ok token => ask (I := Http.exchange) (q.request url token) fun x =>
              done (q.result x, { s with token })
        else done (q.outcome a, s) := by
  obtain ⟨base, _, token⟩ := s
  subst login
  rw [run_call, run_send named]
  refine congrArg (ask (I := Http.exchange) (q.request url token)) (funext ?_)
  rintro (_ | a)
  · rfl
  · dsimp only
    by_cases refused : a.status = 401
    · rw [if_pos refused, refused]
      refine (congrArg (Program.bind · _) (run_renewal l q url _)).trans ?_
      refine congrArg (ask (I := Http.exchange) l.request) (funext fun x => ?_)
      dsimp only
      cases Login.given x with
      | error e => rfl
      | ok token =>
        dsimp only
        rw [run_sendOnce]
        refine congrArg (ask (I := Http.exchange) (q.request url token)) (funext ?_)
        rintro (_ | a) <;> rfl
    · rw [if_neg refused]
      split
      next status _ => exact absurd status refused
      next => rfl

theorem run_call_unnamed {e : Error} (unnamed : Identity.endpoint s.base q.endpoint = .error e) :
    q.call.run.run s = done (.error e, s) := by
  rw [run_call, send, run_get_bind, unnamed]
  rfl

/-- How a query goes that is sent with a token first: what is sent and answered, what it comes to,
and the token that is then at hand. -/
inductive Course (l : Login) (q : Query) (url : Url) (token : String) :
    Log Http.exchange → Result q.Given → String → Prop
  | lost : Course l q url token [⟨q.request url token, none⟩] (.error q.unanswered) token
  | answered {a : Http.Response} (accepted : a.status ≠ 401) :
      Course l q url token [⟨q.request url token, some a⟩] (q.outcome a) token
  | unrenewed {a : Http.Response} {x : Option Http.Response} {e : Error}
      (refused : a.status = 401) (failed : Login.given x = .error e) :
      Course l q url token [⟨q.request url token, some a⟩, ⟨l.request, x⟩] (.error e) token
  | lostAgain {a : Http.Response} {x : Option Http.Response} {token' : String}
      (refused : a.status = 401) (renewed : Login.given x = .ok token') :
      Course l q url token
        [⟨q.request url token, some a⟩, ⟨l.request, x⟩, ⟨q.request url token', none⟩]
        (.error q.unanswered) token'
  | answeredAgain {a a' : Http.Response} {x : Option Http.Response} {token' : String}
      (refused : a.status = 401) (renewed : Login.given x = .ok token')
      (accepted : a'.status ≠ 401) :
      Course l q url token
        [⟨q.request url token, some a⟩, ⟨l.request, x⟩, ⟨q.request url token', some a'⟩]
        (q.outcome a') token'
  | refusedAgain {a a' : Http.Response} {x : Option Http.Response} {token' : String}
      (refused : a.status = 401) (renewed : Login.given x = .ok token')
      (refused' : a'.status = 401) :
      Course l q url token
        [⟨q.request url token, some a⟩, ⟨l.request, x⟩, ⟨q.request url token', some a'⟩]
        (.error (.identity (Identity.words a') (some 401))) token'

theorem outcome_refusal (q : Query) {a : Http.Response} (refused : a.status = 401) :
    q.outcome a = .error (.identity (Identity.words a) (some 401)) := by
  have failed : a.isSuccess = false := by simp [Http.Response.isSuccess, refused]
  cases q <;> simp [outcome, reading, failed, Identity.failure_of_refusal refused, Except.bind]

theorem named_iff (q : Query) (base : Url) :
    (∃ url, Identity.endpoint base q.endpoint = .ok url) ↔
      ∃ parts, base.path = .segments parts := by
  cases q with
  | create user name description =>
    rw [endpoint, ← String.append_empty (s := credentialsOf user), Identity.endpoint_credentials]
  | find user name =>
    rw [endpoint, String.append_assoc, Identity.endpoint_credentials]
  | delete user id =>
    rw [endpoint, String.append_assoc, Identity.endpoint_credentials]

variable {log : Log Http.exchange} {r : Result q.Given}

theorem Course.of_result {a : Http.Response} {x y : Option Http.Response} {token token' : String}
    (refused : a.status = 401) (renewed : Login.given x = .ok token') :
    q.Course l url token
      [⟨q.request url token, some a⟩, ⟨l.request, x⟩, ⟨q.request url token', y⟩]
      (q.result y) token' := by
  cases y with
  | none => exact .lostAgain refused renewed
  | some a' =>
    by_cases refused' : a'.status = 401
    · rw [result, outcome_refusal q refused']
      exact .refusedAgain refused renewed refused'
    · exact .answeredAgain refused renewed refused'

/-- A query goes in no other way. -/
theorem course_of_traces (login : s.login = some l)
    (named : Identity.endpoint s.base q.endpoint = .ok url)
    (ran : (q.call.run.run s).Traces log (r, t)) :
    t = { s with token := t.token } ∧ q.Course l url s.token log r t.token := by
  rw [run_call_login login named] at ran
  obtain ⟨x, rest, rfl, later⟩ := traces_ask.1 ran
  cases x with
  | none =>
    obtain ⟨rfl, same⟩ := traces_done.1 later
    cases same
    exact ⟨rfl, .lost⟩
  | some a =>
    dsimp only at later
    by_cases refused : a.status = 401
    · rw [if_pos refused] at later
      obtain ⟨x, rest, rfl, renewal⟩ := traces_ask.1 later
      cases given : Login.given x with
      | error e =>
        rw [given] at renewal
        obtain ⟨rfl, same⟩ := traces_done.1 renewal
        cases same
        exact ⟨rfl, .unrenewed refused given⟩
      | ok token =>
        rw [given] at renewal
        obtain ⟨y, rest, rfl, ends⟩ := traces_ask.1 renewal
        obtain ⟨rfl, same⟩ := traces_done.1 ends
        cases same
        exact ⟨rfl, .of_result refused given⟩
    · rw [if_neg refused] at later
      obtain ⟨rfl, same⟩ := traces_done.1 later
      cases same
      exact ⟨rfl, .answered refused⟩

end Query

/-- Queries and what they come to. -/
abbrev queries : Interface := ⟨Query, fun q : Query => Result q.Given⟩

/-- What a client does in a session. -/
def client {α : Type} (p : Program queries α) (s : IdentitySession) :
    Program Http.exchange (α × IdentitySession) :=
  p.lower (fun (q : Query) s => q.call.run.run s) s

/-- One query after the other goes its course, each with the token that the one before has left. -/
inductive Conversation (l : Login) (base : Url) :
    String → Log queries → Log Http.exchange → String → Prop
  | nil (token : String) : Conversation l base token [] [] token
  | cons {q : Query} {r : Result q.Given} {url : Url} {asked : Log queries}
      {log later : Log Http.exchange} {token token' token'' : String}
      (named : Identity.endpoint base q.endpoint = .ok url)
      (course : q.Course l url token log r token')
      (rest : Conversation l base token' asked later token'') :
      Conversation l base token (⟨q, r⟩ :: asked) (log ++ later) token''

/-- One query after the other is sent once, with the same token. Where there is no path that an
endpoint can be below, none is sent. -/
inductive Monologue (base : Url) (token : String) : Log queries → Log Http.exchange → Prop
  | nil : Monologue base token [] []
  | sent {q : Query} {url : Url} {x : Option Http.Response} {asked : Log queries}
      {later : Log Http.exchange} (named : Identity.endpoint base q.endpoint = .ok url)
      (rest : Monologue base token asked later) :
      Monologue base token (⟨q, q.result x⟩ :: asked) (⟨q.request url token, x⟩ :: later)
  | unsent {q : Query} {e : Error} {text : List Char} {asked : Log queries}
      {later : Log Http.exchange} (pathless : base.path = .verbatim text)
      (unnamed : Identity.endpoint base q.endpoint = .error e)
      (rest : Monologue base token asked later) :
      Monologue base token (⟨q, .error e⟩ :: asked) later

/-- The token that an exchange gives: it is asked for without one. -/
def issued? (e : Exchange Http.exchange) : Option String :=
  if e.request.token.isNone then (Login.given e.answer).toOption else none

/-- Each request is for a token, or it carries the one at hand, which is the last that was given. -/
def HoldsToken (l : Login) : Option String → Log Http.exchange → Prop
  | _, [] => True
  | token, e :: rest =>
    (e.request = l.request ∨ ∃ own, e.request.token = some own ∧ token = some own) ∧
      HoldsToken l ((issued? e).or token) rest

section
variable {α : Type} {p : Program queries α} {s t : IdentitySession} {l : Login}
  {log before : Log Http.exchange} {asked : Log queries} {a : α} {token token' : String}

theorem traces_client_ask {q : Query} {next : Result q.Given → Program queries α}
    (ran : (client (ask (I := queries) q next) s).Traces log (a, t)) :
    ∃ r s' first rest, log = first ++ rest ∧ (q.call.run.run s).Traces first (r, s') ∧
      (client (next r) s').Traces rest (a, t) := by
  obtain ⟨⟨r, s'⟩, first, rest, rfl, called, later⟩ := Program.traces_bind.1 ran
  exact ⟨r, s', first, rest, rfl, called, later⟩

/-- Whatever a client does in a session with a login, each of its queries goes its course. -/
theorem conversation_of_traces (login : s.login = some l)
    (below : ∃ parts, s.base.path = .segments parts) (ran : (client p s).Traces log (a, t)) :
    t = { s with token := t.token } ∧
      ∃ asked, p.Traces asked a ∧ Conversation l s.base s.token asked log t.token := by
  induction p generalizing s log with
  | done b =>
    obtain ⟨rfl, same⟩ := traces_done.1 ran
    cases same
    exact ⟨rfl, [], .done a, .nil _⟩
  | ask q next ih =>
    obtain ⟨r, s', first, rest, rfl, called, later⟩ := traces_client_ask ran
    obtain ⟨url, named⟩ := (q.named_iff _).2 below
    obtain ⟨same, course⟩ := Query.course_of_traces login named called
    rw [same] at later
    obtain ⟨same', asked, asks, conversation⟩ :=
      ih r (s := { s with token := s'.token }) login below later
    exact ⟨same', ⟨q, r⟩ :: asked, .ask asks, .cons named course conversation⟩

/-- Whatever a client does in a session that has only a token, each of its queries is sent once. -/
theorem monologue_of_traces (login : s.login = none) (ran : (client p s).Traces log (a, t)) :
    t = s ∧ ∃ asked, p.Traces asked a ∧ Monologue s.base s.token asked log := by
  induction p generalizing s log with
  | done b =>
    obtain ⟨rfl, same⟩ := traces_done.1 ran
    cases same
    exact ⟨rfl, [], .done a, .nil⟩
  | ask q next ih =>
    obtain ⟨r, s', first, rest, rfl, called, later⟩ := traces_client_ask ran
    cases named : Identity.endpoint s.base q.endpoint with
    | ok url =>
      rw [Query.run_call_token login named] at called
      obtain ⟨x, _, rfl, ends⟩ := traces_ask.1 called
      obtain ⟨rfl, same⟩ := traces_done.1 ends
      cases same
      obtain ⟨rfl, asked, asks, monologue⟩ := ih _ login later
      exact ⟨rfl, _, .ask asks, .sent named monologue⟩
    | error e =>
      rw [Query.run_call_unnamed named] at called
      obtain ⟨rfl, same⟩ := traces_done.1 called
      cases same
      obtain ⟨rfl, asked, asks, monologue⟩ := ih _ login later
      cases path : t.base.path with
      | verbatim text => exact ⟨rfl, _, .ask asks, .unsent path named monologue⟩
      | segments parts =>
        obtain ⟨url, named'⟩ := (q.named_iff _).2 ⟨parts, path⟩
        cases named.symm.trans named'

theorem holdsToken_query (q : Query) (url : Url) (x : Option Http.Response) :
    HoldsToken l (some token) (⟨q.request url token, x⟩ :: log) ↔ HoldsToken l (some token) log :=
  and_iff_right (.inr ⟨token, rfl, rfl⟩)

theorem holdsToken_login {token : Option String} (x : Option Http.Response) :
    HoldsToken l token (⟨l.request, x⟩ :: log) ↔
      HoldsToken l ((Login.given x).toOption.or token) log :=
  and_iff_right (.inl rfl)

/-- A query takes the token at hand, and leaves the one that has been given in its place. -/
theorem Query.Course.holdsToken {q : Query} {url : Url} {r : Result q.Given}
    (course : q.Course l url token log r token') {later : Log Http.exchange}
    (holds : HoldsToken l (some token') later) : HoldsToken l (some token) (log ++ later) := by
  cases course with
  | lost | answered => exact (holdsToken_query q url _).2 holds
  | unrenewed refused failed =>
    refine (holdsToken_query q url _).2 ((holdsToken_login _).2 ?_)
    rw [failed]
    exact holds
  | lostAgain refused renewed | answeredAgain refused renewed | refusedAgain refused renewed =>
    refine (holdsToken_query q url _).2 ((holdsToken_login _).2 ?_)
    rw [renewed]
    exact (holdsToken_query q url _).2 holds

theorem Conversation.holdsToken {base : Url}
    (conversation : Conversation l base token asked log token') :
    HoldsToken l (some token) log := by
  induction conversation with
  | nil => trivial
  | cons _ course _ ih => exact course.holdsToken ih

/-- What opens a session is one request for a token, which the session then has. -/
theorem opening_of_traces {i : Identity} {env : Environment}
    (opened : (authenticate i env).run.Traces log (.ok s)) :
    ∃ l x, s.login = some l ∧ Login.ofIdentity i env s.base = .ok l ∧
      log = [⟨l.request, x⟩] ∧ Login.given x = .ok s.token := by
  rw [run_authenticate] at opened
  split at opened
  next e _ => obtain ⟨-, ⟨⟩⟩ := traces_done.1 opened
  next base based =>
    split at opened
    next e _ => obtain ⟨-, ⟨⟩⟩ := traces_done.1 opened
    next l prepared =>
      rw [Login.run_eq] at opened
      obtain ⟨x, rest, rfl, later⟩ := traces_ask.1 opened
      obtain ⟨rfl, same⟩ := traces_done.1 later
      cases given : Login.given x with
      | error e =>
        rw [given] at same
        cases same
      | ok token =>
        rw [given] at same
        cases same
        exact ⟨l, x, rfl, prepared, rfl, given⟩

theorem below_of_login {i : Identity} {env : Environment} {base : Url}
    (prepared : Login.ofIdentity i env base = .ok l) : ∃ parts, base.path = .segments parts := by
  rw [← Identity.endpoint_tokens]
  unfold Login.ofIdentity at prepared
  cases asked : i.tokenRequest env with
  | error e =>
    rw [asked] at prepared
    cases prepared
  | ok body =>
    rw [asked] at prepared
    cases named : Identity.endpoint base "auth/tokens" with
    | ok url => exact ⟨url, rfl⟩
    | error e =>
      rw [named] at prepared
      cases prepared

/-- Whatever a client does in a session, and whatever it is answered.

* In one that was opened with a login each query goes its course: it is sent once, or twice with
  one request for a token in between. Each request but those for tokens carries the token that was
  given last.
* In one that has only a token each query is sent once, and the token stays. -/
theorem renewal :
    (∀ (i : Identity) (env : Environment) (opening : Log Http.exchange) (s : IdentitySession),
      (authenticate i env).run.Traces opening (.ok s) →
      ∀ (α : Type) (p : Program queries α) (log : Log Http.exchange) (a : α) (t : IdentitySession),
        (client p s).Traces log (a, t) →
        ∃ l asked, Login.ofIdentity i env s.base = .ok l ∧ t = { s with token := t.token } ∧
          p.Traces asked a ∧ Conversation l s.base s.token asked log t.token ∧
          HoldsToken l none (opening ++ log)) ∧
    ∀ (base : Url) (token : String) (s : IdentitySession), ofToken base token = .ok s →
      ∀ (α : Type) (p : Program queries α) (log : Log Http.exchange) (a : α) (t : IdentitySession),
        (client p s).Traces log (a, t) →
        t = s ∧ ∃ asked, p.Traces asked a ∧ Monologue base token asked log := by
  constructor
  · intro i env opening s opened α p log a t ran
    obtain ⟨l, x, login, prepared, rfl, given⟩ := opening_of_traces opened
    obtain ⟨same, asked, asks, conversation⟩ :=
      conversation_of_traces login (below_of_login prepared) ran
    refine ⟨l, asked, prepared, same, asks, conversation, (holdsToken_login x).2 ?_⟩
    rw [given]
    exact conversation.holdsToken
  · intro base token s opened α p log a t ran
    rw [ofToken] at opened
    split at opened
    case isFalse => cases opened
    case isTrue =>
      cases opened
      exact monologue_of_traces rfl ran

/-- A query is refused, another token is given, and the query is refused again. Where there is no
other token to be had, it is refused once. -/
theorem renewal_sample :
    let refusal : Http.Response := { status := 401, body := "expired" }
    let query : Query := .find "user-1" "cluster-1"
    let look : Program queries (Result query.Given) := ask (I := queries) query done
    let refused : Result query.Given := .error (.identity (Identity.words refusal) (some 401))
    ∃ opening log log' l s s',
      (authenticate .sample fun _ => some "magnum").run.Traces opening (.ok s) ∧
      (client look s).Traces log (refused, { s with token := "fresh" }) ∧
      log.map (·.request.token) = [some "token", none, some "fresh"] ∧
      HoldsToken l none (opening ++ log) ∧
      ofToken s.base "token" = .ok s' ∧ (client look s').Traces log' (refused, s') ∧
      log'.map (·.request.token) = [some "token"] ∧
      ∃ asked, Monologue s.base "token" asked log' := by
  intro refusal query look refused
  let fresh : Http.Response := { status := 201, headers := [("X-Subject-Token", "fresh")] }
  have header : (fresh.header? "X-Subject-Token").filter Login.isToken = some "fresh" := by
    decide +kernel
  have success : fresh.isSuccess = true := rfl
  have given : Login.given (some fresh) = .ok "fresh" := by
    rw [Login.given, if_pos success, header]
  obtain ⟨q, body, opened⟩ := authenticate_sample
  let s := sample body
  let s' : IdentitySession := { s with login := none }
  obtain ⟨l, login⟩ : ∃ l, s.login = some l := ⟨_, rfl⟩
  obtain ⟨url, named⟩ := (query.named_iff s.base).2 ⟨_, rfl⟩
  have outcome : query.result (some refusal) = refused :=
    query.outcome_refusal (a := refusal) rfl
  obtain ⟨log, tokens, looked⟩ : ∃ log : Log Http.exchange,
      log.map (·.request.token) = [some "token", none, some "fresh"] ∧
        (query.call.run.run s).Traces log (refused, { s with token := "fresh" }) := by
    refine ⟨[⟨query.request url "token", some refusal⟩, ⟨l.request, some fresh⟩,
      ⟨query.request url "fresh", some refusal⟩], rfl, ?_⟩
    rw [Query.run_call_login login named]
    refine .ask (.ask ?_)
    rw [given, ← outcome]
    exact .ask (.done _)
  obtain ⟨log', tokens', looked'⟩ : ∃ log : Log Http.exchange,
      log.map (·.request.token) = [some "token"] ∧
        (query.call.run.run s').Traces log (refused, s') := by
    refine ⟨[⟨query.request url "token", some refusal⟩], rfl, ?_⟩
    rw [Query.run_call_token (s := s') rfl named, ← outcome]
    exact .ask (.done _)
  have ran : (client look s).Traces log (refused, { s with token := "fresh" }) :=
    Program.traces_bind.2 ⟨_, log, [], by simp, looked, .done _⟩
  have ran' : (client look s').Traces log' (refused, s') :=
    Program.traces_bind.2 ⟨_, log', [], by simp, looked', .done _⟩
  have token : ofToken s.base "token" = .ok s' := if_pos (by decide +kernel)
  obtain ⟨l', _, _, _, _, _, holds⟩ := renewal.1 _ _ _ _ opened _ _ _ _ _ ran
  obtain ⟨_, asked, _, monologue⟩ := renewal.2 _ _ _ token _ _ _ _ _ ran'
  exact ⟨_, log, log', l', s, s', opened, ran, tokens, holds, token, ran', tokens', asked,
    monologue⟩

end

end IdentitySession

end ClusterLifecycle
