import ClusterLifecycle.Credential.Issue
import ClusterLifecycle.Proofs.Logs
import ClusterLifecycle.Proofs.Registers

/-!
What is held of a user's credentials after any number of calls that issue and revoke them.

* `CredentialCall.MayAsk`: what a call may ask, after what it has been answered;
* `CredentialCall.Stands`: where a call may stand, and what has become of the credentials by then;
* `CredentialCall.stands_of_reaches`: it stands nowhere else, whatever fails;
* `History.bookkeeping`: what is held at the end is what the last call has reported, and from there
  every call succeeds that is served.
-/

namespace ClusterLifecycle

open Program Credential

/-- A call for a user and a cluster. -/
inductive CredentialCall where
  | issue (user : String) (id : Uuid)
  | revoke (user : String) (id : Uuid)
deriving DecidableEq

/-- All that the user holds under the name is this. -/
def Register.Holds (r : Register) (user name : String) : Option Credential → Prop
  | some c => ∃ a, r.held user name = some a ∧ a.id = c.id ∧ a.name = c.name ∧
      a.secret = some c.secret
  | none => r.held user name = none

theorem Register.holds_congr {r r' : Register} {user name : String} {given : Option Credential}
    (same : r'.held user name = r.held user name) (h : r.Holds user name given) :
    r'.Holds user name given := by
  cases given with
  | none => exact same.trans h
  | some c =>
    obtain ⟨a, held, rest⟩ := h
    exact ⟨a, same.trans held, rest⟩

/-- A credential that was created can be used if it came with its secret. -/
theorem Credential.ofCreated_ok_iff {a : ApplicationCredential} {c : Credential} :
    ofCreated a = .ok c ↔ ∃ secret, a.secret = some secret ∧
      c = { id := a.id, name := a.name, secret } := by
  rw [ofCreated]
  cases a.secret with
  | none => exact iff_of_false nofun nofun
  | some secret =>
    constructor
    · rintro ⟨⟩
      exact ⟨secret, rfl, rfl⟩
    · rintro ⟨_, ⟨⟩, rfl⟩
      rfl

namespace CredentialCall

def user : CredentialCall → String
  | issue user _ | revoke user _ => user

def id : CredentialCall → Uuid
  | issue _ id | revoke _ id => id

/-- What the cluster's credential is named. -/
def name (call : CredentialCall) : String := call.id.toString

/-- What is done, and the credential that is left of it. -/
def program : CredentialCall → Program services (Result (Option Credential))
  | issue user id => (some <$> Credential.issue user id).run
  | revoke user id => ((fun _ => none) <$> Credential.revoke user id).run

/-- What is done once nothing is held under the name. -/
def rest : CredentialCall → Program services (Result (Option Credential))
  | issue user id =>
    ask (.createCredential user id.toString (description id)) fun created =>
      done (Except.bind created fun a => (ofCreated a).map some)
  | revoke .. => done (.ok none)

/-- What is made of a deletion. -/
def onDeleted (call : CredentialCall) : Result Unit → Program services (Result (Option Credential))
  | .ok () => call.rest
  | .error e =>
    match call with
    | issue .. => done (.error e)
    | revoke .. => done (if e.isNotFound then .ok none else .error e)

/-- What is made of a search. -/
def onFound (call : CredentialCall) :
    Result ApplicationCredential → Program services (Result (Option Credential))
  | .ok shown => ask (.deleteCredential call.user shown.id) call.onDeleted
  | .error e => if e.isNotFound then call.rest else done (.error e)

/-- What is created comes with its secret or is of no use. -/
theorem run_creating (user : String) (id : Uuid) :
    (some <$> (do
      liftM (ofCreated (← Operation.createCredential user id.toString (description id))) :
        Operation Credential)).run = (issue user id).rest := by
  refine congrArg (ask (I := services) (.createCredential user id.toString (description id)))
    (funext ?_)
  rintro (e | a)
  · rfl
  · change ((some <$> (liftM (ofCreated a) : Operation Credential)).run) =
      done ((ofCreated a).map some)
    cases ofCreated a <;> rfl

theorem program_eq (call : CredentialCall) :
    call.program = ask (I := services) (.findCredential call.user call.name) call.onFound := by
  cases call with
  | issue user id =>
    have creates := run_creating user id
    refine congrArg (ask (I := services) (.findCredential user id.toString)) (funext ?_)
    rintro (e | shown)
    · cases e with
      | notFound => exact creates
      | _ => rfl
    · refine congrArg (ask (I := services) (.deleteCredential user shown.id)) (funext ?_)
      rintro (e | _)
      · rfl
      · exact creates
  | revoke user id =>
    refine congrArg (ask (I := services) (.findCredential user id.toString)) (funext ?_)
    rintro (e | shown)
    · cases e <;> rfl
    · refine congrArg (ask (I := services) (.deleteCredential user shown.id)) (funext ?_)
      rintro (e | _)
      · cases e <;> rfl
      · rfl

/-- The answers show that nothing is held under the name: there was nothing to be found, or what was
found has been deleted. -/
inductive Cleared (call : CredentialCall) : Log services → Prop
  | absent {e : Error} (missing : e.isNotFound = true) :
      Cleared call [⟨.findCredential call.user call.name, .error e⟩]
  | deleted {shown : ApplicationCredential} :
      Cleared call [⟨.findCredential call.user call.name, .ok shown⟩,
        ⟨.deleteCredential call.user shown.id, .ok ()⟩]

/-- What a call may ask, after what it has been answered. -/
inductive MayAsk (call : CredentialCall) : Log services → ServiceRequest → Prop
  | find : MayAsk call [] (.findCredential call.user call.name)
  | delete {shown : ApplicationCredential} :
      MayAsk call [⟨.findCredential call.user call.name, .ok shown⟩]
        (.deleteCredential call.user shown.id)
  | create {log : Log services} (issues : call = issue call.user call.id)
      (cleared : call.Cleared log) :
      MayAsk call log (.createCredential call.user call.name (description call.id))

/-- Each request is one that the call may make at that point. -/
inductive InOrder (call : CredentialCall) : Log services → Prop
  | nil : InOrder call []
  | next {log : Log services} {e : Exchange services} (before : InOrder call log)
      (admitted : call.MayAsk log e.request) : InOrder call (log ++ [e])

variable {call : CredentialCall} {r r' : Register} {log : Log services}
  {p : Program services (Result (Option Credential))}

theorem inOrder_find (answer : (ServiceRequest.findCredential call.user call.name).Answer) :
    call.InOrder [⟨.findCredential call.user call.name, answer⟩] :=
  .next .nil .find

theorem inOrder_delete {shown : ApplicationCredential}
    (answer : (ServiceRequest.deleteCredential call.user shown.id).Answer) :
    call.InOrder [⟨.findCredential call.user call.name, .ok shown⟩,
      ⟨.deleteCredential call.user shown.id, answer⟩] :=
  .next (inOrder_find _) .delete

theorem Cleared.inOrder (h : call.Cleared log) : call.InOrder log := by
  cases h with
  | absent => exact inOrder_find _
  | deleted => exact inOrder_delete _

/-- Where a call may stand that has found the register `r`. -/
inductive Stands (call : CredentialCall) (r : Register) :
    Program services (Result (Option Credential)) → Log services → Register → Prop
  | start : Stands call r call.program [] r
  | unsought {e : Error} (failure : e.isNotFound = false) :
      Stands call r (done (.error e)) [⟨.findCredential call.user call.name, .error e⟩] r
  | found {shown a : ApplicationCredential} (there : r.held call.user call.name = some a)
      (id : shown.id = a.id) :
      Stands call r (ask (I := services) (.deleteCredential call.user shown.id) call.onDeleted)
        [⟨.findCredential call.user call.name, .ok shown⟩] r
  | undeleted {shown : ApplicationCredential} {e : Error} {r' : Register}
      (spared : r.Spares r' call.user call.name) :
      Stands call r (done (.error e)) [⟨.findCredential call.user call.name, .ok shown⟩,
        ⟨.deleteCredential call.user shown.id, .error e⟩] r'
  | cleared {log : Log services} {r' : Register} (cleared : call.Cleared log)
      (spared : r.Spares r' call.user call.name) (gone : r'.held call.user call.name = none) :
      Stands call r call.rest log r'
  | uncreated {log : Log services} {e : Error} {r' : Register}
      (issues : call = issue call.user call.id) (cleared : call.Cleared log)
      (spared : r.Spares r' call.user call.name) :
      Stands call r (done (.error e))
        (log ++ [⟨.createCredential call.user call.name (description call.id), .error e⟩]) r'
  | created {log : Log services} {a : ApplicationCredential} {r' : Register}
      (issues : call = issue call.user call.id) (cleared : call.Cleared log)
      (spared : r.Spares r' call.user call.name) (held : r'.held call.user call.name = some a) :
      Stands call r (done ((ofCreated a).map some))
        (log ++ [⟨.createCredential call.user call.name (description call.id), .ok a⟩]) r'

theorem stands_onFound {found : (ServiceRequest.findCredential call.user call.name).Answer}
    (answered : Register.MayAnswer _ r found r') :
    call.Stands r (call.onFound found) [⟨.findCredential call.user call.name, found⟩] r' := by
  obtain ⟨rfl, seen, unseen⟩ := answered.find
  cases found with
  | ok shown =>
    obtain ⟨a, there, id⟩ := seen shown rfl
    exact .found there id
  | error e =>
    cases missing : e.isNotFound with
    | true =>
      rw [onFound, if_pos missing]
      exact .cleared (.absent missing) (.refl _ _ _) (unseen e rfl missing)
    | false =>
      rw [onFound, if_neg (by simp [missing])]
      exact .unsought missing

theorem stands_onDeleted {shown a : ApplicationCredential}
    {deleted : (ServiceRequest.deleteCredential call.user shown.id).Answer}
    (there : r.held call.user call.name = some a) (id : shown.id = a.id)
    (answered : Register.MayAnswer _ r deleted r') :
    call.Stands r (call.onDeleted deleted) [⟨.findCredential call.user call.name, .ok shown⟩,
      ⟨.deleteCredential call.user shown.id, deleted⟩] r' := by
  rcases shown with ⟨_, name, description, secret, project⟩
  subst id
  obtain ⟨spared, ⟨rfl, gone⟩ | ⟨e, rfl, failure⟩⟩ := answered.delete there
  · exact .cleared .deleted spared gone
  · have fails : call.onDeleted (.error e) = done (.error e) := by
      cases call <;> simp [onDeleted, failure]
    rw [fails]
    exact .undeleted spared

/-- From where a call may stand, one more answer takes it to where it may stand. -/
theorem Stands.step {q : ServiceRequest}
    {next : q.Answer → Program services (Result (Option Credential))} {a : q.Answer}
    {r₀ : Register} (stands : call.Stands r₀ (ask (I := services) q next) log r)
    (answered : Register.MayAnswer q r a r') : call.Stands r₀ (next a) (log ++ [⟨q, a⟩]) r' := by
  generalize here : ask (I := services) q next = p at stands
  cases stands with
  | start =>
    rw [program_eq] at here
    cases here
    exact stands_onFound answered
  | unsought | undeleted | uncreated | created => cases here
  | found there id =>
    cases here
    exact stands_onDeleted there id answered
  | cleared cleared spared gone =>
    cases call with
    | revoke => cases here
    | issue user id =>
      cases here
      obtain ⟨spared', held⟩ := answered.create
      cases a with
      | ok a => exact .created rfl cleared (spared.trans spared') (held a rfl)
      | error e => exact .uncreated rfl cleared (spared.trans spared')

theorem Stands.run {r₀ : Register} {log' : Log services}
    {p' : Program services (Result (Option Credential))} (stands : call.Stands r₀ p log r)
    (reached : Reaches (Logged Register.MayAnswer) p (r, log) p' (r', log')) :
    call.Stands r₀ p' log' r' := by
  generalize hs : (r, log) = s at reached
  generalize ht : (r', log') = t at reached
  induction reached generalizing r log with
  | here p s =>
    cases hs.trans ht.symm
    exact stands
  | on answered _ ih =>
    subst hs
    obtain ⟨answered, grown⟩ := answered
    exact ih (stands.step answered) (Prod.ext rfl grown.symm) ht

/-- A call stands nowhere else, whatever fails. -/
theorem stands_of_reaches
    (reached : Reaches (Logged Register.MayAnswer) call.program (r, []) p (r', log)) :
    call.Stands r p log r' :=
  Stands.run .start reached

/-- What was created is what is returned, and what is held. -/
theorem holds_of_created (call : CredentialCall) {a : ApplicationCredential}
    {given : Option Credential}
    (held : r.held call.user call.name = some a) (made : (ofCreated a).map some = .ok given) :
    (∃ secret, a.secret = some secret ∧ given = some { id := a.id, name := a.name, secret }) ∧
      r.Holds call.user call.name given := by
  cases returned : ofCreated a with
  | error e =>
    rw [returned] at made
    cases made
  | ok c =>
    rw [returned] at made
    cases made
    obtain ⟨secret, came, rfl⟩ := ofCreated_ok_iff.1 returned
    exact ⟨⟨secret, came, rfl⟩, a, held, rfl, rfl, came⟩

/-- The end of a call that is served: it succeeds, and what it returns is what is then held. -/
theorem completes_rest (gone : r.held call.user call.name = none) :
    call.rest.Completes Register.Healthy
      (fun result r' => ∃ given, result = .ok given ∧ r'.Holds call.user call.name given) r := by
  cases call with
  | revoke => exact ⟨none, rfl, gone⟩
  | issue user id =>
    constructor
    · obtain ⟨fresh, unknown⟩ := r.exists_fresh user
      exact ⟨_, _, .created (a := { id := fresh, name := id.toString, secret := some "" })
        gone rfl unknown rfl⟩
    · intro created r' served
      cases served with
      | @created _ _ _ _ a free named fresh fit =>
        obtain ⟨secret, came⟩ := Option.isSome_iff_exists.1 fit
        have made : (ofCreated a).map some = .ok (some { id := a.id, name := a.name, secret }) := by
          rw [ofCreated_ok_iff.2 ⟨secret, came, rfl⟩]
          rfl
        have held := Register.held_add fresh
        rw [named] at held
        exact ⟨_, made, (holds_of_created (issue user id) held made).2⟩
      | taken there =>
        change r.held user id.toString = none at gone
        rw [gone] at there
        cases there

/-- A call that is served succeeds, wherever it starts. -/
theorem completes_program (call : CredentialCall) (r : Register) :
    call.program.Completes Register.Healthy
      (fun result r' => ∃ given, result = .ok given ∧ r'.Holds call.user call.name given) r := by
  rw [program_eq]
  constructor
  · cases there : r.held call.user call.name with
    | none => exact ⟨_, r, .unfound (e := .notFound "ApplicationCredential" call.name) there rfl⟩
    | some a => exact ⟨_, r, .found there rfl rfl⟩
  · intro found r' served
    cases served with
    | unfound absent missing =>
      rw [onFound, if_pos missing]
      exact completes_rest absent
    | @found _ _ _ a shown there id =>
      have known : r.Knows call.user shown.id := ⟨_, a, there, id.symm⟩
      refine ⟨⟨_, _, .deleted known⟩, fun deleted r' served => ?_⟩
      cases served with
      | deleted => exact completes_rest (id ▸ Register.held_drop there)
      | undeleted absent => exact absurd known absent

/-- A call has gone as it should, so far.

* Nothing is deleted but what was found, and nothing is created before the name is clear;
* where the search fails nothing more is asked, and its error is the result;
* what an issue returns is what was created last. -/
structure Orderly (call : CredentialCall) (log : Log services)
    (left : Program services (Result (Option Credential))) : Prop where
  inOrder : call.InOrder log
  unsought : ∀ e, e.isNotFound = false →
    ⟨.findCredential call.user call.name, .error e⟩ ∈ log →
      log = [⟨.findCredential call.user call.name, .error e⟩] ∧ left = done (.error e)
  issued : ∀ user id given, call = issue user id → left = done (.ok given) →
    ∃ before a secret,
      log = before ++ [⟨.createCredential user id.toString (description id), .ok a⟩] ∧
        a.secret = some secret ∧ given = some { id := a.id, name := a.name, secret }
  revoked : ∀ user id given, call = revoke user id → left = done (.ok given) → given = none

theorem Cleared.sought (h : call.Cleared log) {e : Error}
    (mem : ⟨.findCredential call.user call.name, .error e⟩ ∈ log) : e.isNotFound = true := by
  cases h with
  | absent missing =>
    cases List.mem_singleton.1 mem
    exact missing
  | deleted => rcases List.mem_pair.1 mem with other | other <;> cases other

theorem Stands.unsought_end {e : Error} (h : call.Stands r p log r')
    (failure : e.isNotFound = false) (mem : ⟨.findCredential call.user call.name, .error e⟩ ∈ log) :
    log = [⟨.findCredential call.user call.name, .error e⟩] ∧ p = done (.error e) := by
  have sought {log : Log services} (cleared : call.Cleared log) :
      ⟨.findCredential call.user call.name, .error e⟩ ∉ log :=
    fun mem => by cases failure.symm.trans (cleared.sought mem)
  cases h with
  | start => cases mem
  | unsought =>
    cases List.mem_singleton.1 mem
    exact ⟨rfl, rfl⟩
  | found => cases List.mem_singleton.1 mem
  | undeleted => rcases List.mem_pair.1 mem with other | other <;> cases other
  | cleared cleared => exact absurd mem (sought cleared)
  | uncreated _ cleared | created _ cleared =>
    rcases List.mem_append.1 mem with mem | mem
    · exact absurd mem (sought cleared)
    · cases List.mem_singleton.1 mem

theorem Stands.inOrder (h : call.Stands r p log r') : call.InOrder log := by
  cases h with
  | start => exact .nil
  | unsought | found => exact inOrder_find _
  | undeleted => exact inOrder_delete _
  | cleared cleared => exact cleared.inOrder
  | uncreated issues cleared | created issues cleared =>
    exact .next cleared.inOrder (.create issues cleared)

/-- Only what the user holds under the name has changed. -/
theorem Stands.spares (h : call.Stands r p log r') : r.Spares r' call.user call.name := by
  cases h with
  | start | unsought | found => exact .refl _ _ _
  | undeleted spared | cleared _ spared | uncreated _ _ spared | created _ _ spared => exact spared

/-- Where a call has succeeded what it returns is what is held; and what it returns is what was
created last, or nothing where the call was to revoke. -/
theorem Stands.ended {given : Option Credential}
    (h : call.Stands r p log r') (ends : p = done (.ok given)) :
    r'.Holds call.user call.name given ∧
      ((call = revoke call.user call.id ∧ given = none) ∨
        call = issue call.user call.id ∧ ∃ before a secret,
          log = before ++
            [⟨.createCredential call.user call.name (description call.id), .ok a⟩] ∧
          a.secret = some secret ∧ given = some { id := a.id, name := a.name, secret }) := by
  cases h with
  | start =>
    rw [program_eq] at ends
    cases ends
  | unsought | found | undeleted | uncreated => cases ends
  | cleared _ _ gone =>
    cases call with
    | issue => cases ends
    | revoke =>
      cases ends
      exact ⟨gone, .inl ⟨rfl, rfl⟩⟩
  | @created _ a _ issues cleared spared held =>
    obtain ⟨⟨secret, came, same⟩, holds⟩ := holds_of_created call held (Program.done.inj ends)
    exact ⟨holds, .inr ⟨issues, _, a, secret, rfl, came, same⟩⟩

theorem Stands.orderly (h : call.Stands r p log r') : call.Orderly log p := by
  refine ⟨h.inOrder, fun e failure mem => h.unsought_end failure mem, ?_, ?_⟩
  · rintro user id given rfl ends
    obtain ⟨-, ⟨⟨⟩, -⟩ | ⟨-, last⟩⟩ := h.ended ends
    exact last
  · rintro user id given rfl ends
    obtain ⟨-, ⟨-, nothing⟩ | ⟨⟨⟩, -⟩⟩ := h.ended ends
    exact nothing

end CredentialCall

open CredentialCall

/-- A call, with what it has asked and what is left of it: it may have ended, or been cut off. -/
structure Turn where
  call : CredentialCall
  log : Log services
  left : Program services (Result (Option Credential))

/-- The turn is about what the user holds under the name. -/
def Turn.Concerns (t : Turn) (user name : String) : Prop := t.call.user = user ∧ t.call.name = name

/-- One turn after the other, from one register to another. -/
inductive History : Register → List Turn → Register → Prop
  | nil (r : Register) : History r [] r
  | next {start r r' : Register} {turns : List Turn} {t : Turn} (before : History start turns r)
      (taken : Reaches (Logged Register.MayAnswer) t.call.program (r, []) t.left (r', t.log)) :
      History start (turns ++ [t]) r'

namespace History

variable {start r : Register} {turns : List Turn}

theorem orderly (history : History start turns r) : ∀ t ∈ turns, t.call.Orderly t.log t.left := by
  induction history with
  | nil => exact nofun
  | next _ taken ih =>
    have last := (stands_of_reaches taken).orderly
    exact List.forall_mem_append.2 ⟨ih, List.forall_mem_singleton.2 last⟩

/-- What no turn is about stays. -/
theorem untouched (history : History start turns r) {user name : String}
    (others : ∀ t ∈ turns, ¬t.Concerns user name) : r.held user name = start.held user name := by
  induction history with
  | nil => rfl
  | next _ taken ih =>
    obtain ⟨before, last⟩ := List.forall_mem_append.1 others
    have other := List.forall_mem_singleton.1 last
    have same := (stands_of_reaches taken).spares user name fun mine =>
      other ⟨mine.1.symm, mine.2.symm⟩
    exact same.trans (ih before)

/-- What a turn has reported is so until the next turn that is about it. -/
theorem reported (history : History start turns r) {before after : List Turn} {t : Turn}
    {given : Option Credential} (here : turns = before ++ t :: after)
    (ended : t.left = done (.ok given))
    (others : ∀ later ∈ after, ¬later.Concerns t.call.user t.call.name) :
    r.Holds t.call.user t.call.name given := by
  induction history generalizing after with
  | nil => simp at here
  | @next r r' turns last _ taken ih =>
    have stands := stands_of_reaches taken
    rcases split_concat here with ⟨rfl, rfl⟩ | ⟨after', rfl⟩
    · exact (stands.ended ended).1
    · rw [List.append_assoc, List.cons_append, List.append_cancel_left_eq, List.cons.injEq] at here
      obtain ⟨earlier, other⟩ := List.forall_mem_append.1 (here.2 ▸ others)
      have same := stands.spares t.call.user t.call.name fun mine =>
        List.forall_mem_singleton.1 other ⟨mine.1.symm, mine.2.symm⟩
      exact Register.holds_congr same (ih rfl earlier)

/-- After any turns, with any failures: each turn has gone as it should; what the user holds under a
name is what the last turn about that has reported, where it has succeeded, and what was held at the
start, where there was none; and from there every call succeeds if nothing fails, and what it
returns is what is then held. -/
theorem bookkeeping (history : History start turns r) :
    (∀ t ∈ turns, t.call.Orderly t.log t.left) ∧
      (∀ user name, (∀ t ∈ turns, ¬t.Concerns user name) →
        r.held user name = start.held user name) ∧
      (∀ before t after given, turns = before ++ t :: after → t.left = done (.ok given) →
        (∀ later ∈ after, ¬later.Concerns t.call.user t.call.name) →
          r.Holds t.call.user t.call.name given) ∧
      ∀ call : CredentialCall, call.program.Completes Register.Healthy
        (fun result r' => ∃ given, result = .ok given ∧ r'.Holds call.user call.name given) r :=
  ⟨history.orderly, fun _ _ => history.untouched, fun _ _ _ _ => history.reported,
    fun call => completes_program call r⟩

/-- The answer to a creation is lost. What was created is replaced when the credential is issued
again. -/
theorem bookkeeping_sample :
    let call := CredentialCall.issue "user-1" .nil
    let failure := Error.identity "failed to send POST request" none
    let given : Credential := { id := "cred-2", name := call.name, secret := "secret-2" }
    ∃ lost reissued r, History .empty
        [⟨call, lost, done (.error failure)⟩, ⟨call, reissued, done (.ok (some given))⟩] r ∧
      r.Holds "user-1" call.name (some given) ∧
      (CredentialCall.revoke "user-1" .nil).program.Completes Register.Healthy
        (fun result r' => ∃ given, result = .ok given ∧ r'.Holds "user-1" call.name given) r := by
  intro call failure given
  let first : ApplicationCredential :=
    { id := "cred-1", name := call.name, secret := some "secret-1" }
  let second : ApplicationCredential :=
    { id := "cred-2", name := call.name, secret := some "secret-2" }
  have unknown : ¬Register.empty.Knows "user-1" first.id := by
    rintro ⟨_, _, ⟨⟩, _⟩
  let r₁ := Register.empty.add "user-1" first unknown
  have there : r₁.held "user-1" call.name = some first := Register.held_add unknown
  let r₂ := r₁.drop "user-1" first.id
  have gone : r₂.held "user-1" call.name = none := Register.held_drop there
  have unknown' : ¬r₂.Knows "user-1" second.id := by
    rintro ⟨name, b, held, id⟩
    by_cases named : name = call.name
    · rw [named, gone] at held
      cases held
    · rw [Register.spares_drop there _ _ fun same => named same.2,
        Register.spares_add unknown _ _ fun same => named same.2] at held
      cases held
  have lost : ∃ log, Reaches (Logged Register.MayAnswer) call.program (Register.empty, [])
      (done (.error failure)) (r₁, log) := by
    rw [program_eq]
    let missing := Error.notFound "ApplicationCredential" call.name
    exact ⟨_, .onLogged (.served (.unfound (e := missing) rfl rfl))
      (.onLogged (.lost failure rfl (.created (a := first) rfl rfl unknown trivial)) (.here _ _))⟩
  have reissued : ∃ log, Reaches (Logged Register.MayAnswer) call.program (r₁, [])
      (done (.ok (some given))) (r₂.add "user-1" second unknown', log) := by
    rw [program_eq]
    exact ⟨_, .onLogged (.served (.found there rfl rfl))
      (.onLogged (.served (.deleted ⟨_, _, there, rfl⟩))
        (.onLogged (.served (.created gone rfl unknown' trivial)) (.here _ _)))⟩
  obtain ⟨log, lost⟩ := lost
  obtain ⟨log', reissued⟩ := reissued
  have history := History.next (t := ⟨call, _, _⟩)
    (.next (t := ⟨call, _, _⟩) (.nil .empty) lost) reissued
  obtain ⟨-, -, reported, recovers⟩ := bookkeeping history
  exact ⟨_, _, _, history, reported [_] ⟨call, _, _⟩ [] _ rfl rfl nofun,
    recovers (.revoke "user-1" .nil)⟩

end History

end ClusterLifecycle
