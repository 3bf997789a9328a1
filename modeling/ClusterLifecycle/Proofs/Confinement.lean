import Mathlib.Data.List.Forall2
import Mathlib.Logic.Relation
import ClusterLifecycle.Proofs.CloudAccess
import ClusterLifecycle.Proofs.Requests

/-!
Where the secret of a credential goes: into the secret with the cloud configuration, and nowhere
else.

* `Operation.Abreast`: how two operations end, each in surroundings of its own;
* `Only.abreast`: requests that are answered the same make one operation run the same in both;
* `CredentialBackend.AlikeButSecret`: identity services that differ in the secrets they tell;
* `Indifferent`: a host to which the data of the secret is of no account, as it is to a world,
  whether its calls fail or not;
* `Alongside`: where two creations stand that have gone alike, and `secret_confined`, how they end.
-/

namespace ClusterLifecycle

/-- Both succeed, with results that are related, or both fail with the same error. -/
inductive Result.Agree {α β : Type} (R : α → β → Prop) : Result α → Result β → Prop
  | ok {a : α} {b : β} (related : R a b) : Agree R (.ok a) (.ok b)
  | error (e : Error) : Agree R (.error e) (.error e)

theorem Result.Agree.eq {α : Type} {r r' : Result α} (agree : Agree (fun a a' => a = a') r r') :
    r' = r := by
  cases agree with
  | ok related => rw [related]
  | error e => rfl

theorem Result.Agree.map_eq {α β : Type} {R : α → α → Prop} {r r' : Result α} {f : α → β}
    (agree : Agree R r r') (same : ∀ a a', R a a' → f a' = f a) : r'.map f = r.map f := by
  cases agree with
  | ok related => exact congrArg Except.ok (same _ _ related)
  | error e => rfl

namespace Program

variable {I : Interface} {σ σ' α : Type}

/-- The surroundings, with a log of what they are asked and answer. -/
def logging (answer : (q : I.Request) → σ → I.Answer q × σ) (q : I.Request) (s : σ × Log I) :
    I.Answer q × σ × Log I :=
  ((answer q s.1).1, (answer q s.1).2, s.2 ++ [⟨q, (answer q s.1).1⟩])

variable {answer : (q : I.Request) → σ → I.Answer q × σ}
  {answer' : (q : I.Request) → σ' → I.Answer q × σ'} {G : I.Request → Prop} {J : σ → σ' → Prop}

/-- A program whose requests are answered the same in both surroundings ends the same in both. -/
theorem Ensures.abreast {p : Program I α} {Q : α → Unit → Prop} {s : σ} {s' : σ'}
    (only : p.Ensures Anyhow (fun q _ _ _ => G q) Q ())
    (same : ∀ q s s', G q → J s s' →
      (answer q s).1 = (answer' q s').1 ∧ J (answer q s).2 (answer' q s').2)
    (start : J s s') :
    (p.run answer s).1 = (p.run answer' s').1 ∧ J (p.run answer s).2 (p.run answer' s').2 := by
  induction p generalizing s s' with
  | done a => exact ⟨rfl, start⟩
  | ask q next ih =>
    obtain ⟨admitted, rest⟩ := only (answer q s).1 () trivial
    obtain ⟨answered, after⟩ := same q s s' admitted start
    rw [run_ask, run_ask, ← answered]
    exact ih _ rest after

end Program

open Program

namespace Operation

variable {σ σ' α β γ δ : Type} {answer : (q : ServiceRequest) → σ → q.Answer × σ}
  {answer' : (q : ServiceRequest) → σ' → q.Answer × σ'} {R : α → β → Prop} {J : σ → σ' → Prop}
  {s : σ} {s' : σ'}

/-- Each in surroundings of its own, the two operations end in agreement, and in states that are
related. -/
def Abreast (answer : (q : ServiceRequest) → σ → q.Answer × σ)
    (answer' : (q : ServiceRequest) → σ' → q.Answer × σ') (R : α → β → Prop) (J : σ → σ' → Prop)
    (op : Operation α) (op' : Operation β) (s : σ) (s' : σ') : Prop :=
  Result.Agree R (op.run.run (I := services) answer s).1
      (op'.run.run (I := services) answer' s').1 ∧
    J (op.run.run (I := services) answer s).2 (op'.run.run (I := services) answer' s').2

theorem Abreast.bind {R' : γ → δ → Prop} {J' : σ → σ' → Prop} {op : Operation α}
    {op' : Operation β} {f : α → Operation γ} {f' : β → Operation δ}
    (first : Abreast answer answer' R J op op' s s') (weaker : ∀ t t', J t t' → J' t t')
    (rest : ∀ a b t t', R a b → J t t' → Abreast answer answer' R' J' (f a) (f' b) t t') :
    Abreast answer answer' R' J' (op >>= f) (op' >>= f') s s' := by
  obtain ⟨agree, after⟩ := first
  unfold Abreast
  rw [ExceptT.run_bind, ExceptT.run_bind, Program.bind_eq, Program.bind_eq, run_bind, run_bind]
  generalize op.run.run (I := services) answer s = ended at agree after ⊢
  generalize op'.run.run (I := services) answer' s' = ended' at agree after ⊢
  obtain ⟨r, t⟩ := ended
  obtain ⟨r', t'⟩ := ended'
  cases agree with
  | ok related => exact rest _ _ t t' related after
  | error e => exact ⟨.error e, weaker t t' after⟩

theorem abreast_result {r : Result α} {r' : Result β} (agree : Result.Agree R r r')
    (start : J s s') : Abreast answer answer' R J (liftM r) (liftM r') s s' := by
  cases agree with
  | ok related => exact ⟨.ok related, start⟩
  | error e => exact ⟨.error e, start⟩

/-- An operation whose requests are answered the same in both surroundings ends the same in both. -/
theorem Only.abreast {G : ServiceRequest → Prop} {P : α → Prop} {op : Operation α}
    (only : Only G P op)
    (same : ∀ q s s', G q → J s s' →
      (answer q s).1 = (answer' q s').1 ∧ J (answer q s).2 (answer' q s').2)
    (start : J s s') : Abreast answer answer' (fun a b => a = b) J op op s s' := by
  obtain ⟨ends, after⟩ := Ensures.abreast (I := services) only same start
  refine ⟨?_, after⟩
  rw [← ends]
  cases (op.run.run (I := services) answer s).1 with
  | ok a => exact .ok rfl
  | error e => exact .error e

end Operation

open Operation

/-- The two are the same but for the value of one field. -/
def Json.SameBut (name : String) (j j' : Json) : Prop :=
  ∃ (body value value' : Json), j = body.set name value ∧ j' = body.set name value'

/-- The two are the same but for the value of the secret. -/
structure ApplicationCredential.SameButSecret (a a' : ApplicationCredential) : Prop where
  others : a' = { a with secret := a'.secret }
  shown : a'.secret.isSome = a.secret.isSome

/-- What an identity service does with application credentials. -/
structure CredentialBackend (τ : Type) where
  find (user name : String) : τ → Result ApplicationCredential × τ
  create (user name description : String) : τ → Result ApplicationCredential × τ
  delete (user id : String) : τ → Result Unit × τ

namespace CredentialBackend

variable {κ τ τ' : Type}

/-- Surroundings in which the backend answers for credentials, and a host for all else. -/
def beside (host : (q : ServiceRequest) → κ → q.Answer × κ) (b : CredentialBackend τ) :
    (q : ServiceRequest) → κ × τ → q.Answer × κ × τ
  | .findCredential user name, (w, s) => ((b.find user name s).1, w, (b.find user name s).2)
  | .createCredential user name description, (w, s) =>
    ((b.create user name description s).1, w, (b.create user name description s).2)
  | .deleteCredential user id, (w, s) => ((b.delete user id s).1, w, (b.delete user id s).2)
  | q, (w, s) => ((host q w).1, (host q w).2, s)

/-- Those surroundings with a log. -/
abbrev logged (host : (q : ServiceRequest) → κ → q.Answer × κ) (b : CredentialBackend τ) :
    (q : ServiceRequest) → (κ × τ) × Log services → q.Answer × (κ × τ) × Log services :=
  logging (I := services) (b.beside host)

/-- Two backends that behave alike, but for the secret that they tell when a credential is
created. -/
structure AlikeButSecret (b : CredentialBackend τ) (b' : CredentialBackend τ')
    (Same : τ → τ' → Prop) : Prop where
  find : ∀ user name s s', Same s s' →
    (b.find user name s).1 = (b'.find user name s').1 ∧
      Same (b.find user name s).2 (b'.find user name s').2
  create : ∀ user name description s s', Same s s' →
    Result.Agree ApplicationCredential.SameButSecret (b.create user name description s).1
        (b'.create user name description s').1 ∧
      Same (b.create user name description s).2 (b'.create user name description s').2
  delete : ∀ user id s s', Same s s' →
    (b.delete user id s).1 = (b'.delete user id s').1 ∧
      Same (b.delete user id s).2 (b'.delete user id s').2

end CredentialBackend

/-- A management cluster and a keeper of records to which the data of a secret is of no account:
applied with other data it is received the same, and from then on nothing tells the difference but
reading it. Records change where they are saved. -/
structure Indifferent {κ ρ : Type} (host : (q : ServiceRequest) → κ → q.Answer × κ)
    (secret : ObjectRef) (stored : κ → ρ) (Alike : κ → κ → Prop) : Prop where
  receives : ∀ m m' w, m.target = secret → m'.target = secret →
    m.toJson.SameBut "stringData" m'.toJson →
      (host (.apply m) w).1 = (host (.apply m') w).1 ∧
        Alike (host (.apply m) w).2 (host (.apply m') w).2
  proceeds : ∀ q w w', q ≠ .get secret → Alike w w' →
    (host q w).1 = (host q w').1 ∧ Alike (host q w).2 (host q w').2
  unsaved : ∀ q w, ¬q.Saves → stored (host q w).2 = stored w

namespace Exchange

/-- The two are the same exchange, but for the secret of a credential that is created, or the data
of the secret that is applied. -/
inductive AlikeButSecret (secret : ObjectRef) : Exchange services → Exchange services → Prop
  | same (e : Exchange services) : AlikeButSecret secret e e
  | created (user name description : String) {r r' : Result ApplicationCredential}
      (told : Result.Agree ApplicationCredential.SameButSecret r r') :
      AlikeButSecret secret ⟨.createCredential user name description, r⟩
        ⟨.createCredential user name description, r'⟩
  | applied {m m' : Manifest} (r : Result Unit) (target : m.target = secret)
      (target' : m'.target = secret) (body : m.toJson.SameBut "stringData" m'.toJson) :
      AlikeButSecret secret ⟨.apply m, r⟩ ⟨.apply m', r⟩

/-- How the credential prints that is made of what was created. -/
def printed : Exchange services → Option (Result String)
  | ⟨.createCredential .., r⟩ =>
    some ((show Result ApplicationCredential from r) >>= fun created =>
      (Credential.ofCreated created).map Credential.toString)
  | _ => none

end Exchange

/-- The request neither saves a record nor creates a credential. -/
def ServiceRequest.Quiet : ServiceRequest → Prop
  | createCredential .. | saveCluster _ | saveNodeGroup .. => False
  | _ => True

theorem ServiceRequest.Quiet.unsaved {q : ServiceRequest} (quiet : q.Quiet) : ¬q.Saves := by
  cases q with
  | saveCluster | saveNodeGroup => exact absurd quiet id
  | _ => exact id

/-- Where two creations stand that have gone alike: hosts and backends are as they are related, and
the records are still what was kept of them at the start. -/
structure Alongside {κ ρ τ τ' : Type} (secret : ObjectRef) (stored : κ → ρ) (kept : ρ)
    (Same : τ → τ' → Prop) (Near : κ → κ → Prop) (v : (κ × τ) × Log services)
    (v' : (κ × τ') × Log services) : Prop where
  hosts : Near v.1.1 v'.1.1
  backends : Same v.1.2 v'.1.2
  logs : List.Forall₂ (Exchange.AlikeButSecret secret) v.2 v'.2
  records : stored v.1.1 = kept
  records' : stored v'.1.1 = kept

section
variable {κ ρ τ τ' : Type} {host : (q : ServiceRequest) → κ → q.Answer × κ}
  {b : CredentialBackend τ} {b' : CredentialBackend τ'} {secret : ObjectRef} {stored : κ → ρ}
  {kept : ρ} {Alike Near : κ → κ → Prop} {Same : τ → τ' → Prop} {v : (κ × τ) × Log services}
  {v' : (κ × τ') × Log services}

theorem Indifferent.stored_beside (indifferent : Indifferent host secret stored Alike)
    {q : ServiceRequest} (unsaved : ¬q.Saves) (s : κ × τ) :
    stored (b.beside host q s).2.1 = stored s.1 := by
  cases q with
  | findCredential | createCredential | deleteCredential => rfl
  | apply | delete | get | saveCluster | saveNodeGroup => exact indifferent.unsaved _ _ unsaved

namespace Alongside

theorem near (h : Alongside secret stored kept Same Eq v v') :
    Alongside secret stored kept Same (Relation.ReflGen Alike) v v' :=
  { h with hosts := h.hosts ▸ .refl }

/-- What one exchange on each side keeps. -/
theorem step {Near' : κ → κ → Prop} {q q' : ServiceRequest}
    (indifferent : Indifferent host secret stored Alike)
    (h : Alongside secret stored kept Same Near v v') (unsaved : ¬q.Saves) (unsaved' : ¬q'.Saves)
    (hosts : Near' (b.beside host q v.1).2.1 (b'.beside host q' v'.1).2.1)
    (backends : Same (b.beside host q v.1).2.2 (b'.beside host q' v'.1).2.2)
    (exchange : Exchange.AlikeButSecret secret ⟨q, (b.beside host q v.1).1⟩
      ⟨q', (b'.beside host q' v'.1).1⟩) :
    Alongside secret stored kept Same Near' (b.logged host q v).2 (b'.logged host q' v').2 where
  hosts := hosts
  backends := backends
  logs := List.rel_append h.logs (.cons exchange .nil)
  records := (indifferent.stored_beside unsaved v.1).trans h.records
  records' := (indifferent.stored_beside unsaved' v'.1).trans h.records'

/-- A quiet request is answered the same on both sides where the hosts answer it the same. -/
theorem same {q : ServiceRequest} (indifferent : Indifferent host secret stored Alike)
    (alike : b.AlikeButSecret b' Same) (quiet : q.Quiet)
    (hosts : ∀ w w', Near w w' → (host q w).1 = (host q w').1 ∧ Near (host q w).2 (host q w').2)
    (h : Alongside secret stored kept Same Near v v') :
    (b.logged host q v).1 = (b'.logged host q v').1 ∧
      Alongside secret stored kept Same Near (b.logged host q v).2 (b'.logged host q v').2 := by
  have exchanged : (b.beside host q v.1).1 = (b'.beside host q v'.1).1 ∧
      Near (b.beside host q v.1).2.1 (b'.beside host q v'.1).2.1 ∧
      Same (b.beside host q v.1).2.2 (b'.beside host q v'.1).2.2 := by
    cases q with
    | findCredential user name =>
      obtain ⟨answered, after⟩ := alike.find user name _ _ h.backends
      exact ⟨answered, h.hosts, after⟩
    | deleteCredential user id =>
      obtain ⟨answered, after⟩ := alike.delete user id _ _ h.backends
      exact ⟨answered, h.hosts, after⟩
    | createCredential => exact quiet.elim
    | apply | delete | get | saveCluster | saveNodeGroup =>
      obtain ⟨answered, after⟩ := hosts _ _ h.hosts
      exact ⟨answered, after, h.backends⟩
  obtain ⟨answered, near, after⟩ := exchanged
  refine ⟨answered, h.step indifferent quiet.unsaved quiet.unsaved near after ?_⟩
  rw [answered]
  exact .same _

end Alongside

section
variable (indifferent : Indifferent host secret stored Alike) (alike : b.AlikeButSecret b' Same)
include indifferent alike

/-- While no data has been applied that differs, the hosts are the same, and so is every answer to
an operation that neither saves a record nor creates a credential. -/
theorem Operation.Only.abreast_before {α : Type} {P : α → Prop} {op : Operation α}
    (only : Only ServiceRequest.Quiet P op)
    (start : Alongside secret stored kept Same Eq v v') :
    Abreast (b.logged host) (b'.logged host) (fun a a' => a = a')
      (Alongside secret stored kept Same Eq) op op v v' := by
  refine only.abreast (fun q _ _ quiet h => ?_) start
  refine h.same indifferent alike quiet ?_
  rintro w _ rfl
  exact ⟨rfl, rfl⟩

/-- Afterwards the answer to an operation that only applies is the same still. -/
theorem Operation.Only.abreast_after {α : Type} {P : α → Prop} {op : Operation α}
    (only : Only ServiceRequest.Applies P op)
    (start : Alongside secret stored kept Same (Relation.ReflGen Alike) v v') :
    Abreast (b.logged host) (b'.logged host) (fun a a' => a = a')
      (Alongside secret stored kept Same (Relation.ReflGen Alike)) op op v v' := by
  refine only.abreast (fun q _ _ applies h => ?_) start
  cases q with
  | apply m =>
    refine h.same indifferent alike trivial ?_
    rintro w w' (_ | near)
    · exact ⟨rfl, .refl⟩
    · obtain ⟨answered, after⟩ := indifferent.proceeds (.apply m) w w' nofun near
      exact ⟨answered, .single after⟩
  | _ => exact applies.elim

end

end

namespace Credential

/-- The secret does not show in how a credential prints. -/
theorem toString_eq {x x' : Credential} (id : x'.id = x.id) (name : x'.name = x.name) :
    x'.toString = x.toString := by
  cases x
  cases x'
  cases id
  cases name
  rfl

/-- What is made of credentials that are the same but for their secrets. -/
theorem ofCreated_agree {a a' : ApplicationCredential} (same : a.SameButSecret a') :
    Result.Agree (fun x x' => x'.id = x.id ∧ x'.name = x.name) (ofCreated a) (ofCreated a') := by
  obtain ⟨others, shown⟩ := same
  have id : a'.id = a.id := by rw [others]
  have name : a'.name = a.name := by rw [others]
  unfold ofCreated
  cases told : a.secret with
  | some text =>
    obtain ⟨text', told'⟩ := Option.isSome_iff_exists.1 (shown.trans (by rw [told]; rfl))
    rw [told']
    exact .ok ⟨id, name⟩
  | none =>
    have told' : a'.secret = none := by simpa [told] using shown
    rw [told', id]
    exact .error _

end Credential

theorem Exchange.AlikeButSecret.printed_eq {secret : ObjectRef} {e e' : Exchange services}
    (alike : AlikeButSecret secret e e') : e'.printed = e.printed := by
  cases alike with
  | same | applied => rfl
  | created user name description told =>
    cases told with
    | error e => rfl
    | @ok a a' same =>
      have prints : (Credential.ofCreated a').map Credential.toString =
          (Credential.ofCreated a).map Credential.toString := by
        refine (Credential.ofCreated_agree same).map_eq ?_
        rintro x x' ⟨id, name⟩
        exact Credential.toString_eq id name
      exact congrArg some prints

theorem Exchange.printed_of_alike {secret : ObjectRef} {log log' : Log services}
    (alike : List.Forall₂ (AlikeButSecret secret) log log') :
    log'.filterMap printed = log.filterMap printed := by
  induction alike with
  | nil => rfl
  | cons first _ ih => rw [List.filterMap_cons, List.filterMap_cons, first.printed_eq, ih]

section
variable {κ ρ τ τ' : Type} {host : (q : ServiceRequest) → κ → q.Answer × κ}
  {b : CredentialBackend τ} {b' : CredentialBackend τ'} {stored : κ → ρ} {kept : ρ}
  {Alike : κ → κ → Prop} {Same : τ → τ' → Prop} {v : (κ × τ) × Log services}
  {v' : (κ × τ') × Log services}

/-- What is issued on either side is the same but for the secret. -/
theorem Credential.abreast_issue {secret : ObjectRef}
    (indifferent : Indifferent host secret stored Alike) (alike : b.AlikeButSecret b' Same)
    (user : String) (id : Uuid) (start : Alongside secret stored kept Same Eq v v') :
    Abreast (b.logged host) (b'.logged host) (fun x x' => x'.id = x.id ∧ x'.name = x.name)
      (Alongside secret stored kept Same Eq) (issue user id) (issue user id) v v' := by
  have created {v v'} (start : Alongside secret stored kept Same Eq v v') :
      Abreast (b.logged host) (b'.logged host) (fun x x' => x'.id = x.id ∧ x'.name = x.name)
        (Alongside secret stored kept Same Eq)
        (createCredential user id.toString (description id) >>= fun a => liftM (ofCreated a))
        (createCredential user id.toString (description id) >>= fun a => liftM (ofCreated a))
        v v' := by
    have asked : Abreast (b.logged host) (b'.logged host) ApplicationCredential.SameButSecret
        (Alongside secret stored kept Same Eq) (createCredential user id.toString (description id))
        (createCredential user id.toString (description id)) v v' := by
      obtain ⟨told, after⟩ :=
        alike.create user id.toString (description id) _ _ start.backends
      exact ⟨told, start.step indifferent nofun nofun start.hosts after (.created _ _ _ told)⟩
    exact asked.bind (fun _ _ h => h) fun a a' _ _ same h => abreast_result (ofCreated_agree same) h
  have find : Only ServiceRequest.Quiet Anything (findCredential user id.toString) :=
    only_mk (only_ask trivial)
  unfold issue
  refine (find.orAbsent.abreast_before indifferent alike start).bind (fun _ _ h => h) ?_
  rintro found _ t t' rfl h
  cases found with
  | none => exact created h
  | some stale =>
    have delete : Only ServiceRequest.Quiet Anything (deleteCredential user stale.id) :=
      only_mk (only_ask trivial)
    exact (delete.abreast_before indifferent alike h).bind (fun _ _ h => h) fun _ _ _ _ _ => created

/-- The secret is applied on both sides, with data that may differ. -/
theorem Alongside.abreast_applyObject {secret : ObjectRef} {m m' : Manifest}
    (indifferent : Indifferent host secret stored Alike) (target : m.target = secret)
    (target' : m'.target = secret) (body : m.toJson.SameBut "stringData" m'.toJson)
    (start : Alongside secret stored kept Same Eq v v') :
    Abreast (b.logged host) (b'.logged host) (fun a a' => a = a')
      (Alongside secret stored kept Same (Relation.ReflGen Alike))
      (applyObject m) (applyObject m') v v' := by
  obtain ⟨received, after⟩ := indifferent.receives m m' v.1.1 target target' body
  have same : host (.apply m') v.1.1 = host (.apply m') v'.1.1 := by rw [start.hosts]
  rw [same] at received after
  have exchange : Exchange.AlikeButSecret secret ⟨.apply m, (host (.apply m) v.1.1).1⟩
      ⟨.apply m', (host (.apply m') v'.1.1).1⟩ := by
    rw [received]
    exact .applied _ target target' body
  refine ⟨?_, start.step indifferent nofun nofun (.single after) start.backends exchange⟩
  change Result.Agree _ (host (.apply m) v.1.1).1 (host (.apply m') v'.1.1).1
  rw [received]
  cases (host (.apply m') v'.1.1).1 with
  | ok u => exact .ok rfl
  | error e => exact .error e

namespace Deployment

variable {d : Deployment} {c : Cluster}

/-- The bodies of the secret differ in its data, where the credentials differ in their secrets. -/
theorem sameBut_secretManifest (d : Deployment) (c : Cluster) (x x' : Credential) :
    (d.secretManifest c x).toJson.SameBut "stringData" (d.secretManifest c x').toJson :=
  ⟨Manifest.toJson { d.secretManifest c x with content := [("type", "Opaque")] }, _, _, rfl, rfl⟩

theorem abreast_applyCloudConfig (indifferent : Indifferent host (d.secretRef c) stored Alike)
    (alike : b.AlikeButSecret b' Same)
    (start : Alongside (d.secretRef c) stored kept Same Eq v v') :
    Abreast (b.logged host) (b'.logged host) (fun a a' => a = a')
      (Alongside (d.secretRef c) stored kept Same (Relation.ReflGen Alike))
      (d.applyCloudConfig c) (d.applyCloudConfig c) v v' := by
  have looks : Only ServiceRequest.Quiet Anything (d.isPresent .cloudConfigSecret c) :=
    only_isPresent d _ c fun _ => trivial
  unfold applyCloudConfig
  refine (looks.abreast_before indifferent alike start).bind (fun _ _ => Alongside.near) ?_
  rintro present _ t t' rfl h
  cases present with
  | true => exact ⟨.ok rfl, h.near⟩
  | false =>
    refine (Credential.abreast_issue indifferent alike c.userId c.uuid h).bind
      (fun _ _ => Alongside.near) fun x x' u u' _ h => ?_
    rw [apply_eq (d.manifest_secret c x), apply_eq (d.manifest_secret c x')]
    exact h.abreast_applyObject indifferent rfl rfl (d.sameBut_secretManifest c x x')

/-- Two creations that start alike end alike. -/
theorem abreast_createCluster (indifferent : Indifferent host (d.secretRef c) stored Alike)
    (alike : b.AlikeButSecret b' Same)
    (start : Alongside (d.secretRef c) stored kept Same Eq v v') :
    Abreast (b.logged host) (b'.logged host) (fun a a' => a = a')
      (Alongside (d.secretRef c) stored kept Same (Relation.ReflGen Alike))
      (d.createCluster c) (d.createCluster c) v v' := by
  have foundation : Only ServiceRequest.Quiet Anything (c.foundation.forM (d.applyPart c)) :=
    only_applyParts d c fun _ _ _ _ => trivial
  have superstructure : Only ServiceRequest.Applies Anything
      (c.superstructure.forM (d.applyPart c)) :=
    only_applyParts d c fun _ _ _ _ => trivial
  rw [createCluster_eq]
  -- Until the secret is applied the hosts are in the same state, and afterwards in states alike.
  refine (foundation.abreast_before indifferent alike start).bind
    (fun _ _ => Alongside.near) fun _ _ _ _ _ founded => ?_
  refine (abreast_applyCloudConfig indifferent alike founded).bind (fun _ _ h => h)
    fun _ _ _ _ _ equipped => ?_
  exact superstructure.abreast_after indifferent alike equipped

/-- How a creation ends: its result, the states of host and backend, and the log of what was asked
and answered. -/
def creation (d : Deployment) (c : Cluster) (host : (q : ServiceRequest) → κ → q.Answer × κ)
    (b : CredentialBackend τ) (w : κ) (s : τ) : Result Unit × (κ × τ) × Log services :=
  (d.createCluster c).run.run (I := services) (b.logged host) ((w, s), [])

/-- Nothing tells the ends of two creations apart but the secret of the credential, and the data of
the secret that carries it. -/
structure Confined (secret : ObjectRef) (stored : κ → ρ) (w : κ)
    (ended : Result Unit × (κ × τ) × Log services)
    (ended' : Result Unit × (κ × τ') × Log services) : Prop where
  results : ended'.1 = ended.1
  exchanges : List.Forall₂ (Exchange.AlikeButSecret secret) ended.2.2 ended'.2.2
  records : stored ended.2.1.1 = stored w ∧ stored ended'.2.1.1 = stored w
  prints : ended'.2.2.filterMap Exchange.printed = ended.2.2.filterMap Exchange.printed

/-- Two creations from the same start, with backends that behave alike but for the secret that they
tell, have the same result after the same exchanges, up to that secret and the data of the secret
that carries it. -/
theorem secret_confined (d : Deployment) (c : Cluster)
    (indifferent : Indifferent host (d.secretRef c) stored Alike) (alike : b.AlikeButSecret b' Same)
    (w : κ) {s : τ} {s' : τ'} (start : Same s s') :
    Confined (d.secretRef c) stored w (d.creation c host b w s) (d.creation c host b' w s') := by
  have together : Alongside (d.secretRef c) stored (stored w) Same Eq ((w, s), []) ((w, s'), []) :=
    ⟨rfl, start, .nil, rfl, rfl⟩
  obtain ⟨agree, after⟩ := abreast_createCluster indifferent alike together
  exact ⟨agree.eq, after.logs, ⟨after.records, after.records'⟩,
    Exchange.printed_of_alike after.logs⟩

end Deployment

end

namespace World

variable {ρ : Type}

/-- The worlds differ in the body of the one object at most. -/
def AlikeBut (t : ObjectRef) (w w' : World ρ) : Prop :=
  ∃ objects, w' = { w with objects } ∧ ∀ u, u ≠ t → w'.object? u = w.object? u

theorem AlikeBut.put {t : ObjectRef} {w w' : World ρ} (h : AlikeBut t w w') (u : ObjectRef)
    {body body' : Json} (same : u ≠ t → body' = body) :
    AlikeBut t (w.put u body) (w'.put u body') := by
  obtain ⟨objects, rfl, elsewhere⟩ := h
  refine ⟨_, rfl, fun v other => ?_⟩
  by_cases here : v = u
  · subst here
    rw [object?_put_self, object?_put_self, same other]
  · rw [object?_put_of_ne here, object?_put_of_ne here, elsewhere v other]

theorem AlikeBut.remove {t : ObjectRef} {w w' : World ρ} (h : AlikeBut t w w') (u : ObjectRef) :
    AlikeBut t (w.remove u) (w'.remove u) := by
  obtain ⟨objects, rfl, elsewhere⟩ := h
  refine ⟨_, rfl, fun v other => ?_⟩
  by_cases here : v = u
  · subst here
    rw [object?_remove_self, object?_remove_self]
  · rw [object?_remove_of_ne here, object?_remove_of_ne here, elsewhere v other]

theorem AlikeBut.rfl {t : ObjectRef} {w : World ρ} : AlikeBut t w w :=
  ⟨w.objects, Eq.refl _, fun _ _ => Eq.refl _⟩

/-- A world receives any body of a secret. -/
theorem indifferent (k : Keeper ρ) (secret : ObjectRef) :
    Indifferent (World.answer k) secret World.records (AlikeBut secret) where
  receives m m' w target target' _ := by
    subst target
    refine ⟨Eq.refl _, ?_⟩
    change AlikeBut _ (w.put m.target (w.applied m)) (w.put m'.target (w.applied m'))
    rw [target']
    exact AlikeBut.rfl.put m.target fun other => absurd (Eq.refl _) other
  proceeds q w w' other h := by
    have same := h
    obtain ⟨objects, rfl, elsewhere⟩ := h
    cases q with
    | apply m =>
      refine ⟨Eq.refl _, same.put m.target fun other => ?_⟩
      rw [applied, applied, elsewhere m.target other]
    | delete t => exact ⟨Eq.refl _, same.remove t⟩
    | get t =>
      have unread : t ≠ secret := fun read => other (congrArg ServiceRequest.get read)
      exact ⟨congrArg (notFound t.kind t.name) (elsewhere t unread).symm, same⟩
    | findCredential user name => exact ⟨Eq.refl _, same⟩
    | createCredential user name description => exact ⟨Eq.refl _, objects, Eq.refl _, elsewhere⟩
    | deleteCredential user id =>
      have held : ({ w with objects } : World ρ).isHeld user id = w.isHeld user id := Eq.refl _
      simp only [answer, held]
      split
      · exact ⟨Eq.refl _, objects, Eq.refl _, elsewhere⟩
      · exact ⟨Eq.refl _, same⟩
    | saveCluster c => exact ⟨Eq.refl _, objects, Eq.refl _, elsewhere⟩
    | saveNodeGroup id g => exact ⟨Eq.refl _, objects, Eq.refl _, elsewhere⟩
  unsaved q w unsaved := by
    cases q with
    | saveCluster | saveNodeGroup => exact absurd trivial unsaved
    | deleteCredential user id =>
      simp only [answer]
      split <;> exact Eq.refl _
    | _ => exact Eq.refl _

end World

/-- A host whose calls fail as planned, before or after they have taken effect; past the end of the
plan they are answered. -/
def faltering {κ : Type} (host : (q : ServiceRequest) → κ → q.Answer × κ) (q : ServiceRequest) :
    κ × List (Option (Error × Bool)) → q.Answer × κ × List (Option (Error × Bool))
  | (w, some (e, late) :: plan) => (q.refuse e, if late then (host q w).2 else w, plan)
  | (w, none :: plan) => ((host q w).1, (host q w).2, plan)
  | (w, []) => ((host q w).1, (host q w).2, [])

/-- Failures tell nothing of the data of a secret. -/
theorem Indifferent.faltering {κ ρ : Type} {host : (q : ServiceRequest) → κ → q.Answer × κ}
    {secret : ObjectRef} {stored : κ → ρ} {Alike : κ → κ → Prop}
    (indifferent : Indifferent host secret stored Alike) :
    Indifferent (faltering host) secret (fun v => stored v.1)
      (fun v v' => Relation.ReflGen Alike v.1 v'.1 ∧ v.2 = v'.2) where
  receives m m' v target target' body := by
    obtain ⟨w, plan⟩ := v
    obtain ⟨received, after⟩ := indifferent.receives m m' w target target' body
    match plan with
    | [] | none :: _ => exact ⟨received, .single after, rfl⟩
    | some (e, true) :: _ => exact ⟨rfl, .single after, rfl⟩
    | some (e, false) :: _ => exact ⟨rfl, .refl, rfl⟩
  proceeds := by
    rintro q ⟨w, plan⟩ ⟨w', _⟩ other ⟨near, rfl⟩
    have answered : (host q w).1 = (host q w').1 ∧
        Relation.ReflGen Alike (host q w).2 (host q w').2 := by
      cases near with
      | refl => exact ⟨rfl, .refl⟩
      | single alike =>
        obtain ⟨answered, after⟩ := indifferent.proceeds q w w' other alike
        exact ⟨answered, .single after⟩
    match plan with
    | [] | none :: _ => exact ⟨answered.1, answered.2, rfl⟩
    | some (e, true) :: _ => exact ⟨rfl, answered.2, rfl⟩
    | some (e, false) :: _ => exact ⟨rfl, near, rfl⟩
  unsaved q v unsaved := by
    obtain ⟨w, plan⟩ := v
    match plan with
    | [] | none :: _ | some (e, true) :: _ => exact indifferent.unsaved q w unsaved
    | some (e, false) :: _ => rfl

/-- Credentials are held as in a world, and each tells the same secret when it is created. -/
def CredentialBackend.telling {ρ : Type} (k : Keeper ρ) (secret : String) :
    CredentialBackend (World ρ) where
  find user name w := w.answer k (.findCredential user name)
  create user name description w :=
    let (created, w) := w.create user name description
    (.ok { created with secret := some secret }, w)
  delete user id w := w.answer k (.deleteCredential user id)

theorem CredentialBackend.telling_alike {ρ : Type} (k : Keeper ρ) (secret secret' : String) :
    (telling k secret).AlikeButSecret (telling k secret') Eq where
  find := by
    rintro user name w _ rfl
    exact ⟨rfl, rfl⟩
  create := by
    rintro user name description w _ rfl
    exact ⟨.ok ⟨rfl, rfl⟩, rfl⟩
  delete := by
    rintro user id w _ rfl
    exact ⟨rfl, rfl⟩

/-- Two creations of one cluster, which both fail when the last of its objects is to be applied. -/
theorem Deployment.secret_confined_sample :
    let d := Deployment.sample
    let c := Cluster.completeSample .nil
    let w : World Records := { secretless := true, records := [(c.uuid, c)] }
    let lost : Option (Error × Bool) := some (.kube .unanswered, true)
    let v := (w, List.replicate 17 none ++ [lost])
    let b := CredentialBackend.telling .memory "one"
    let b' := CredentialBackend.telling .memory "another"
    let host := faltering (World.answer .memory)
    let ended := d.creation c host b v w
    let ended' := d.creation c host b' v w
    (Indifferent host (d.secretRef c) (fun v => v.1.records)
        (fun v v' => Relation.ReflGen (World.AlikeBut (d.secretRef c)) v.1 v'.1 ∧ v.2 = v'.2) ∧
      b.AlikeButSecret b' Eq ∧ ended.1 = .error (.kube .unanswered) ∧
      (ended.2.2.filterMap Exchange.printed).length = 1 ∧ ended.2.2.length = 20) ∧
    Deployment.Confined (d.secretRef c) (fun v => v.1.records) v ended ended' := by
  intro d c w lost v b b' host ended ended'
  have indifferent := (World.indifferent .memory (d.secretRef c)).faltering
  have alike := CredentialBackend.telling_alike .memory "one" "another"
  have ends : ended.1 = .error (.kube .unanswered) ∧
      (ended.2.2.filterMap Exchange.printed).length = 1 ∧ ended.2.2.length = 20 := by
    decide +kernel
  exact ⟨⟨indifferent, alike, ends⟩, Deployment.secret_confined d c indifferent alike v rfl⟩

end ClusterLifecycle
