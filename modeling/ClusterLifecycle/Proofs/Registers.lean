import ClusterLifecycle.Proofs.Runs
import Mathlib.Data.Fintype.EquivFin
import Mathlib.Data.Set.Finite.Lattice
import Mathlib.Data.String.Basic

/-!
An identity service that holds no more than one credential of a user under a name, and how it
answers.

* `Register`: what it holds, and what creating and deleting do to that;
* `Register.Serves`: a call takes effect and is answered truly;
* `Register.MayAnswer`: or it fails, before it has taken effect or after;
* `Program.Completes`: a program that always gets an answer, and how it ends.
-/

namespace ClusterLifecycle

/-- The credentials that are held, by user and name. -/
structure Register where
  held : String → String → Option ApplicationCredential
  named : ∀ {user name a}, held user name = some a → a.name = name
  /-- What the identity of a credential stands for. -/
  apart : ∀ {user name name' a b},
    held user name = some a → held user name' = some b → a.id = b.id → name = name'
  finite : ∀ user, {id | ∃ name a, held user name = some a ∧ a.id = id}.Finite

namespace Register

variable {r r' r'' : Register} {user name id : String} {a : ApplicationCredential} {e : Error}

/-- The user holds a credential of that identity. -/
def Knows (r : Register) (user id : String) : Prop :=
  ∃ name a, r.held user name = some a ∧ a.id = id

def empty : Register where
  held _ _ := none
  named := nofun
  apart := nofun
  finite _ := by simp

/-- One more credential, in the place of any of that name. -/
def add (r : Register) (user : String) (a : ApplicationCredential) (fresh : ¬r.Knows user a.id) :
    Register where
  held u n := if u = user ∧ n = a.name then some a else r.held u n
  named := by
    intro u n b h
    split at h
    case isTrue here => exact Option.some.inj h ▸ here.2.symm
    case isFalse => exact r.named h
  apart := by
    intro u n n' b b' h h' same
    split at h <;> split at h'
    case isTrue.isTrue here here' => exact here.2.trans here'.2.symm
    case isTrue.isFalse here _ =>
      cases h
      exact absurd ⟨n', b', here.1 ▸ h', same.symm⟩ fresh
    case isFalse.isTrue _ here =>
      cases h'
      exact absurd ⟨n, b, here.1 ▸ h, same⟩ fresh
    case isFalse.isFalse => exact r.apart h h' same
  finite u := by
    refine ((r.finite u).insert a.id).subset ?_
    rintro _ ⟨n, b, h, rfl⟩
    split at h
    case isTrue => exact .inl (congrArg _ (Option.some.inj h).symm)
    case isFalse => exact .inr ⟨n, b, h, rfl⟩

/-- Without the user's credential of that identity. -/
def drop (r : Register) (user id : String) : Register where
  held u n := (r.held u n).filter fun a => !(u = user && a.id = id)
  named h := r.named (Option.filter_eq_some_iff.1 h).1
  apart h h' := r.apart (Option.filter_eq_some_iff.1 h).1 (Option.filter_eq_some_iff.1 h').1
  finite u := by
    refine (r.finite u).subset ?_
    rintro _ ⟨n, a, h, rfl⟩
    exact ⟨n, a, (Option.filter_eq_some_iff.1 h).1, rfl⟩

/-- There is always an identity that is not yet given. -/
theorem exists_fresh (r : Register) (user : String) : ∃ id, ¬r.Knows user id :=
  (r.finite user).exists_notMem

/-- Nothing is changed but what the user holds under the name. -/
def Spares (r r' : Register) (user name : String) : Prop :=
  ∀ u n, ¬(u = user ∧ n = name) → r'.held u n = r.held u n

theorem Spares.refl (r : Register) (user name : String) : r.Spares r user name := fun _ _ _ => rfl

theorem Spares.trans (h : r.Spares r' user name) (h' : r'.Spares r'' user name) :
    r.Spares r'' user name :=
  fun u n other => (h' u n other).trans (h u n other)

theorem held_add (fresh : ¬r.Knows user a.id) : (r.add user a fresh).held user a.name = some a :=
  if_pos ⟨rfl, rfl⟩

theorem spares_add (fresh : ¬r.Knows user a.id) : r.Spares (r.add user a fresh) user a.name :=
  fun _ _ other => if_neg other

theorem held_drop (there : r.held user name = some a) :
    (r.drop user a.id).held user name = none := by
  simp [drop, there]

/-- An identity stands for one name only. -/
theorem spares_drop (there : r.held user name = some a) :
    r.Spares (r.drop user a.id) user name := by
  intro u n other
  rw [drop]
  dsimp only
  cases h : r.held u n with
  | none => rfl
  | some b =>
    refine Option.filter_eq_some_iff.2 ⟨rfl, ?_⟩
    have distinct : u = user → b.id ≠ a.id := by
      rintro rfl same
      exact other ⟨rfl, r.apart h there same⟩
    simpa [imp_iff_not_or] using distinct

/-- A call takes effect and is answered truly. A credential that is created is as `apt` says; that
it does not exist is said of nothing that does. Nothing but credentials is served. -/
inductive Serves (apt : ApplicationCredential → Prop) : Program.Conduct services Register
  | found {r : Register} {user name : String} {a shown : ApplicationCredential}
      (there : r.held user name = some a) (id : shown.id = a.id) (named : shown.name = a.name) :
      Serves apt (.findCredential user name) r (.ok shown) r
  | unfound {r : Register} {user name : String} {e : Error} (absent : r.held user name = none)
      (missing : e.isNotFound = true) : Serves apt (.findCredential user name) r (.error e) r
  | created {r : Register} {user name description : String} {a : ApplicationCredential}
      (free : r.held user name = none) (named : a.name = name) (fresh : ¬r.Knows user a.id)
      (fit : apt a) :
      Serves apt (.createCredential user name description) r (.ok a) (r.add user a fresh)
  | taken {r : Register} {user name description : String} {e : Error}
      (there : (r.held user name).isSome) (present : e.isNotFound = false) :
      Serves apt (.createCredential user name description) r (.error e) r
  | deleted {r : Register} {user id : String} (there : r.Knows user id) :
      Serves apt (.deleteCredential user id) r (.ok ()) (r.drop user id)
  | undeleted {r : Register} {user id : String} {e : Error} (absent : ¬r.Knows user id)
      (missing : e.isNotFound = true) : Serves apt (.deleteCredential user id) r (.error e) r

/-- A call is served, or it fails, before it has taken effect or after; what has failed does not say
that anything does not exist. A created credential may come without its secret. -/
inductive MayAnswer (q : ServiceRequest) (r : Register) : q.Answer → Register → Prop
  | served {a : q.Answer} {r' : Register} (serves : Serves (fun _ => True) q r a r') :
      MayAnswer q r a r'
  | refused (e : Error) (failure : e.isNotFound = false) : MayAnswer q r (q.refuse e) r
  | lost (e : Error) (failure : e.isNotFound = false) {a : q.Answer} {r' : Register}
      (serves : Serves (fun _ => True) q r a r') : MayAnswer q r (q.refuse e) r'

/-- Nothing fails, and a credential comes with its secret. -/
abbrev Healthy : Program.Conduct services Register := Serves fun a => a.secret.isSome = true

section
variable {description : String}

theorem MayAnswer.find {found : (ServiceRequest.findCredential user name).Answer}
    (h : MayAnswer _ r found r') :
    r' = r ∧ (∀ shown, found = .ok shown → ∃ a, r.held user name = some a ∧ shown.id = a.id) ∧
      ∀ e, found = .error e → e.isNotFound = true → r.held user name = none := by
  cases h with
  | served serves =>
    cases serves with
    | found there id => exact ⟨rfl, by rintro _ ⟨⟩; exact ⟨_, there, id⟩, nofun⟩
    | unfound absent => exact ⟨rfl, nofun, fun _ _ _ => absent⟩
  | refused e failure =>
    refine ⟨rfl, nofun, ?_⟩
    rintro _ ⟨⟩ missing
    cases failure.symm.trans missing
  | lost e failure serves =>
    cases serves <;>
    · refine ⟨rfl, nofun, ?_⟩
      rintro _ ⟨⟩ missing
      cases failure.symm.trans missing

/-- What has been found is deleted, or its deletion has failed. -/
theorem MayAnswer.delete {deleted : (ServiceRequest.deleteCredential user a.id).Answer}
    (there : r.held user name = some a) (h : MayAnswer _ r deleted r') :
    r.Spares r' user name ∧
      ((deleted = .ok () ∧ r'.held user name = none) ∨
        ∃ e, deleted = .error e ∧ e.isNotFound = false) := by
  have known : r.Knows user a.id := ⟨name, a, there, rfl⟩
  cases h with
  | served serves =>
    cases serves with
    | deleted => exact ⟨spares_drop there, .inl ⟨rfl, held_drop there⟩⟩
    | undeleted absent => exact absurd known absent
  | refused e failure => exact ⟨.refl r user name, .inr ⟨e, rfl, failure⟩⟩
  | lost e failure serves =>
    cases serves with
    | deleted => exact ⟨spares_drop there, .inr ⟨e, rfl, failure⟩⟩
    | undeleted absent => exact absurd known absent

theorem MayAnswer.create {created : (ServiceRequest.createCredential user name description).Answer}
    (h : MayAnswer _ r created r') :
    r.Spares r' user name ∧ ∀ a, created = .ok a → r'.held user name = some a := by
  cases h with
  | served serves =>
    cases serves with
    | created free named fresh =>
      subst named
      exact ⟨spares_add fresh, by rintro _ ⟨⟩; exact held_add fresh⟩
    | taken => exact ⟨.refl r user name, nofun⟩
  | refused e failure => exact ⟨.refl r user name, nofun⟩
  | lost e failure serves =>
    cases serves with
    | created free named fresh =>
      subst named
      exact ⟨spares_add fresh, nofun⟩
    | taken => exact ⟨.refl r user name, nofun⟩

end

end Register

namespace Program

variable {I : Interface} {σ α : Type}

/-- Every request gets an answer, and every end is as `Q` says. -/
def Completes (R : Conduct I σ) (Q : α → σ → Prop) : Program I α → σ → Prop
  | done a, s => Q a s
  | ask q next, s => (∃ a s', R q s a s') ∧ ∀ a s', R q s a s' → (next a).Completes R Q s'

end Program

end ClusterLifecycle
