import ClusterLifecycle.Proofs.Separation
import ClusterLifecycle.Proofs.SideBySide
import ClusterLifecycle.Proofs.Territory
import ClusterLifecycle.Proofs.Worlds

/-!
Operations on different clusters do not interfere.

* `Site`: a world whose identity service keeps an account for each user and name;
* `Site.SameOf`: two sites show the same of a cluster;
* `Site.Twin`: what the request of one cluster keeps for that cluster, and for every other;
* `operations_apart`: side by side in any order, each operation runs as it does alone;
* `IdentityService.tally`: a service that gives each name its own ids.
-/

namespace ClusterLifecycle

open Program

namespace World

variable {ρ : Type} {w w' : World ρ} {id : Uuid}

theorem object?_place_congr (same : ∀ t, t.Bears id → w.object? t = w'.object? t) (m : Manifest)
    (t : ObjectRef) (bears : t.Bears id) : (w.place m).object? t = (w'.place m).object? t := by
  by_cases is : t = m.target
  · subst is
    rw [object?_place_self, object?_place_self, status?, status?, same _ bears]
  · rw [object?_place_of_ne is, object?_place_of_ne is, same t bears]

theorem object?_remove_congr (same : ∀ t, t.Bears id → w.object? t = w'.object? t)
    (t' t : ObjectRef) (bears : t.Bears id) :
    (w.remove t').object? t = (w'.remove t').object? t := by
  by_cases is : t = t'
  · rw [is, object?_remove_self, object?_remove_self]
  · rw [object?_remove_of_ne is, object?_remove_of_ne is, same t bears]

end World

/-- A world in which the credentials are kept by an identity service. -/
structure Site (ρ τ : Type) where
  world : World ρ
  accounts : String → String → τ

namespace Site

variable {ρ τ : Type}

def withAccount (s : Site ρ τ) (user name : String) (account : τ) : Site ρ τ :=
  { s with accounts := fun u n => if u = user ∧ n = name then account else s.accounts u n }

def answer (ids : IdentityService τ) (k : Keeper ρ) :
    (q : ServiceRequest) → Site ρ τ → q.Answer × Site ρ τ
  | .findCredential user name, s => (ids.find user name (s.accounts user name), s)
  | .createCredential user name text, s =>
    let (r, account) := ids.create user name text (s.accounts user name)
    (r, s.withAccount user name account)
  | .deleteCredential user id, s =>
    let name := ids.nameOf user id
    let (r, account) := ids.delete user id (s.accounts user name)
    (r, s.withAccount user name account)
  | q, s =>
    let (a, world) := s.world.answer k q
    (a, { s with world })

/-- A call is answered as the site answers, or it fails in one of the given ways, before it has
taken effect or after. -/
inductive MayAnswer (ids : IdentityService τ) (k : Keeper ρ) (faults : Error → Prop)
    (q : ServiceRequest) (s : Site ρ τ) : q.Answer → Site ρ τ → Prop
  | answered : MayAnswer ids k faults q s (s.answer ids k q).1 (s.answer ids k q).2
  | refused (e : Error) (fault : faults e) : MayAnswer ids k faults q s (q.refuse e) s
  | lost (e : Error) (fault : faults e) :
      MayAnswer ids k faults q s (q.refuse e) (s.answer ids k q).2

/-- Both sites show the same of the cluster: its objects, its credential and its record. -/
structure SameOf (k : Keeper ρ) (c : Cluster) (s u : Site ρ τ) : Prop where
  objects : ∀ t, t.Bears c.uuid → s.world.object? t = u.world.object? t
  account : s.accounts c.userId c.uuid.toString = u.accounts c.userId c.uuid.toString
  record : k.load c.uuid s.world.records = k.load c.uuid u.world.records

variable {ids : IdentityService τ} {k : Keeper ρ} {c c' : Cluster} {s u : Site ρ τ}

theorem withAccount_self (s : Site ρ τ) (user name : String) (account : τ) :
    (s.withAccount user name account).accounts user name = account :=
  if_pos ⟨rfl, rfl⟩

theorem withAccount_of_ne {name name' : String} (other : name' ≠ name) (s : Site ρ τ)
    (user user' : String) (account : τ) :
    (s.withAccount user name account).accounts user' name' = s.accounts user' name' :=
  if_neg fun same => other same.2

theorem answer_createCredential (s : Site ρ τ) (user name text : String) :
    s.answer ids k (.createCredential user name text) =
      ((ids.create user name text (s.accounts user name)).1,
        s.withAccount user name (ids.create user name text (s.accounts user name)).2) := rfl

theorem answer_deleteCredential (s : Site ρ τ) (user id : String) :
    s.answer ids k (.deleteCredential user id) =
      ((ids.delete user id (s.accounts user (ids.nameOf user id))).1,
        s.withAccount user (ids.nameOf user id)
          (ids.delete user id (s.accounts user (ids.nameOf user id))).2) := rfl

/-- A record stays filed, whatever is asked. -/
theorem filed_answer {id : Uuid} (keeps : k.KeepsApart) (filed : k.Filed id s.world.records)
    (q : ServiceRequest) : k.Filed id (s.answer ids k q).2.world.records := by
  cases q with
  | saveCluster c => exact keeps.filed_save filed c
  | saveNodeGroup id' g => exact keeps.filed_saveNodeGroup filed id' g
  | _ => exact filed

/-- To the cluster `c` the site `u` is as `s` is, where the records of both clusters are filed. -/
structure Twin (k : Keeper ρ) (Same : ρ → ρ → Prop) (c c' : Cluster) (s u : Site ρ τ) : Prop where
  objects : ∀ t, t.Bears c.uuid → s.world.object? t = u.world.object? t
  account : s.accounts c.userId c.uuid.toString = u.accounts c.userId c.uuid.toString
  records : Same s.world.records u.world.records
  filed : k.Filed c.uuid s.world.records
  filed' : k.Filed c'.uuid s.world.records

section
variable {Same : ρ → ρ → Prop} {d : Deployment} {q : ServiceRequest} (keeps : k.KeepsApart)
  (separates : k.Separates c.uuid Same) (h : Twin k Same c c' s u)
include keeps separates h

/-- What is asked about the cluster is answered the same, and does the same. -/
theorem Twin.own (concerns : q.Concerns d ids c) :
    (s.answer ids k q).1 = (u.answer ids k q).1 ∧
      Twin k Same c c' (s.answer ids k q).2 (u.answer ids k q).2 := by
  have filed : k.Filed c.uuid (s.answer ids k q).2.world.records := filed_answer keeps h.filed q
  have filed' : k.Filed c'.uuid (s.answer ids k q).2.world.records := filed_answer keeps h.filed' q
  cases q with
  | apply m =>
    exact ⟨rfl, World.object?_place_congr h.objects m, h.account, h.records, filed, filed'⟩
  | delete t =>
    exact ⟨rfl, World.object?_remove_congr h.objects t, h.account, h.records, filed, filed'⟩
  | get t => exact ⟨congrArg (World.notFound t.kind t.name) (h.objects t concerns), h⟩
  | findCredential user name =>
    obtain ⟨rfl, rfl⟩ := concerns
    exact ⟨congrArg (ids.find c.userId c.uuid.toString) h.account, h⟩
  | createCredential user name text =>
    obtain ⟨rfl, rfl⟩ := concerns
    rw [answer_createCredential, h.account] at filed filed' ⊢
    rw [answer_createCredential]
    refine ⟨rfl, h.objects, ?_, h.records, filed, filed'⟩
    exact (withAccount_self s _ _ _).trans (withAccount_self u _ _ _).symm
  | deleteCredential user id =>
    obtain ⟨rfl, name⟩ := concerns
    rw [answer_deleteCredential, name, h.account] at filed filed' ⊢
    rw [answer_deleteCredential, name]
    refine ⟨rfl, h.objects, ?_, h.records, filed, filed'⟩
    exact (withAccount_self s _ _ _).trans (withAccount_self u _ _ _).symm
  | saveCluster c₁ =>
    obtain ⟨result, after⟩ := separates.save c₁ concerns h.records
    exact ⟨result, h.objects, h.account, after, filed, filed'⟩
  | saveNodeGroup id g =>
    cases concerns
    obtain ⟨result, after⟩ := separates.saveNodeGroup (keeps c.uuid).1 h.filed g h.records
    exact ⟨result, h.objects, h.account, after, filed, filed'⟩

/-- What is asked about another cluster does not show. -/
theorem Twin.foreign (apart : c.uuid ≠ c'.uuid) (concerns : q.Concerns d ids c') :
    Twin k Same c c' (s.answer ids k q).2 u := by
  have filed : k.Filed c.uuid (s.answer ids k q).2.world.records := filed_answer keeps h.filed q
  have filed' : k.Filed c'.uuid (s.answer ids k q).2.world.records := filed_answer keeps h.filed' q
  have names : c.uuid.toString ≠ c'.uuid.toString :=
    fun same => apart (Uuid.toString_injective same)
  cases q with
  | apply m =>
    refine ⟨fun t bears => ?_, h.account, h.records, filed, filed'⟩
    have other : t ≠ m.target := by
      rintro rfl
      rcases concerns with bears' | rfl
      · exact apart (bears.unique bears')
      · exact d.not_bears_shared c.uuid bears
    exact (World.object?_place_of_ne other s.world).trans (h.objects t bears)
  | delete t' =>
    refine ⟨fun t bears => ?_, h.account, h.records, filed, filed'⟩
    have other : t ≠ t' := by
      rintro rfl
      exact apart (bears.unique concerns)
    exact (World.object?_remove_of_ne other s.world).trans (h.objects t bears)
  | get t => exact h
  | findCredential user name => exact h
  | createCredential user name text =>
    obtain ⟨rfl, rfl⟩ := concerns
    exact ⟨h.objects, (withAccount_of_ne names s _ _ _).trans h.account, h.records, filed, filed'⟩
  | deleteCredential user id =>
    obtain ⟨rfl, name⟩ := concerns
    rw [answer_deleteCredential, name] at filed filed' ⊢
    exact ⟨h.objects, (withAccount_of_ne names s _ _ _).trans h.account, h.records, filed, filed'⟩
  | saveCluster c₁ =>
    have other : c₁.uuid ≠ c.uuid := fun same => apart (same.symm.trans concerns)
    exact ⟨h.objects, h.account, separates.elsewhere c₁ other h.records, filed, filed'⟩
  | saveNodeGroup id g =>
    cases concerns
    have after :=
      separates.saveNodeGroup_elsewhere (keeps c'.uuid).1 h.filed' apart.symm g h.records
    exact ⟨h.objects, h.account, after, filed, filed'⟩

end

section
variable {faults : Error → Prop} {q : ServiceRequest} {a : q.Answer} {s' : Site ρ τ}

theorem answers (replied : MayAnswer ids k faults q s a s') : ids.Answers q () a () := by
  cases q with
  | findCredential user name =>
    intro credential is
    cases replied with
    | answered => exact ids.found is
    | refused | lost => cases is
  | _ => trivial

variable {Same : ρ → ρ → Prop} {d : Deployment} (keeps : k.KeepsApart)
  (separates : k.Separates c.uuid Same) (h : Twin k Same c c' s u)
include keeps separates h

theorem Twin.answered (concerns : q.Concerns d ids c)
    (replied : MayAnswer ids k faults q s a s') :
    ∃ u', MayAnswer ids k faults q u a u' ∧ Twin k Same c c' s' u' := by
  obtain ⟨same, after⟩ := h.own keeps separates concerns
  cases replied with
  | answered => exact ⟨_, same ▸ .answered, after⟩
  | refused e fault => exact ⟨u, .refused e fault, h⟩
  | lost e fault => exact ⟨_, .lost e fault, after⟩

theorem Twin.elsewhere (apart : c.uuid ≠ c'.uuid) (concerns : q.Concerns d ids c')
    (replied : MayAnswer ids k faults q s a s') : Twin k Same c c' s' u := by
  have after := h.foreign keeps separates apart concerns
  cases replied with
  | answered | lost => exact after
  | refused => exact h

end

/-- The program has come from `s` to `x` with the exchanges in the log, and shows in `t` what it has
left of the cluster, as it may where nothing else runs. If nothing fails it can run in no other way
there. -/
def AsAlone {α : Type} (ids : IdentityService τ) (k : Keeper ρ) (faults : Error → Prop)
    (p : Program services α) (c : Cluster) (s : Site ρ τ) (x : Program services α) (t : Site ρ τ)
    (log : Log services) : Prop :=
  ∃ u, Reaches (Logged (MayAnswer ids k faults)) p (s, []) x (u, log) ∧ SameOf k c t u ∧
    ((∀ e, ¬faults e) → ∀ r, x = .done r → p.run (I := services) (answer ids k) s = (r, u))

theorem AsAlone.ends {α : Type} {faults : Error → Prop} {p : Program services α} {r : α}
    {t : Site ρ τ} {log : Log services} (h : AsAlone ids k faults p c s (.done r) t log)
    (faultless : ∀ e, ¬faults e) : (p.run (I := services) (answer ids k) s).1 = r := by
  obtain ⟨u, -, -, only⟩ := h
  rw [only faultless r rfl]

theorem asAlone {α β : Type} {faults : Error → Prop} {p x : Program services α}
    {p' x' : Program services β} {d : Deployment} {t : Site ρ τ} {log log' : Log services}
    (keeps : k.KeepsApart) (apart : c.uuid ≠ c'.uuid) (filed : k.Filed c.uuid s.world.records)
    (filed' : k.Filed c'.uuid s.world.records)
    (concerns : p.Ensures ids.Answers (fun q _ _ _ => q.Concerns d ids c) (fun _ _ => True) ())
    (concerns' : p'.Ensures ids.Answers (fun q _ _ _ => q.Concerns d ids c') (fun _ _ => True) ())
    (together : Together (MayAnswer ids k faults) p p' s x x' t log log') :
    AsAlone ids k faults p c s x t log ∧ ∀ e ∈ log, e.request.Concerns d ids c := by
  obtain ⟨-, Same, separates⟩ := keeps c.uuid
  have start : Twin k Same c c' s s :=
    ⟨fun _ _ => rfl, rfl, separates.refl s.world.records, filed, filed'⟩
  obtain ⟨⟨u, reached, twin⟩, all⟩ := together.alone (fun _ _ _ _ => answers)
    (fun _ _ _ _ _ mine h => h.answered keeps separates mine)
    (fun _ _ _ _ _ others h => h.elsewhere keeps separates apart others) concerns concerns' start
  refine ⟨⟨u, reached, ⟨twin.objects, twin.account, separates.load twin.records⟩, ?_⟩, all⟩
  rintro faultless r rfl
  refine run_of_reaches (fun q s a s' replied => ?_) reached
  cases replied with
  | answered => rfl
  | refused e fault | lost e fault => exact absurd fault (faultless e)

end Site

/-- Two operations on different clusters, side by side and with their calls in any order, each make
the same calls with the same results as alone, and leave the objects, the credential and the record
of their cluster as they do alone. What both write is the namespace, and both write the same. -/
theorem operations_apart {ρ τ : Type} (ids : IdentityService τ) {k : Keeper ρ}
    (keeps : k.KeepsApart) (faults : Error → Prop) (d : Deployment) (p p' : Procedure)
    {c c' : Cluster} (apart : c.uuid ≠ c'.uuid) {s t : Site ρ τ}
    (filed : k.Filed c.uuid s.world.records) (filed' : k.Filed c'.uuid s.world.records)
    {x x' : Program services (Result (Option NodeGroup) × Cluster)} {log log' : Log services}
    (together : Together (Site.MayAnswer ids k faults) ((p.pass d).run.run c)
      ((p'.pass d).run.run c') s x x' t log log') :
    Site.AsAlone ids k faults ((p.pass d).run.run c) c s x t log ∧
      Site.AsAlone ids k faults ((p'.pass d).run.run c') c' s x' t log' ∧
      ∀ e ∈ log, ∀ e' ∈ log', ∀ target, e.request.Writes target → e'.request.Writes target →
        e.request = .apply d.sharedManifest ∧ e'.request = .apply d.sharedManifest := by
  obtain ⟨left, concerns⟩ := Site.asAlone keeps apart filed filed' (p.concerns d ids c)
    (p'.concerns d ids c') together
  obtain ⟨right, concerns'⟩ := Site.asAlone keeps apart.symm filed' filed (p'.concerns d ids c')
    (p.concerns d ids c) together.symm
  refine ⟨left, right, ?_⟩
  intro e asked e' asked' target writes writes'
  exact (concerns e asked).shared apart (concerns' e' asked') writes writes'

namespace Tally

/-- The id of the credential of that number: as many marks, with the name behind them. -/
def id (n : Nat) (name : String) : String :=
  String.ofList (List.replicate n '+' ++ '/' :: name.toList)

def nameOf (id : String) : String := String.ofList ((id.toList.dropWhile (· = '+')).drop 1)

theorem nameOf_id (n : Nat) (name : String) : nameOf (id n name) = name := by
  have behind : (List.replicate n '+' ++ '/' :: name.toList).dropWhile (· = '+') =
      '/' :: name.toList := by
    rw [List.dropWhile_append_of_pos (by simp)]
    rfl
  rw [nameOf, id, String.toList_ofList, behind, List.drop_one, List.tail_cons, String.ofList_toList]

end Tally

/-- Keeps count of the credentials of each name: how many have been created, and which one of them
is held. -/
def IdentityService.tally : IdentityService (Nat × Option Nat) where
  find _ name account :=
    match account.2 with
    | some n => .ok { id := Tally.id n name, name }
    | none => .error (.notFound "ApplicationCredential" name)
  create _ name text account :=
    let n := account.1 + 1
    (.ok { id := Tally.id n name, name, description := some text, secret := some (Tally.id n "") },
      n, some n)
  delete _ id account :=
    if account.2.any fun n => Tally.id n (Tally.nameOf id) = id then (.ok (), account.1, none)
    else (.error (.notFound "ApplicationCredential" id), account)
  nameOf _ := Tally.nameOf
  found {_ name account _} h := by
    cases held : account.2 with
    | none =>
      rw [held] at h
      cases h
    | some n =>
      rw [held] at h
      cases h
      exact Tally.nameOf_id n name

theorem operations_apart_sample :
    let d := Deployment.sample
    let ids := IdentityService.tally
    let k := Keeper.files ⟨"clusters"⟩ ⟨2024, 2, 29, 23, 59, 60, 5⟩
    let faults (_ : Error) := False
    let c := Cluster.completeSample .nil
    let c' := Cluster.completeSample ⟨List.replicate 32 1, by decide⟩
    let g : NodeGroup :=
      { name := "extra", role := .worker, nodeCount := 1, status := .createInProgress }
    let p := (Procedure.createCluster.pass d).run.run c
    let p' := ((Procedure.addNodeGroup g).pass d).run.run c'
    let s : Site FileSystem (Nat × Option Nat) := ⟨{ records := {} }, fun _ _ => (0, none)⟩
    k.KeepsApart ∧ c.uuid ≠ c'.uuid ∧ k.Filed c.uuid s.world.records ∧
      k.Filed c'.uuid s.world.records ∧ ∃ r r' t log log',
        Together (Site.MayAnswer ids k faults) p p' s (.done r) (.done r') t log log' ∧
        r.1 = .ok none ∧ r'.1 = .ok none ∧
        Site.AsAlone ids k faults p c s (.done r) t log ∧
        Site.AsAlone ids k faults p' c' s (.done r') t log' := by
  intro d ids k faults c c' g p p' s
  have keeps : k.KeepsApart := Keeper.keepsApart_files _ (by decide)
  have apart : c.uuid ≠ c'.uuid := by decide
  have filed (id : Uuid) : k.Filed id s.world.records := Keeper.filed_empty _ _ id
  have acts (q : ServiceRequest) (s : Site FileSystem (Nat × Option Nat)) :
      Site.MayAnswer ids k faults q s (s.answer ids k q).1 (s.answer ids k q).2 := .answered
  -- The second operation runs between two calls of the first.
  obtain ⟨next, first⟩ : ∃ next, p = .ask (.apply d.sharedManifest) next := ⟨_, rfl⟩
  have both : Together (Site.MayAnswer ids k faults) p p' s (.ask (.apply d.sharedManifest) next)
      p' s [] [] := first ▸ .start
  obtain ⟨r', _, log', between⟩ := (both.left (acts _ s)).symm.runs acts
  obtain ⟨r, t, log, together⟩ := between.symm.runs acts
  obtain ⟨left, right, -⟩ := operations_apart ids keeps faults d .createCluster (.addNodeGroup g)
    apart (filed c.uuid) (filed c'.uuid) together
  have ends : r.1 = .ok none := by
    rw [← left.ends fun _ fault => fault]
    decide +kernel
  have ends' : r'.1 = .ok none := by
    rw [← right.ends fun _ fault => fault]
    decide +kernel
  exact ⟨keeps, apart, filed c.uuid, filed c'.uuid, r, r', t, log, log', together, ends, ends',
    left, right⟩

end ClusterLifecycle
