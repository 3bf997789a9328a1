import ClusterLifecycle.Proofs.Lookups
import ClusterLifecycle.Proofs.Runs
import ClusterLifecycle.World

/-!
A world in memory while calls to it may fail.

* what placing and removing an object does to the others;
* `World.held`: the credentials of a cluster, and what issuing and deleting does to them;
* `World.MayAnswer`: a call is answered, or fails before or after it has taken effect;
* one lemma for each call on what holds afterwards.
-/

namespace ClusterLifecycle

namespace Json

theorem lookup_setField_of_ne {name other : String} (h : other ≠ name) (value : Json)
    (fields : List (String × Json)) :
    (setField name value fields).reverse.lookup other = fields.reverse.lookup other := by
  have differs : (other == name) = false := beq_eq_false_iff_ne.2 h
  induction fields with
  | nil => simp only [setField, List.reverse_singleton, List.lookup_cons, differs, List.reverse_nil]
  | cons f rest ih =>
    obtain ⟨n, v⟩ := f
    by_cases hn : n = name
    · subst hn
      simp only [setField, ↓reduceIte, List.reverse_cons, List.lookup_append, List.lookup_cons,
        differs]
    · simp only [setField, hn, ↓reduceIte, List.reverse_cons, List.lookup_append, ih]

theorem lookup_setField_of_absent {name : String} (value : Json) {fields : List (String × Json)}
    (absent : fields.reverse.lookup name = none) :
    (setField name value fields).reverse.lookup name = some value := by
  induction fields with
  | nil => simp [setField]
  | cons f rest ih =>
    obtain ⟨n, v⟩ := f
    simp only [List.reverse_cons, List.lookup_append, Option.or_eq_none_iff] at absent
    have hn : n ≠ name := by rintro rfl; simp at absent
    simp [setField, hn, List.lookup_append, ih absent.1]

theorem get?_set_of_ne {name other : String} (h : other ≠ name) (j value : Json) :
    (j.set name value).get? other = j.get? other :=
  lookup_setField_of_ne h value j.fields

theorem get?_set_of_absent {name : String} {j : Json} (value : Json)
    (absent : j.get? name = none) : (j.set name value).get? name = some value :=
  lookup_setField_of_absent value absent

/-- Fields are set without regard to those of other names. -/
theorem get?_foldl_set {name : String} {fields : List (String × Json)}
    (other : name ∉ fields.map (·.1)) (j : Json) :
    (fields.foldl (fun j field => j.set field.1 field.2) j).get? name = j.get? name := by
  induction fields generalizing j with
  | nil => rfl
  | cons f rest ih =>
    simp only [List.map_cons, List.mem_cons, not_or] at other
    rw [List.foldl_cons, ih other.2]
    exact get?_set_of_ne other.1 _ _

end Json

namespace Manifest

/-- The body with what has been reported about the object. -/
def bodyWith (m : Manifest) : Option Json → Json
  | some status => m.toJson.set "status" status
  | none => m.toJson

/-- The manifest says nothing of the object's status. -/
def Plain (m : Manifest) : Prop := m.toJson.get? "status" = none

theorem Plain.status_bodyWith {m : Manifest} (plain : m.Plain) (status : Option Json) :
    (m.bodyWith status).get? "status" = status := by
  cases status with
  | none => exact plain
  | some s => exact Json.get?_set_of_absent s plain

theorem plain_of_names {m : Manifest} {names : List String} (h : m.content.map (·.1) ⊆ names)
    (other : "status" ∉ names) : m.Plain :=
  Json.get?_foldl_set (fun mem => other (h mem)) _

end Manifest

namespace World

variable {ρ : Type} {w : World ρ}

@[simp] theorem object?_put_self (w : World ρ) (t : ObjectRef) (body : Json) :
    (w.put t body).object? t = some body := by
  simp [object?, put]

theorem object?_put_of_ne {t u : ObjectRef} (h : u ≠ t) (w : World ρ) (body : Json) :
    (w.put t body).object? u = w.object? u := by
  have hne : (u == t) = false := by simpa using h
  simp only [object?, put, List.lookup_cons, hne]
  exact lookup_filter_ne h w.objects

@[simp] theorem object?_remove_self (w : World ρ) (t : ObjectRef) :
    (w.remove t).object? t = none :=
  lookup_filter_self t w.objects

theorem object?_remove_of_ne {t u : ObjectRef} (h : u ≠ t) (w : World ρ) :
    (w.remove t).object? u = w.object? u :=
  lookup_filter_ne h w.objects

/-- What is reported about an object. -/
def status? (w : World ρ) (t : ObjectRef) : Option Json := (w.object? t).bind (·.get? "status")

/-- The world after a manifest has been applied. -/
def place (w : World ρ) (m : Manifest) : World ρ := w.put m.target (w.applied m)

theorem applied_eq (w : World ρ) (m : Manifest) :
    w.applied m = m.bodyWith (w.status? m.target) := by
  unfold applied status?
  cases (w.object? m.target).bind fun body => body.get? "status" <;> rfl

theorem object?_place_self (w : World ρ) (m : Manifest) :
    (w.place m).object? m.target = some (m.bodyWith (w.status? m.target)) := by
  rw [place, object?_put_self, applied_eq]

theorem object?_place_of_ne {m : Manifest} {t : ObjectRef} (h : t ≠ m.target) (w : World ρ) :
    (w.place m).object? t = w.object? t :=
  object?_put_of_ne h w _

theorem status?_place {m : Manifest} (plain : m.Plain) (w : World ρ) (t : ObjectRef) :
    (w.place m).status? t = w.status? t := by
  by_cases h : t = m.target
  · subst h
    rw [status?, object?_place_self]
    exact plain.status_bodyWith _
  · rw [status?, object?_place_of_ne h, status?]

/-- The credentials that a user holds under a name. -/
def held (w : World ρ) (user name : String) : List ApplicationCredential :=
  (w.credentials.filter fun h => h.user = user && h.credential.name = name).map (·.credential)

theorem find?_eq_head? (w : World ρ) (user name : String) :
    w.find? user name = (w.held user name).head? := by
  simp [find?, held, List.head?_filter]

theorem held_eq_nil_iff (w : World ρ) (user name : String) :
    w.held user name = [] ↔ w.find? user name = none := by
  rw [find?_eq_head?, List.head?_eq_none_iff]

/-- Where no more than one is held, what is found is all that is held. -/
theorem held_of_find? {user name : String} {a : ApplicationCredential}
    (single : (w.held user name).length ≤ 1) (found : w.find? user name = some a) :
    w.held user name = [a] := by
  rw [find?_eq_head?] at found
  obtain ⟨rest, h⟩ := List.head?_eq_some_iff.1 found
  rw [h, List.length_cons] at single
  have : rest = [] := List.length_eq_zero_iff.1 (by omega)
  rw [h, this]

/-- What is created is all that is then held under the name. -/
theorem held_create (w : World ρ) (user name description : String) :
    (w.create user name description).2.held user name =
      [(w.create user name description).1] := by
  have others : (w.credentials.filter fun h =>
        !(h.user = user && h.credential.name = name)).filter
      (fun h => h.user = user && h.credential.name = name) = [] := by
    rw [List.filter_filter, List.filter_eq_nil_iff]
    intro h _
    simp
  simp only [held, create, decide_true, Bool.and_self, List.filter_cons_of_pos, others,
    List.map_cons, List.map_nil]

/-- Deleting the only credential held under a name leaves none. -/
theorem held_revoke {user name : String} {credential : ApplicationCredential}
    (only : w.held user name = [credential]) :
    (w.revoke user credential.id).held user name = [] := by
  simp only [held, revoke, List.map_eq_nil_iff, List.filter_eq_nil_iff, List.mem_filter]
  rintro h ⟨member, kept⟩ mine
  have : h.credential ∈ w.held user name :=
    List.mem_map.2 ⟨h, List.mem_filter.2 ⟨member, mine⟩, rfl⟩
  rw [only, List.mem_singleton] at this
  simp only [Bool.and_eq_true, decide_eq_true_eq] at mine
  simp [mine.1, this] at kept

theorem isHeld_of_held {user name : String} {credential : ApplicationCredential}
    (h : credential ∈ w.held user name) : w.isHeld user credential.id = true := by
  obtain ⟨x, hx, rfl⟩ := List.mem_map.1 h
  obtain ⟨member, mine⟩ := List.mem_filter.1 hx
  simp only [Bool.and_eq_true, decide_eq_true_eq] at mine
  exact List.any_eq_true.2 ⟨x, member, by simp [mine.1]⟩

/-- What fetching an object of a cluster gives. -/
def fetched (w : World ρ) (d : Deployment) (kind : ResourceKind) (c : Cluster)
    (g : Option NodeGroup) : Result ObservedObject := do
  let target ← d.target kind c g
  return ⟨target, ← notFound target.kind target.name (w.object? target)⟩

theorem fetched_of_some {d : Deployment} {kind : ResourceKind} {c : Cluster} {g : Option NodeGroup}
    {t : ObjectRef} {body : Json} (target : d.target kind c g = .ok t)
    (there : w.object? t = some body) : w.fetched d kind c g = .ok ⟨t, body⟩ := by
  rw [fetched, target]
  change (notFound t.kind t.name (w.object? t) >>= fun data =>
    (pure ⟨t, data⟩ : Result ObservedObject)) = _
  rw [there]
  rfl

theorem fetched_of_none {d : Deployment} {kind : ResourceKind} {c : Cluster} {g : Option NodeGroup}
    {t : ObjectRef} (target : d.target kind c g = .ok t) (absent : w.object? t = none) :
    w.fetched d kind c g = .error (.notFound t.kind t.name) := by
  rw [fetched, target]
  change (notFound t.kind t.name (w.object? t) >>= fun data =>
    (pure ⟨t, data⟩ : Result ObservedObject)) = _
  rw [absent]
  rfl

/-- A call is answered as the world answers, or it fails in one of the given ways, before it has
taken effect or after. -/
inductive MayAnswer (faults : Error → Prop) (k : Keeper ρ) (q : ServiceRequest) (w : World ρ) :
    q.Answer → World ρ → Prop
  | answered : MayAnswer faults k q w (w.answer k q).1 (w.answer k q).2
  | refused (e : Error) (fault : faults e) : MayAnswer faults k q w (q.refuse e) w
  | lost (e : Error) (fault : faults e) :
      MayAnswer faults k q w (q.refuse e) (w.answer k q).2

/-- A failure that says nothing of absence: that is for the world alone to say. -/
def Interruption (e : Error) : Prop := e.isNotFound = false

variable {α : Type} {faults : Error → Prop} {k : Keeper ρ} {G : ServiceRequest → World ρ → Prop}
  {J : World ρ → Prop} {E : Error → World ρ → Prop}

/-- The request is one that `G` admits, and what it leaves is as `J` says. -/
def Admits (G : ServiceRequest → World ρ → Prop) (J : World ρ → Prop) :
    Program.Conduct services (World ρ) :=
  fun q w _ w' => G q w ∧ J w'

/-- An interruption is never taken for an absence. -/
theorem fails_of_honest (honest : ∀ e, faults e → Interruption e)
    (fails : ∀ e s, faults e → J s → E e s) (P : World ρ → Prop) (e : Error) (s : World ρ)
    (fault : faults e) (hs : J s) : if e.isNotFound then P s else E e s := by
  rw [if_neg (by simp [show e.isNotFound = false from honest e fault])]
  exact fails e s fault hs

/-- What every exchange leaves as `J` says is so wherever the run stands. -/
theorem throughout {R : Program.Conduct services (World ρ)} {Q : α → World ρ → Prop}
    {p p' : Program services α} {w' : World ρ} (start : J w) (h : p.Ensures R (Admits G J) Q w)
    (reached : Program.Reaches R p w p' w') : J w' :=
  Program.Ensures.throughout start
    (h.mono (fun _ _ _ _ kept => kept.2) fun _ _ finished => finished) reached

open Operation

theorem ensures_ask {T : Program.Conduct services (World ρ)} {q : ServiceRequest}
    {Q : q.Answer → World ρ → Prop}
    (answered : T q w (w.answer k q).1 (w.answer k q).2 ∧ Q (w.answer k q).1 (w.answer k q).2)
    (refused : ∀ e, faults e → T q w (q.refuse e) w ∧ Q (q.refuse e) w)
    (lost : ∀ e, faults e →
      T q w (q.refuse e) (w.answer k q).2 ∧ Q (q.refuse e) (w.answer k q).2) :
    (ask q).Ensures (MayAnswer faults k) T Q w := by
  intro a w' h
  cases h with
  | answered => exact answered
  | refused e fault => exact refused e fault
  | lost e fault => exact lost e fault

section
variable (fails : ∀ e s, faults e → J s → E e s) (before : J w)
include fails before

theorem keeps_applyObject {m : Manifest} {P : Unit → World ρ → Prop}
    (admitted : G (.apply m) w) (after : J (w.place m)) (done : P () (w.place m)) :
    Keeps (MayAnswer faults k) (Admits G J) E P (applyObject m) w :=
  ensures_ask ⟨⟨admitted, after⟩, done⟩ (fun e h => ⟨⟨admitted, before⟩, fails e _ h before⟩)
    fun e h => ⟨⟨admitted, after⟩, fails e _ h after⟩

theorem keeps_deleteObject {t : ObjectRef} {P : Unit → World ρ → Prop}
    (admitted : G (.delete t) w) (after : J (w.remove t)) (done : P () (w.remove t)) :
    Keeps (MayAnswer faults k) (Admits G J) E P (deleteObject t) w :=
  ensures_ask ⟨⟨admitted, after⟩, done⟩ (fun e h => ⟨⟨admitted, before⟩, fails e _ h before⟩)
    fun e h => ⟨⟨admitted, after⟩, fails e _ h after⟩

theorem keeps_getObject {t : ObjectRef} {P : Json → World ρ → Prop} (admitted : G (.get t) w)
    (found : ∀ body, w.object? t = some body → P body w)
    (absent : w.object? t = none → E (.notFound t.kind t.name) w) :
    Keeps (MayAnswer faults k) (Admits G J) E P (getObject t) w := by
  have failed (e : Error) (h : faults e) := fails e w h before
  refine ensures_ask ⟨⟨admitted, before⟩, ?_⟩ (fun e h => ⟨⟨admitted, before⟩, failed e h⟩)
    fun e h => ⟨⟨admitted, before⟩, failed e h⟩
  change Ends E P (notFound t.kind t.name (w.object? t)) w
  cases h : w.object? t with
  | some body => exact found body h
  | none => exact absent h

theorem keeps_findCredential {user name : String} {P : ApplicationCredential → World ρ → Prop}
    (admitted : G (.findCredential user name) w)
    (found : ∀ credential, w.find? user name = some credential → P credential w)
    (absent : w.find? user name = none → E (.notFound "ApplicationCredential" name) w) :
    Keeps (MayAnswer faults k) (Admits G J) E P (findCredential user name) w := by
  have failed (e : Error) (h : faults e) := fails e w h before
  refine ensures_ask ⟨⟨admitted, before⟩, ?_⟩ (fun e h => ⟨⟨admitted, before⟩, failed e h⟩)
    fun e h => ⟨⟨admitted, before⟩, failed e h⟩
  change Ends E P (notFound "ApplicationCredential" name (w.find? user name)) w
  cases h : w.find? user name with
  | some credential => exact found credential h
  | none => exact absent h

theorem keeps_createCredential {user name description : String}
    {P : ApplicationCredential → World ρ → Prop}
    (admitted : G (.createCredential user name description) w)
    (after : J (w.create user name description).2)
    (done : P (w.create user name description).1 (w.create user name description).2) :
    Keeps (MayAnswer faults k) (Admits G J) E P (createCredential user name description) w :=
  ensures_ask ⟨⟨admitted, after⟩, done⟩ (fun e h => ⟨⟨admitted, before⟩, fails e _ h before⟩)
    fun e h => ⟨⟨admitted, after⟩, fails e _ h after⟩

/-- Deleting a credential that is held. -/
theorem keeps_deleteCredential {user id : String} {P : Unit → World ρ → Prop}
    (is : w.isHeld user id = true) (admitted : G (.deleteCredential user id) w)
    (after : J (w.revoke user id)) (done : P () (w.revoke user id)) :
    Keeps (MayAnswer faults k) (Admits G J) E P (deleteCredential user id) w := by
  have effect : w.answer k (.deleteCredential user id) = (.ok (), w.revoke user id) := by
    simp only [answer, is, ↓reduceIte]
  refine ensures_ask ?_ (fun e h => ⟨⟨admitted, before⟩, fails e _ h before⟩) ?_
  · rw [effect]
    exact ⟨⟨admitted, after⟩, done⟩
  · rw [effect]
    exact fun e h => ⟨⟨admitted, after⟩, fails e _ h after⟩

/-- A record is saved, or its keeper says why not. -/
theorem keeps_saveCluster {c : Cluster} {P : Unit → World ρ → Prop}
    (admitted : G (.saveCluster c) w) (after : J { w with records := (k.save c w.records).2 })
    (done : Ends E P (k.save c w.records).1 { w with records := (k.save c w.records).2 }) :
    Keeps (MayAnswer faults k) (Admits G J) E P (saveCluster c) w :=
  ensures_ask ⟨⟨admitted, after⟩, done⟩ (fun e h => ⟨⟨admitted, before⟩, fails e _ h before⟩)
    fun e h => ⟨⟨admitted, after⟩, fails e _ h after⟩

theorem keeps_saveNodeGroup {id : Uuid} {g : NodeGroup} {P : Unit → World ρ → Prop}
    (admitted : G (.saveNodeGroup id g) w)
    (after : J { w with records := (k.saveNodeGroup id g w.records).2 })
    (done : Ends E P (k.saveNodeGroup id g w.records).1
      { w with records := (k.saveNodeGroup id g w.records).2 }) :
    Keeps (MayAnswer faults k) (Admits G J) E P (saveNodeGroup id g) w :=
  ensures_ask ⟨⟨admitted, after⟩, done⟩ (fun e h => ⟨⟨admitted, before⟩, fails e _ h before⟩)
    fun e h => ⟨⟨admitted, after⟩, fails e _ h after⟩

theorem keeps_delete {d : Deployment} {kind : ResourceKind} {c : Cluster} {g : Option NodeGroup}
    {P : Unit → World ρ → Prop} (unnamed : ∀ e, d.target kind c g = .error e → E e w)
    (named : ∀ t, d.target kind c g = .ok t →
      G (.delete t) w ∧ J (w.remove t) ∧ P () (w.remove t)) :
    Keeps (MayAnswer faults k) (Admits G J) E P (d.delete kind c g) w := by
  unfold Deployment.delete
  rw [keeps_bind, keeps_result]
  cases h : d.target kind c g with
  | error e => exact unnamed e h
  | ok t =>
    obtain ⟨admitted, after, done⟩ := named t h
    exact keeps_deleteObject fails before admitted after done

theorem keeps_fetch {d : Deployment} {kind : ResourceKind} {c : Cluster} {g : Option NodeGroup}
    {P : ObservedObject → World ρ → Prop} (admitted : ∀ t, G (.get t) w)
    (done : Ends E P (w.fetched d kind c g) w) :
    Keeps (MayAnswer faults k) (Admits G J) E P (d.fetch kind c g) w := by
  unfold Deployment.fetch
  rw [keeps_bind, keeps_result]
  cases h : d.target kind c g with
  | error e =>
    rw [fetched, h] at done
    exact done
  | ok t =>
    change Keeps _ _ E P (getObject t >>= fun body => pure ⟨t, body⟩) w
    rw [keeps_bind]
    refine keeps_getObject fails before (admitted t) ?_ ?_
    · intro body there
      rw [fetched_of_some h there] at done
      exact done
    · intro absent
      rw [fetched_of_none h absent] at done
      exact done

end

end World

end ClusterLifecycle
