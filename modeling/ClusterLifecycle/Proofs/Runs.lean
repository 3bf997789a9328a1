import ClusterLifecycle.Lifecycle.StatusPass

/-!
What holds of every run of a program when its surroundings may answer in more than one way.

* `Program.Reaches`: where a program may stand after some of its requests;
* `Program.Ensures`: what every exchange and every end of a run is, by recursion on the program;
* `Ensures.at_reached`: the second speaks of everything that the first reaches;
* `Operation.Keeps`, `Pass.Keeps`: the same for operations and passes, which may fail.
-/

namespace ClusterLifecycle

namespace Program

variable {I : Interface} {σ α β : Type}

/-- How surroundings may answer a request, and the state that this leaves. -/
abbrev Conduct (I : Interface) (σ : Type) := (q : I.Request) → σ → I.Answer q → σ → Prop

/-- What is left of a program, and the state, after some of its requests. -/
inductive Reaches (R : Conduct I σ) : Program I α → σ → Program I α → σ → Prop
  | here (p : Program I α) (s : σ) : Reaches R p s p s
  | on {q : I.Request} {next : I.Answer q → Program I α} {s s' t : σ} {a : I.Answer q}
      {p : Program I α} (answered : R q s a s') (rest : Reaches R (next a) s' p t) :
      Reaches R (ask q next) s p t

/-- A run comes to make a request. -/
def Asks (R : Conduct I σ) (p : Program I α) (s : σ) (q : I.Request) (t : σ) : Prop :=
  ∃ next, Reaches R p s (ask q next) t

/-- Every exchange is as `T` says, and every end as `Q` says. -/
def Ensures (R T : Conduct I σ) (Q : α → σ → Prop) : Program I α → σ → Prop
  | done a, s => Q a s
  | ask q next, s => ∀ a s', R q s a s' → T q s a s' ∧ (next a).Ensures R T Q s'

variable {R T : Conduct I σ} {Q : α → σ → Prop} {s t : σ}

@[simp] theorem ensures_done (a : α) : (done a).Ensures R T Q s ↔ Q a s := Iff.rfl

@[simp] theorem ensures_ask (q : I.Request) (next : I.Answer q → Program I α) :
    (ask q next).Ensures R T Q s ↔
      ∀ a s', R q s a s' → T q s a s' ∧ (next a).Ensures R T Q s' := Iff.rfl

theorem ensures_bind (p : Program I β) (f : β → Program I α) :
    (p.bind f).Ensures R T Q s ↔ p.Ensures R T (fun b => (f b).Ensures R T Q) s := by
  induction p generalizing s with
  | done b => rfl
  | ask q next ih => simp only [ask_bind, ensures_ask, ih]

theorem Ensures.mono {T' : Conduct I σ} {Q' : α → σ → Prop} {p : Program I α}
    (h : p.Ensures R T Q s) (exchange : ∀ q s a s', T q s a s' → T' q s a s')
    (finish : ∀ a s, Q a s → Q' a s) : p.Ensures R T' Q' s := by
  induction p generalizing s with
  | done a => exact finish _ _ h
  | ask q next ih =>
    intro a s' answered
    obtain ⟨ht, rest⟩ := h a s' answered
    exact ⟨exchange _ _ _ _ ht, ih a rest⟩

theorem Ensures.imp {Q' : α → σ → Prop} {p : Program I α} (h : p.Ensures R T Q s)
    (finish : ∀ a s, Q a s → Q' a s) : p.Ensures R T Q' s :=
  h.mono (fun _ _ _ _ exchange => exchange) finish

theorem Ensures.at_reached {p p' : Program I α} (h : p.Ensures R T Q s)
    (reached : Reaches R p s p' t) : p'.Ensures R T Q t := by
  induction reached with
  | here => exact h
  | on answered _ ih => exact ih (h _ _ answered).2

theorem Ensures.at_end {p : Program I α} {a : α} (h : p.Ensures R T Q s)
    (reached : Reaches R p s (done a) t) : Q a t :=
  h.at_reached reached

/-- What holds at the start and after every exchange holds wherever the run stands. -/
theorem Ensures.throughout {p p' : Program I α} {J : σ → Prop} (start : J s)
    (h : p.Ensures R (fun _ _ _ s' => J s') Q s) (reached : Reaches R p s p' t) : J t := by
  induction reached with
  | here => exact start
  | on answered _ ih =>
    obtain ⟨hj, rest⟩ := h _ _ answered
    exact ih hj rest

/-- What every exchange keeps holds wherever the run stands. -/
theorem Ensures.carried {p p' : Program I α} {J : σ → Prop} (h : p.Ensures R T Q s)
    (keeps : ∀ q s a s', T q s a s' → J s → J s') (start : J s) (reached : Reaches R p s p' t) :
    J t := by
  induction reached with
  | here => exact start
  | on answered _ ih =>
    obtain ⟨exchange, rest⟩ := h _ _ answered
    exact ih rest (keeps _ _ _ _ exchange start)

theorem Ensures.asks {p : Program I α} {q : I.Request} (h : p.Ensures R T Q s)
    (asks : Asks R p s q t) {a : I.Answer q} {t' : σ} (answered : R q t a t') : T q t a t' := by
  obtain ⟨next, reached⟩ := asks
  exact (h.at_reached reached a t' answered).1

theorem Reaches.trans {p p' p'' : Program I α} {u : σ} (h : Reaches R p s p' t)
    (h' : Reaches R p' t p'' u) : Reaches R p s p'' u := by
  induction h with
  | here => exact h'
  | on answered _ ih => exact .on answered (ih h')

theorem Reaches.bind {p : Program I β} {f : β → Program I α} {b : β} {p' : Program I α} {u : σ}
    (first : Reaches R p s (done b) t) (rest : Reaches R (f b) t p' u) :
    Reaches R (p.bind f) s p' u := by
  generalize hd : done b = finished at first
  induction first with
  | here => rw [← hd]; exact rest
  | on answered _ ih => exact .on answered (ih rest hd)

/-- The run against surroundings that always act is one of those that may happen. -/
theorem reaches_run {answer : (q : I.Request) → σ → I.Answer q × σ}
    (acts : ∀ q s, R q s (answer q s).1 (answer q s).2) (p : Program I α) (s : σ) :
    Reaches R p s (done (p.run answer s).1) (p.run answer s).2 := by
  induction p generalizing s with
  | done a => exact .here _ _
  | ask q next ih => exact .on (acts q s) (ih _ _)

end Program

namespace Operation

variable {σ α β : Type} {R T : Program.Conduct services σ} {s : σ}
  {E : Error → σ → Prop} {P : α → σ → Prop}

/-- What holds where an operation ends: `P` where it succeeds, `E` where it fails. -/
def Ends (E : Error → σ → Prop) (P : α → σ → Prop) : Result α → σ → Prop
  | .ok a, s => P a s
  | .error e, s => E e s

/-- Every exchange of an operation is as `T` says, and its end as `P` or `E` says. -/
def Keeps (R T : Program.Conduct services σ) (E : Error → σ → Prop) (P : α → σ → Prop)
    (op : Operation α) (s : σ) : Prop :=
  op.run.Ensures R T (Ends E P) s

theorem keeps_result (r : Result α) : Keeps R T E P (liftM r) s ↔ Ends E P r s := by
  cases r <;> rfl

theorem keeps_bind (op : Operation β) (f : β → Operation α) :
    Keeps R T E P (op >>= f) s ↔ Keeps R T E (fun b => Keeps R T E P (f b)) op s := by
  unfold Keeps
  rw [ExceptT.run_bind, Program.bind_eq, Program.ensures_bind]
  refine iff_of_eq (congrArg (fun Q => Program.Ensures R T Q op.run s) ?_)
  funext r t
  cases r <;> rfl

theorem Keeps.mono {T' : Program.Conduct services σ} {E' : Error → σ → Prop}
    {P' : α → σ → Prop} {op : Operation α} (h : Keeps R T E P op s)
    (exchange : ∀ q s a s', T q s a s' → T' q s a s') (fails : ∀ e s, E e s → E' e s)
    (succeeds : ∀ a s, P a s → P' a s) : Keeps R T' E' P' op s := by
  apply Program.Ensures.mono h exchange
  intro r t hr
  cases r with
  | ok a => exact succeeds a t hr
  | error e => exact fails e t hr

theorem Keeps.imp {E' : Error → σ → Prop} {P' : α → σ → Prop} {op : Operation α}
    (h : Keeps R T E P op s) (fails : ∀ e s, E e s → E' e s) (succeeds : ∀ a s, P a s → P' a s) :
    Keeps R T E' P' op s :=
  h.mono (fun _ _ _ _ exchange => exchange) fails succeeds

theorem Keeps.imp_ok {P' : α → σ → Prop} {op : Operation α} (h : Keeps R T E P op s)
    (succeeds : ∀ a s, P a s → P' a s) : Keeps R T E P' op s :=
  h.imp (fun _ _ failed => failed) succeeds

theorem Keeps.bind {B : β → σ → Prop} {op : Operation β} {f : β → Operation α}
    (first : Keeps R T E B op s) (rest : ∀ b s, B b s → Keeps R T E P (f b) s) :
    Keeps R T E P (op >>= f) s :=
  (keeps_bind op f).2 (first.mono (fun _ _ _ _ h => h) (fun _ _ h => h) rest)

theorem Keeps.at_ok {op : Operation α} {a : α} {t : σ} (h : Keeps R T E P op s)
    (reached : Program.Reaches R op.run s (.done (.ok a)) t) : P a t := by
  have ends : Ends E P (.ok a) t := Program.Ensures.at_end h reached
  exact ends

/-- An operation that has no way to fail succeeds. -/
theorem Keeps.run_ok {answer : (q : services.Request) → σ → services.Answer q × σ}
    (acts : ∀ q s, R q s (answer q s).1 (answer q s).2) {op : Operation α}
    (h : Keeps R T (fun _ _ => False) P op s) :
    ∃ a t, op.run.run answer s = (.ok a, t) ∧ P a t := by
  have ends := Program.Ensures.at_end h (Program.reaches_run acts op.run s)
  cases run : op.run.run answer s with
  | mk r t =>
    rw [run] at ends
    cases r with
    | ok a => exact ⟨a, t, rfl, ends⟩
    | error e => exact ends.elim

open Program in
theorem reaches_ok {op : Operation β} {f : β → Operation α} {b : β} {t u : σ}
    {p : Program services (Result α)} (first : Reaches R op.run s (done (.ok b)) t)
    (rest : Reaches R (f b).run t p u) : Reaches R (op >>= f).run s p u := by
  rw [ExceptT.run_bind, Program.bind_eq]
  exact first.bind rest

/-- One operation after another succeeds where each of them does. -/
theorem run_bind_ok {answer : (q : services.Request) → σ → services.Answer q × σ}
    {op : Operation β} {f : β → Operation α} {a : α} {t : σ} :
    (op >>= f).run.run answer s = (.ok a, t) ↔
      ∃ b s', op.run.run answer s = (.ok b, s') ∧ (f b).run.run answer s' = (.ok a, t) := by
  rw [ExceptT.run_bind, Program.bind_eq, Program.run_bind]
  obtain ⟨r, s'⟩ := op.run.run answer s
  cases r with
  | ok b =>
    constructor
    · exact fun rest => ⟨b, s', rfl, rest⟩
    · rintro ⟨b, s', ⟨⟩, rest⟩
      exact rest
  | error e =>
    constructor
    · rintro ⟨⟩
    · rintro ⟨b, s', ⟨⟩, _⟩

/-- What one round keeps, a loop keeps. -/
theorem keeps_forM {ι : Type} {J : σ → Prop} (f : ι → Operation Unit) (l : List ι)
    (round : ∀ i ∈ l, ∀ s, J s → Keeps R T E (fun _ => J) (f i) s) (start : J s) :
    Keeps R T E (fun _ => J) (l.forM f) s := by
  induction l generalizing s with
  | nil => exact start
  | cons i rest ih =>
    change Keeps R T E _ (f i >>= fun _ => rest.forM f) s
    exact (round i (by simp) s start).bind fun _ t ht =>
      ih (fun j hj => round j (by simp [hj])) ht

/-- A request for something that may be absent. -/
theorem keeps_orAbsent {P : Option α → σ → Prop} (op : Operation α) :
    Keeps R T E P (orAbsent op) s ↔
      Keeps R T (fun e s => if e.isNotFound then P none s else E e s)
        (fun a => P (some a)) op s := by
  unfold Keeps orAbsent
  change (op.run.bind _).Ensures R T _ s ↔ _
  rw [Program.ensures_bind]
  refine iff_of_eq (congrArg (fun Q => Program.Ensures R T Q op.run s) ?_)
  funext r t
  cases r with
  | ok a => rfl
  | error e =>
    change Ends E P (if e.isNotFound then .ok none else .error e) t = _
    cases h : e.isNotFound <;> simp [Ends, h]

end Operation

namespace Pass

variable {σ α β : Type} {R T : Program.Conduct services σ} {c : Cluster} {s : σ}
  {E : Error → Cluster → σ → Prop} {P : α → Cluster → σ → Prop}

/-- What holds where a pass ends, of the record in hand too. -/
def Ends (E : Error → Cluster → σ → Prop) (P : α → Cluster → σ → Prop) :
    Result α × Cluster → σ → Prop
  | (.ok a, c), s => P a c s
  | (.error e, c), s => E e c s

/-- Every exchange of a pass is as `T` says, and its end as `P` or `E` says. -/
def Keeps (R T : Program.Conduct services σ) (E : Error → Cluster → σ → Prop)
    (P : α → Cluster → σ → Prop) (pass : Pass α) (c : Cluster) (s : σ) : Prop :=
  (pass.run.run c).Ensures R T (Ends E P) s

theorem keeps_get {P : Cluster → Cluster → σ → Prop} : Keeps R T E P get c s ↔ P c c s := Iff.rfl

theorem keeps_set {P : Unit → Cluster → σ → Prop} (c' : Cluster) :
    Keeps R T E P (set c') c s ↔ P () c' s := Iff.rfl

theorem keeps_modify {P : Unit → Cluster → σ → Prop} (f : Cluster → Cluster) :
    Keeps R T E P (modify f) c s ↔ P () (f c) s := Iff.rfl

theorem keeps_lift (op : Operation α) :
    Keeps R T E P (liftM op) c s ↔ op.Keeps R T (fun e => E e c) (fun a => P a c) s := by
  unfold Keeps Operation.Keeps
  change (op.run.bind _).Ensures R T _ s ↔ _
  rw [Program.ensures_bind]
  refine iff_of_eq (congrArg (fun Q => Program.Ensures R T Q op.run s) ?_)
  funext r t
  cases r <;> rfl

theorem keeps_result (r : Result α) :
    Keeps R T E P (liftM r) c s ↔ Operation.Ends (fun e => E e c) (fun a => P a c) r s := by
  cases r <;> rfl

theorem keeps_bind (pass : Pass β) (f : β → Pass α) :
    Keeps R T E P (pass >>= f) c s ↔ Keeps R T E (fun b => Keeps R T E P (f b)) pass c s := by
  unfold Keeps
  rw [ExceptT.run_bind, StateT.run_bind, Program.bind_eq, Program.ensures_bind]
  refine iff_of_eq (congrArg (fun Q => Program.Ensures R T Q (pass.run.run c) s) ?_)
  funext r t
  obtain ⟨r, c'⟩ := r
  cases r <;> rfl

theorem Keeps.mono {T' : Program.Conduct services σ} {E' : Error → Cluster → σ → Prop}
    {P' : α → Cluster → σ → Prop} {pass : Pass α} (h : Keeps R T E P pass c s)
    (exchange : ∀ q s a s', T q s a s' → T' q s a s') (fails : ∀ e c s, E e c s → E' e c s)
    (succeeds : ∀ a c s, P a c s → P' a c s) : Keeps R T' E' P' pass c s := by
  apply Program.Ensures.mono h exchange
  intro r t hr
  obtain ⟨r, c'⟩ := r
  cases r with
  | ok a => exact succeeds a c' t hr
  | error e => exact fails e c' t hr

theorem Keeps.imp {E' : Error → Cluster → σ → Prop} {P' : α → Cluster → σ → Prop} {pass : Pass α}
    (h : Keeps R T E P pass c s) (fails : ∀ e c s, E e c s → E' e c s)
    (succeeds : ∀ a c s, P a c s → P' a c s) : Keeps R T E' P' pass c s :=
  h.mono (fun _ _ _ _ exchange => exchange) fails succeeds

theorem Keeps.imp_ok {P' : α → Cluster → σ → Prop} {pass : Pass α} (h : Keeps R T E P pass c s)
    (succeeds : ∀ a c s, P a c s → P' a c s) : Keeps R T E P' pass c s :=
  h.imp (fun _ _ _ failed => failed) succeeds

theorem Keeps.bind {B : β → Cluster → σ → Prop} {pass : Pass β} {f : β → Pass α}
    (first : Keeps R T E B pass c s) (rest : ∀ b c s, B b c s → Keeps R T E P (f b) c s) :
    Keeps R T E P (pass >>= f) c s :=
  (keeps_bind pass f).2 (first.mono (fun _ _ _ _ h => h) (fun _ _ _ h => h) rest)

open Program in
theorem reaches_ok {pass : Pass β} {f : β → Pass α} {b : β} {c' : Cluster} {t u : σ}
    {p : Program services (Result α × Cluster)}
    (first : Reaches R (pass.run.run c) s (done (.ok b, c')) t)
    (rest : Reaches R ((f b).run.run c') t p u) : Reaches R ((pass >>= f).run.run c) s p u := by
  rw [ExceptT.run_bind, StateT.run_bind, Program.bind_eq]
  exact first.bind rest

open Program in
theorem reaches_error {pass : Pass β} {f : β → Pass α} {e : Error} {c' : Cluster} {t : σ}
    (first : Reaches R (pass.run.run c) s (done (.error e, c')) t) :
    Reaches R ((pass >>= f).run.run c) s (done (.error e, c')) t := by
  rw [ExceptT.run_bind, StateT.run_bind, Program.bind_eq]
  exact first.bind (.here _ _)

open Program in
theorem reaches_lift {op : Operation α} {r : Result α} {t : σ}
    (h : Reaches R op.run s (done r) t) :
    Reaches R ((liftM op : Pass α).run.run c) s (done (r, c)) t := by
  have same : (liftM op : Pass α).run.run c = op.run.bind fun r => done (r, c) := rfl
  rw [same]
  exact h.bind (.here _ _)

theorem keeps_forM {ι : Type} {J : Cluster → σ → Prop} (f : ι → Pass Unit) (l : List ι)
    (round : ∀ i ∈ l, ∀ c s, J c s → Keeps R T E (fun _ => J) (f i) c s) (start : J c s) :
    Keeps R T E (fun _ => J) (l.forM f) c s := by
  induction l generalizing c s with
  | nil => exact start
  | cons i rest ih =>
    change Keeps R T E _ (f i >>= fun _ => rest.forM f) c s
    exact (round i (by simp) c s start).bind fun _ c t ht =>
      ih (fun j hj => round j (by simp [hj])) ht

end Pass

end ClusterLifecycle
