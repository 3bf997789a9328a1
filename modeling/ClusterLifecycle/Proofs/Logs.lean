import ClusterLifecycle.Proofs.Runs

/-!
What runs ask and are answered, in order.

* `Logged`: surroundings that keep a log of what they are asked;
* `Traces`: how a program ends where it is answered as a log says;
* `Operation.Only`, `Pass.Only`: the requests that may be made, whatever is answered;
* `Only.keeps`: what such requests keep in some surroundings, the whole run keeps.
-/

namespace ClusterLifecycle

/-- A request and its answer. -/
structure Exchange (I : Interface) where
  request : I.Request
  answer : I.Answer request

/-- What has been asked and answered, the oldest first. -/
abbrev Log (I : Interface) := List (Exchange I)

/-- A list that has grown by one is split at the last item, or as it was split before. -/
theorem split_concat {α : Type} {l before after : List α} {x y : α}
    (h : l ++ [x] = before ++ y :: after) :
    (before = l ∧ y = x) ∨ ∃ after', l = before ++ y :: after' := by
  rcases List.eq_nil_or_concat after with rfl | ⟨after, z, rfl⟩
  · obtain ⟨same, last⟩ := List.append_inj' h rfl
    exact .inl ⟨same.symm, (List.singleton_inj.1 last).symm⟩
  · rw [List.concat_eq_append, ← List.cons_append, ← List.append_assoc] at h
    exact .inr ⟨after, (List.append_inj' h rfl).1⟩

namespace Program

variable {I : Interface} {σ α β : Type}

/-- Surroundings that keep a log. -/
def Logged (R : Conduct I σ) : Conduct I (σ × Log I) :=
  fun q s a s' => R q s.1 a s'.1 ∧ s'.2 = s.2 ++ [⟨q, a⟩]

/-- Surroundings that may answer anything. -/
def Anyhow : Conduct I Unit := fun _ _ _ _ => True

variable {R T : Conduct I σ} {Q : α → Unit → Prop} {G : I.Request → Prop} {s : σ}

theorem Reaches.onLogged {q : I.Request} {next : I.Answer q → Program I α} {s' : σ} {log : Log I}
    {a : I.Answer q} {p : Program I α} {t : σ × Log I} (answered : R q s a s')
    (rest : Reaches (Logged R) (next a) (s', log ++ [⟨q, a⟩]) p t) :
    Reaches (Logged R) (ask q next) (s, log) p t :=
  .on ⟨answered, rfl⟩ rest

/-- What is so of every exchange is so of each that is logged. -/
theorem Ensures.logged {p : Program I α} {Q : α → σ → Prop} (h : p.Ensures R T Q s) (log : Log I) :
    p.Ensures (Logged R) (fun q s a s' => T q s.1 a s'.1 ∧ s'.2 = s.2 ++ [⟨q, a⟩])
      (fun a s => Q a s.1) (s, log) := by
  induction p generalizing s log with
  | done a => exact h
  | ask q next ih =>
    rintro a ⟨s', log'⟩ ⟨answered, grows⟩
    obtain ⟨exchange, rest⟩ := h a s' answered
    exact ⟨⟨exchange, grows⟩, ih a rest log'⟩

/-- What requests of a kind keep, a program keeps that makes no others. -/
theorem Ensures.of_anyhow {J : σ → Prop} {p : Program I α}
    (only : p.Ensures Anyhow (fun q _ _ _ => G q) Q ())
    (keeps : ∀ q s a s', G q → J s → R q s a s' → T q s a s' ∧ J s') (start : J s) :
    p.Ensures R T (fun a s => Q a () ∧ J s) s := by
  induction p generalizing s with
  | done a => exact ⟨only, start⟩
  | ask q next ih =>
    intro a s' answered
    obtain ⟨exchange, after⟩ := keeps q s a s' (only a () trivial).1 start answered
    exact ⟨exchange, ih a (only a () trivial).2 after⟩

/-- With the answers of the log the program makes its requests and ends with the result. -/
inductive Traces : Program I α → Log I → α → Prop
  | done (a : α) : Traces (done a) [] a
  | ask {q : I.Request} {next : I.Answer q → Program I α} {a : I.Answer q} {rest : Log I} {b : α}
      (later : Traces (next a) rest b) : Traces (ask q next) (⟨q, a⟩ :: rest) b

theorem traces_done {a b : α} {log : Log I} : (done a).Traces log b ↔ log = [] ∧ b = a := by
  constructor
  · rintro ⟨⟩
    exact ⟨rfl, rfl⟩
  · rintro ⟨rfl, rfl⟩
    exact .done b

theorem traces_ask {q : I.Request} {next : I.Answer q → Program I α} {log : Log I} {b : α} :
    (ask q next).Traces log b ↔ ∃ a rest, log = ⟨q, a⟩ :: rest ∧ (next a).Traces rest b := by
  constructor
  · intro h
    cases h with
    | ask later => exact ⟨_, _, rfl, later⟩
  · rintro ⟨a, rest, rfl, later⟩
    exact .ask later

theorem traces_call {q : I.Request} {a : I.Answer q} {log : Log I} :
    (call q).Traces log a ↔ log = [⟨q, a⟩] := by
  constructor
  · intro h
    obtain ⟨answer, rest, rfl, ends⟩ := traces_ask.1 h
    obtain ⟨rfl, rfl⟩ := traces_done.1 ends
    rfl
  · rintro rfl
    exact .ask (.done a)

theorem traces_bind {p : Program I β} {f : β → Program I α} {log : Log I} {a : α} :
    (p.bind f).Traces log a ↔
      ∃ b before after, log = before ++ after ∧ p.Traces before b ∧ (f b).Traces after a := by
  induction p generalizing log with
  | done b =>
    constructor
    · exact fun h => ⟨b, [], log, rfl, traces_done.2 ⟨rfl, rfl⟩, h⟩
    · rintro ⟨_, _, after, rfl, first, h⟩
      obtain ⟨rfl, rfl⟩ := traces_done.1 first
      exact h
  | ask q next ih =>
    rw [ask_bind, traces_ask]
    constructor
    · rintro ⟨x, rest, rfl, h⟩
      obtain ⟨b, before, after, rfl, first, later⟩ := (ih x).1 h
      exact ⟨b, ⟨q, x⟩ :: before, after, rfl, traces_ask.2 ⟨x, before, rfl, first⟩, later⟩
    · rintro ⟨b, _, after, rfl, first, later⟩
      obtain ⟨x, before, rfl, rest⟩ := traces_ask.1 first
      exact ⟨x, before ++ after, rfl, (ih x).2 ⟨b, before, after, rfl, rest, later⟩⟩

end Program

open Program

namespace Operation

variable {α β : Type} {G : ServiceRequest → Prop} {P : α → Prop}

/-- One operation after another succeeds where each of them does. -/
theorem traces_bind_ok {op : Operation β} {f : β → Operation α} {log : Log services} {a : α} :
    (op >>= f).run.Traces log (.ok a) ↔
      ∃ b before after, log = before ++ after ∧ op.run.Traces before (.ok b) ∧
        (f b).run.Traces after (.ok a) := by
  rw [ExceptT.run_bind, Program.bind_eq, Program.traces_bind]
  constructor
  · rintro ⟨result, before, after, rfl, first, rest⟩
    cases result with
    | ok b => exact ⟨b, before, after, rfl, first, rest⟩
    | error e =>
      obtain ⟨-, ends⟩ := traces_done.1 rest
      cases ends
  · rintro ⟨b, before, after, rfl, first, rest⟩
    exact ⟨.ok b, before, after, rfl, first, rest⟩

theorem traces_pure {a b : α} {log : Log services} :
    (pure a : Operation α).run.Traces log (.ok b) ↔ log = [] ∧ b = a := by
  rw [ExceptT.run_pure, Program.pure_eq, traces_done, Except.ok.injEq]

theorem traces_result {r : Result α} {log : Log services} {a : α} :
    (liftM r : Operation α).run.Traces log (.ok a) ↔ log = [] ∧ r = .ok a := by
  have run : (liftM r : Operation α).run = done r := by cases r <;> rfl
  rw [run, traces_done, eq_comm (a := r)]

/-- Whatever it is answered, the operation makes no other requests than `G` admits, and what it
returns is as `P` says. -/
def Only (G : ServiceRequest → Prop) (P : α → Prop) (op : Operation α) : Prop :=
  Keeps Anyhow (fun q _ _ _ => G q) (fun _ _ => True) (fun a _ => P a) op ()

theorem only_pure {a : α} (h : P a) : Only G P (pure a) := h

theorem only_throw (e : Error) : Only G P (throw e) := trivial

theorem only_result {r : Result α} (h : ∀ a, r = .ok a → P a) : Only G P (liftM r) := by
  refine (keeps_result r).2 ?_
  cases r with
  | ok a => exact h a rfl
  | error e => trivial

theorem only_ask {q : ServiceRequest} (admitted : G q) :
    (ask q).Ensures Anyhow (fun q _ _ _ => G q) (fun _ _ => True) () :=
  fun _ _ _ => ⟨admitted, trivial⟩

/-- An operation may return anything. -/
theorem only_mk {p : Program services (Result α)}
    (h : p.Ensures Anyhow (fun q _ _ _ => G q) (fun _ _ => True) ()) :
    Only G (fun _ => True) (ExceptT.mk p) := by
  refine h.imp ?_
  rintro r _ -
  cases r <;> trivial

theorem Only.bind {B : β → Prop} {op : Operation β} {f : β → Operation α} (first : Only G B op)
    (rest : ∀ b, B b → Only G P (f b)) : Only G P (op >>= f) :=
  Keeps.bind first fun b _ hb => rest b hb

theorem only_forM {ι : Type} {f : ι → Operation Unit} {l : List ι}
    (round : ∀ i ∈ l, Only G (fun _ => True) (f i)) : Only G (fun _ => True) (l.forM f) :=
  keeps_forM (J := fun _ => True) f l (fun i hi _ _ => round i hi) trivial

/-- What is absent is as good as anything that is there. -/
theorem Only.orAbsent {op : Operation α} (h : Only G (fun _ => True) op) :
    Only G (fun _ => True) (orAbsent op) := by
  refine (keeps_orAbsent op).2 (h.imp ?_ fun _ _ h => h)
  intro e _ _
  split <;> trivial

/-- What the requests keep in some surroundings, the operation keeps. -/
theorem Only.keeps {σ : Type} {R T : Conduct services σ} {J : σ → Prop} {s : σ} {op : Operation α}
    (h : Only G P op) (keeps : ∀ q s a s', G q → J s → R q s a s' → T q s a s' ∧ J s')
    (start : J s) : Keeps R T (fun _ => J) (fun a s => P a ∧ J s) op s := by
  refine (Ensures.of_anyhow h keeps start).imp ?_
  rintro r t ⟨ends, after⟩
  cases r with
  | ok a => exact ⟨ends, after⟩
  | error e => exact after

end Operation

namespace Pass

variable {α β : Type} {G : ServiceRequest → Prop} {c : Cluster} {E : Cluster → Prop}
  {P : α → Cluster → Prop}

/-- Whatever it is answered, the pass makes no other requests than `G` admits, and the record in
hand ends as `E` or `P` says. -/
def Only (G : ServiceRequest → Prop) (E : Cluster → Prop) (P : α → Cluster → Prop) (pass : Pass α)
    (c : Cluster) : Prop :=
  Keeps Anyhow (fun q _ _ _ => G q) (fun _ c' _ => E c') (fun a c' _ => P a c') pass c ()

theorem only_lift {P : α → Prop} {op : Operation α} (h : op.Only G P) (stays : E c) :
    Only G E (fun a c' => P a ∧ c' = c) (liftM op) c :=
  (keeps_lift op).2 (h.imp (fun _ _ _ => stays) fun _ _ h => ⟨h, rfl⟩)

theorem only_result (r : Result α) (stays : E c) (ok : ∀ a, P a c) :
    Only G E P (liftM r : Pass α) c := by
  refine (keeps_result r).2 ?_
  cases r with
  | ok a => exact ok a
  | error e => exact stays

theorem Only.bind {B : β → Cluster → Prop} {pass : Pass β} {f : β → Pass α}
    (first : Only G E B pass c) (rest : ∀ b c, B b c → Only G E P (f b) c) :
    Only G E P (pass >>= f) c :=
  Keeps.bind first fun b c _ hb => rest b c hb

/-- What the requests keep in some surroundings, the pass keeps. -/
theorem Only.keeps {σ : Type} {R T : Conduct services σ} {J : σ → Prop} {s : σ} {pass : Pass α}
    (h : Only G E P pass c) (keeps : ∀ q s a s', G q → J s → R q s a s' → T q s a s' ∧ J s')
    (start : J s) :
    Keeps R T (fun _ c' s => E c' ∧ J s) (fun a c' s => P a c' ∧ J s) pass c s := by
  refine (Ensures.of_anyhow h keeps start).imp ?_
  rintro ⟨r, c'⟩ t ⟨ends, after⟩
  cases r with
  | ok a => exact ⟨ends, after⟩
  | error e => exact ⟨ends, after⟩

end Pass

end ClusterLifecycle
