import ClusterLifecycle.Polling
import Mathlib.Algebra.Order.Floor.Div

/-!
How long something is waited for. Nothing here depends on the unit of time.

* `Polling.Surroundings`: time only goes on, and a sleep takes at least as long as was asked for;
* `Polling.Underway`: what holds between two looks, and is kept by a look and the sleep after it;
* `Polling.poll_exact`: how often is looked, how long is slept, and what comes of it.
-/

namespace ClusterLifecycle.Polling

variable {σ ε α : Type}

/-- Surroundings with a clock. A look takes the time it takes. -/
structure Surroundings (σ ε α : Type) where
  time : σ → Nat
  look : σ → Except ε (Option α) × σ
  sleep : Nat → σ → σ
  look_onward : ∀ s, time s ≤ time (look s).2
  sleep_onward : ∀ length s, time s + length ≤ time (sleep length s)

/-- A look, and the time at its end. -/
structure Look (ε α : Type) where
  answer : Except ε (Option α)
  ended : Nat

structure Nap where
  length : Nat
  started : Nat

/-- All looks and all naps, in their order. -/
structure History (ε α : Type) where
  looks : List (Look ε α) := []
  naps : List Nap := []

namespace Surroundings

variable (w : Surroundings σ ε α)

/-- Keeps the history while time goes on. -/
def clock : Clock (StateM (σ × History ε α)) where
  now := fun (s, h) => (w.time s, s, h)
  sleep length := fun (s, h) =>
    ((), w.sleep length s, { h with naps := h.naps ++ [⟨length, w.time s⟩] })

def condition : StateM (σ × History ε α) (Except ε (Option α)) := fun (s, h) =>
  let seen := w.look s
  (seen.1, seen.2, { h with looks := h.looks ++ [⟨seen.1, w.time seen.2⟩] })

end Surroundings

/-- What a last look comes to. -/
def settle : Except ε (Option α) → PollOutcome ε α
  | .error e => .failed e
  | .ok (some result) => .settled result
  | .ok none => .timedOut

theorem settle_eq_timedOut {answer : Except ε (Option α)} :
    settle answer = .timedOut ↔ answer = .ok none := by
  match answer with
  | .error e => simp [settle]
  | .ok (some result) => simp [settle]
  | .ok none => simp [settle]

/-- As many looks as there can be: one for each interval in the time, and one at its end. -/
def enough (p : Polling) : Nat := p.timeout ⌈/⌉ p.interval + 1

variable {p : Polling} {w : Surroundings σ ε α} {start taken : Nat} {s : σ} {h : History ε α}

/-- A nap starts while there is time left, and takes no more than that. -/
structure Nap.Fits (p : Polling) (start : Nat) (n : Nap) : Prop where
  onward : start ≤ n.started
  early : n.started - start < p.timeout
  short : n.length ≤ p.timeout - (n.started - start)

/-- The look found nothing, and there was time left at its end. -/
structure Look.Idle (p : Polling) (start : Nat) (l : Look ε α) : Prop where
  answer : l.answer = .ok none
  early : l.ended - start < p.timeout

/-- Between two looks: each of them has taken up an interval, or else the time is over. -/
structure Underway (p : Polling) (w : Surroundings σ ε α) (start taken : Nat) (s : σ)
    (h : History ε α) : Prop where
  counted : h.looks.length = taken
  idle : ∀ l ∈ h.looks, l.Idle p start
  naps : ∀ n ∈ h.naps, n.Fits p start
  onward : start + min (taken * p.interval) p.timeout ≤ w.time s
  within : taken < p.enough

/-- How the waiting went: the number of looks, and how long the naps were. -/
structure Waited (p : Polling) (start : Nat) (outcome : PollOutcome ε α) (looks : Nat)
    (h : History ε α) : Prop where
  counted : h.looks.length = looks
  once : 1 ≤ looks
  bounded : looks ≤ p.enough
  naps : ∀ n ∈ h.naps, n.Fits p start
  /-- The last look tells the outcome, and none before it found anything. -/
  settled : ∃ idle last, h.looks = idle ++ [last] ∧ (∀ l ∈ idle, l.Idle p start) ∧
    outcome = settle last.answer ∧
    (p.enough < Nat.pow 2 32 → outcome = .timedOut → p.timeout ≤ last.ended - start)

/-- There is another look to come where the looks so far do not fill the time. -/
theorem lt_enough (pace : 0 < p.interval) (short : taken * p.interval < p.timeout) :
    taken + 1 < p.enough := by
  have fewer : ¬ p.timeout ⌈/⌉ p.interval ≤ taken := by
    rw [ceilDiv_le_iff_le_mul pace, Nat.mul_comm]
    omega
  unfold enough
  omega

namespace Underway

theorem start_of (p : Polling) (w : Surroundings σ ε α) (s : σ) :
    Underway p w (w.time s) 0 s {} where
  counted := rfl
  idle := nofun
  naps := nofun
  onward := by simp
  within := Nat.succ_pos _

/-- A look that finds nothing in time, and the nap after it, lead to the next look. -/
theorem next (pace : 0 < p.interval) (u : Underway p w start taken s h) {s' : σ}
    (looked : w.look s = (.ok none, s')) (early : w.time s' - start < p.timeout) :
    let nap := min p.interval (p.timeout - (w.time s' - start))
    Underway p w start (taken + 1) (w.sleep nap s')
      ⟨h.looks ++ [⟨.ok none, w.time s'⟩], h.naps ++ [⟨nap, w.time s'⟩]⟩ := by
  intro nap
  have later : w.time s ≤ w.time s' := by
    have onward := w.look_onward s
    rw [looked] at onward
    exact onward
  have before := u.onward
  have after := w.sleep_onward nap s'
  have length : nap = min p.interval (p.timeout - (w.time s' - start)) := rfl
  constructor
  case counted => simp [u.counted]
  case idle =>
    intro l member
    rcases List.mem_append.1 member with member | member
    · exact u.idle l member
    · rw [List.mem_singleton.1 member]
      exact ⟨rfl, early⟩
  case naps =>
    intro n member
    rcases List.mem_append.1 member with member | member
    · exact u.naps n member
    · rw [List.mem_singleton.1 member]
      refine ⟨?_, early, Nat.min_le_right _ _⟩
      dsimp only
      omega
  case onward =>
    -- A nap that is cut short ends with the time, so that an interval is lost only there.
    have interval : (taken + 1) * p.interval = taken * p.interval + p.interval :=
      Nat.succ_mul taken p.interval
    omega
  case within =>
    refine lt_enough pace ?_
    omega

/-- A look that finds something, or nothing when the time is over, is the last one. -/
theorem waited (u : Underway p w start taken s h) (answer : Except ε (Option α)) (s' : σ)
    (late : settle answer = .timedOut → p.timeout ≤ w.time s' - start) :
    Waited p start (settle answer) (taken + 1)
      ⟨h.looks ++ [⟨answer, w.time s'⟩], h.naps⟩ where
  counted := by simp [u.counted]
  once := Nat.succ_pos _
  bounded := u.within
  naps := u.naps
  settled := ⟨h.looks, _, rfl, u.idle, rfl, fun _ => late⟩

/-- Looks run out only where more of them are needed than can be counted. -/
theorem exhausted (u : Underway p w start taken s h) (all : taken = maxLooks) :
    Waited p start .timedOut taken h := by
  have counted := u.counted
  have within := u.within
  have last : h.looks ≠ [] := by
    intro none_
    rw [none_, all] at counted
    exact absurd counted.symm (Nat.succ_ne_zero _)
  have looks := List.dropLast_append_getLast last
  constructor
  case counted => exact counted
  case once =>
    rw [all]
    decide
  case bounded => omega
  case naps => exact u.naps
  case settled =>
    refine ⟨h.looks.dropLast, h.looks.getLast last, looks.symm, ?_, ?_, ?_⟩
    · intro l member
      exact u.idle l (List.mem_of_mem_dropLast member)
    · rw [(u.idle _ (List.getLast_mem last)).answer]
      rfl
    · intro countable
      have total : maxLooks + 1 = Nat.pow 2 32 := by decide
      omega

end Underway

section

variable {left : Nat} {answer : Except ε (Option α)} {s' : σ}

theorem run_condition (looked : w.look s = (answer, s')) :
    w.condition.run (s, h) =
      (pure (answer, s', { h with looks := h.looks ++ [⟨answer, w.time s'⟩] }) : Id _) := by
  change (pure ((w.look s).1, (w.look s).2, _) : Id _) = _
  rw [looked]

/-- A look that finds something, or nothing when the time is over, is followed by no other. -/
theorem run_look_last (looked : w.look s = (answer, s'))
    (ends : answer = .ok none → p.timeout ≤ w.time s' - start) :
    (p.look w.clock w.condition start (left + 1) taken).run (s, h) =
      ((settle answer, taken + 1), s', ⟨h.looks ++ [⟨answer, w.time s'⟩], h.naps⟩) := by
  rw [look, StateT.run_bind, run_condition looked, pure_bind]
  match answer with
  | .error e => rfl
  | .ok (some result) => rfl
  | .ok none =>
    change (StateT.run (if p.timeout ≤ w.time s' - start then _ else _) _ : Id _) = _
    rw [if_pos (ends rfl)]
    rfl

/-- Another look follows where there is time left. -/
theorem run_look_next (looked : w.look s = (.ok none, s'))
    (early : w.time s' - start < p.timeout) :
    let nap := min p.interval (p.timeout - (w.time s' - start))
    (p.look w.clock w.condition start (left + 1) taken).run (s, h) =
      (p.look w.clock w.condition start left (taken + 1)).run (w.sleep nap s',
        ⟨h.looks ++ [⟨.ok none, w.time s'⟩], h.naps ++ [⟨nap, w.time s'⟩]⟩) := by
  intro nap
  rw [look, StateT.run_bind, run_condition looked, pure_bind]
  change (StateT.run (if p.timeout ≤ w.time s' - start then _ else _) _ : Id _) = _
  rw [if_neg (Nat.not_le_of_lt early)]
  rfl

end

/-- However many looks have been taken, those that are left end the waiting. -/
theorem waited_look (pace : 0 < p.interval) (left : Nat) (u : Underway p w start taken s h)
    (total : left + taken = maxLooks) :
    let ran := (p.look w.clock w.condition start left taken).run (s, h)
    Waited p start ran.1.1 ran.1.2 ran.2.2 := by
  intro ran
  induction left generalizing taken s h with
  | zero => exact u.exhausted ((Nat.zero_add taken).symm.trans total)
  | succ left ih =>
    cases looked : w.look s with
    | mk answer s' =>
    by_cases idle : answer = .ok none ∧ w.time s' - start < p.timeout
    · obtain ⟨rfl, early⟩ := idle
      have run : ran = _ := run_look_next looked early
      rw [run]
      exact ih (u.next pace looked early) (by omega)
    · have ends : answer = .ok none → p.timeout ≤ w.time s' - start := by
        intro nothing
        exact Nat.le_of_not_lt fun early => idle ⟨nothing, early⟩
      have run : ran = _ := run_look_last looked ends
      rw [run]
      exact u.waited answer s' fun late => ends (settle_eq_timedOut.1 late)

theorem run_now_bind {β : Type} (f : Nat → StateM (σ × History ε α) β) :
    (w.clock.now >>= f).run (s, h) = (f (w.time s)).run (s, h) := rfl

/-- Waiting takes at least one look, and no more than one for each interval in the time and one at
its end. No nap lasts longer than what is left of the time when it starts. The first look that finds
something or fails ends the waiting; else the first one that ends when the time is over does. -/
theorem poll_exact (p : Polling) (pace : 0 < p.interval) (w : Surroundings σ ε α) (s : σ) :
    let ran := (p.poll w.clock w.condition).run (s, {})
    Waited p (w.time s) ran.1.1 ran.1.2 ran.2.2 := by
  intro ran
  have run : ran = _ := run_now_bind fun now => p.look w.clock w.condition now maxLooks 0
  rw [run]
  exact waited_look pace maxLooks (.start_of p w s) (Nat.add_zero _)

/-- Nothing but sleeping takes time, and nothing is ever found. -/
def Surroundings.idle : Surroundings Nat String Unit where
  time s := s
  look s := (.ok none, s)
  sleep length s := s + length
  look_onward _ := Nat.le_refl _
  sleep_onward _ _ := Nat.le_refl _

/-- There can be as many looks as the bound allows. -/
theorem poll_exact_idle :
    let p : Polling := { timeout := 25, interval := 10, description := "nothing" }
    let ran := (p.poll Surroundings.idle.clock Surroundings.idle.condition).run (0, {})
    0 < p.interval ∧ ran.1 = (.timedOut, 4) ∧ p.enough = 4 ∧
      Waited p 0 ran.1.1 ran.1.2 ran.2.2 := by
  intro p ran
  have pace : 0 < p.interval := by decide
  have run : ran.1 = (.timedOut, 4) := by decide +kernel
  have enough : p.enough = 4 := by decide +kernel
  exact ⟨pace, run, enough, poll_exact p pace Surroundings.idle 0⟩

end ClusterLifecycle.Polling
