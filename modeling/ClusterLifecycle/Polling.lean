/-!
Polling: repeating a look at something until it settles, fails, or time is up.
-/

namespace ClusterLifecycle

/-- Times are in milliseconds. -/
structure Polling where
  timeout : Nat
  interval : Nat
  description : String
deriving DecidableEq, Repr

/-- How to tell the time, and how to let it pass. -/
structure Clock (m : Type → Type) where
  now : m Nat
  sleep : Nat → m Unit

inductive PollOutcome (ε α : Type) where
  | settled (result : α)
  /-- A look failed. -/
  | failed (error : ε)
  | timedOut
deriving DecidableEq, Repr

namespace Polling

variable {m : Type → Type} [Monad m] {ε α : Type}

/-- Looks are counted up to this number, and no more are taken. -/
def maxLooks : Nat := Nat.pow 2 32 - 1

/-- Takes up to `left` looks after the `taken` ones. No sleep goes past the end of the time. -/
def look (p : Polling) (clock : Clock m) (condition : m (Except ε (Option α))) (start : Nat) :
    (left taken : Nat) → m (PollOutcome ε α × Nat)
  | 0, taken => return (.timedOut, taken)
  | left + 1, taken => do
    match ← condition with
    | .error e => return (.failed e, taken + 1)
    | .ok (some result) => return (.settled result, taken + 1)
    | .ok none =>
      let elapsed := (← clock.now) - start
      if p.timeout ≤ elapsed then return (.timedOut, taken + 1)
      clock.sleep (min p.interval (p.timeout - elapsed))
      p.look clock condition start left (taken + 1)

/-- The outcome, and how many looks were taken. -/
def poll (p : Polling) (clock : Clock m) (condition : m (Except ε (Option α))) :
    m (PollOutcome ε α × Nat) := do
  p.look clock condition (← clock.now) maxLooks 0

def timeoutMessage (p : Polling) (looks : Nat) : String :=
  "Timeout after " ++ toString (p.timeout / 1000) ++ " seconds (" ++ toString looks ++
    " attempts): " ++ p.description

end Polling

end ClusterLifecycle
