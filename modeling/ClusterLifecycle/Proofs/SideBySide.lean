import ClusterLifecycle.Proofs.Logs

/-!
Two programs side by side in the same surroundings, their requests in any order.

* `Together`: where the two may stand, each with the log of its own exchanges;
* `Together.alone`: a program to which nothing of the other shows runs as it does alone;
* `run_of_reaches`: where the surroundings can act in one way only, it can run in one way only.
-/

namespace ClusterLifecycle

namespace Program

variable {I : Interface} {σ α β : Type} {R : Conduct I σ}

/-- Where two programs may stand that were started together, and what each has asked by then. -/
inductive Together (R : Conduct I σ) (p : Program I α) (p' : Program I β) (s : σ) :
    Program I α → Program I β → σ → Log I → Log I → Prop
  | start : Together R p p' s p p' s [] []
  | left {q : I.Request} {next : I.Answer q → Program I α} {x' : Program I β} {t t' : σ}
      {a : I.Answer q} {log log' : Log I} (before : Together R p p' s (ask q next) x' t log log')
      (answered : R q t a t') : Together R p p' s (next a) x' t' (log ++ [⟨q, a⟩]) log'
  | right {q : I.Request} {next : I.Answer q → Program I β} {x : Program I α} {t t' : σ}
      {a : I.Answer q} {log log' : Log I} (before : Together R p p' s x (ask q next) t log log')
      (answered : R q t a t') : Together R p p' s x (next a) t' log (log' ++ [⟨q, a⟩])

variable {p x : Program I α} {p' x' : Program I β} {s t : σ} {log log' : Log I}

theorem Together.symm (h : Together R p p' s x x' t log log') :
    Together R p' p s x' x t log' log := by
  induction h with
  | start => exact .start
  | left _ answered ih => exact ih.right answered
  | right _ answered ih => exact ih.left answered

/-- Wherever the two stand, the first of them can run to its end. -/
theorem Together.runs {answer : (q : I.Request) → σ → I.Answer q × σ}
    (acts : ∀ q s, R q s (answer q s).1 (answer q s).2) (h : Together R p p' s x x' t log log') :
    ∃ r u log'', Together R p p' s (done r) x' u log'' log' := by
  induction x generalizing t log with
  | done r => exact ⟨r, t, log, h⟩
  | ask q next ih => exact ih _ (h.left (acts q t))

/-- A run with a log goes on by one exchange. -/
theorem Reaches.exchange {q : I.Request} {next : I.Answer q → Program I α} {u u' v : σ}
    {a : I.Answer q} (h : Reaches (Logged R) p (v, []) (ask q next) (u, log))
    (answered : R q u a u') : Reaches (Logged R) p (v, []) (next a) (u', log ++ [⟨q, a⟩]) :=
  h.trans (.on ⟨answered, rfl⟩ (.here _ _))

/-- Where the surroundings can act in one way only, a run ends as it must. -/
theorem run_of_reaches {answer : (q : I.Request) → σ → I.Answer q × σ} {v v' : σ × Log I} {r : α}
    (only : ∀ q s a s', R q s a s' → answer q s = (a, s'))
    (reached : Reaches (Logged R) p v (done r) v') : p.run answer v.1 = (r, v'.1) := by
  generalize finished : done r = ended at reached
  induction reached with
  | here p v =>
    rw [← finished, run_done]
  | on answered _ ih =>
    rw [run_ask, only _ _ _ _ answered.1]
    exact ih finished

section
variable {N : Conduct I Unit} {mine others : I.Request → Prop} {Alike : σ → σ → Prop}
  {Q : α → Unit → Prop} {Q' : β → Unit → Prop}
  (shows : ∀ q s a s', R q s a s' → N q () a ())
  (own : ∀ q s a s' u, mine q → Alike s u → R q s a s' → ∃ u', R q u a u' ∧ Alike s' u')
  (foreign : ∀ q s a s' u, others q → Alike s u → R q s a s' → Alike s' u)
include shows own foreign

/-- A program of which each request does the same in surroundings that are alike, next to one whose
requests leave them alike: what it asks and is answered, it asks and is answered alone. -/
theorem Together.alone (asks : p.Ensures N (fun q _ _ _ => mine q) Q ())
    (asks' : p'.Ensures N (fun q _ _ _ => others q) Q' ()) (start : Alike s s)
    (h : Together R p p' s x x' t log log') :
    (∃ u, Reaches (Logged R) p (s, []) x (u, log) ∧ Alike t u) ∧ ∀ e ∈ log, mine e.request := by
  -- Both programs go on to ask what they may, wherever they stand.
  have stands : x.Ensures N (fun q _ _ _ => mine q) Q () ∧
      x'.Ensures N (fun q _ _ _ => others q) Q' () ∧
      (∃ u, Reaches (Logged R) p (s, []) x (u, log) ∧ Alike t u) ∧ ∀ e ∈ log, mine e.request := by
    induction h with
    | start => exact ⟨asks, asks', ⟨s, .here _ _, start⟩, by simp⟩
    | @left q next x' t t' a log log' _ answered ih =>
      obtain ⟨here, there, ⟨u, reached, alike⟩, all⟩ := ih
      obtain ⟨asked, later⟩ := here a () (shows q t a t' answered)
      obtain ⟨u', answered', alike'⟩ := own q t a t' u asked alike answered
      refine ⟨later, there, ⟨u', reached.exchange answered', alike'⟩, ?_⟩
      simpa [or_imp, forall_and, asked] using all
    | @right q next x t t' a log log' _ answered ih =>
      obtain ⟨here, there, ⟨u, reached, alike⟩, all⟩ := ih
      obtain ⟨asked, later⟩ := there a () (shows q t a t' answered)
      exact ⟨here, later, ⟨u, reached, foreign q t a t' u asked alike answered⟩, all⟩
  exact stands.2.2

end

end Program

end ClusterLifecycle
