import ClusterLifecycle.Console.Commands
import ClusterLifecycle.Proofs.Takedown

/-!
What errands keep, whatever the services and the console answer.

* `Keeper.Tends`: what becomes of the records when the console answers;
* `Errand.Upholds`: an errand leaves things as `J` says at every point, and ends as `P` says, with
  one rule for each way in which errands are made;
* `Errand.Stays`: the same for records that are kept while all that is asked is logged.
-/

namespace ClusterLifecycle

open Program

/-- How the console answers. Records are loaded as they are kept, or not at all; a record is removed
as its keeper does it, and may seem not to be. -/
inductive Keeper.Tends {ρ : Type} (k : Keeper ρ) : (q : ConsoleRequest) → ρ → q.Answer → ρ → Prop
  | service {q : ServiceRequest} {a : q.Answer} {records records' : ρ}
      (attended : k.Attends True q records a records') : Tends k (.service q) records a records'
  | loaded (id : Uuid) (records : ρ) : Tends k (.load id) records (k.load id records) records
  | unloaded (id : Uuid) (e : Error) (records : ρ) : Tends k (.load id) records (.error e) records
  | forgotten (id : Uuid) (records : ρ) :
      Tends k (.forget id) records (k.remove id records).1 (k.remove id records).2
  | refused (id : Uuid) (e : Error) (records : ρ) : Tends k (.forget id) records (.error e) records
  | lost (id : Uuid) (e : Error) (records : ρ) :
      Tends k (.forget id) records (.error e) (k.remove id records).2
  | said (line : String) (records : ρ) : Tends k (.say line) records () records
  | timed (now : Nat) (records : ρ) : Tends k .time records now records
  | slept (milliseconds : Nat) (records : ρ) : Tends k (.sleep milliseconds) records () records

/-- Nothing is asked of the services, and no record is removed. -/
def ConsoleRequest.Idle : ConsoleRequest → Prop
  | service _ | forget _ => False
  | _ => True

namespace Errand

section
variable {σ α β : Type} (R : Conduct console σ) (J : σ → Prop)

/-- How the services behind a console answer. -/
abbrev behind : Conduct services σ := fun q => R (.service q)

/-- The errand leaves things as `J` says at every point, and ends as `P` says if it succeeds. -/
def Upholds (P : α → σ → Prop) (errand : Errand α) (s : σ) : Prop :=
  errand.run.Ensures R (fun _ _ _ s' => J s') (fun r s => J s ∧ ∀ a, r = .ok a → P a s) s

variable {R J} {P : α → σ → Prop} {s : σ}

theorem upholds_pure {a : α} (now : J s) (done : P a s) : Upholds R J P (pure a) s := by
  refine ⟨now, ?_⟩
  rintro _ ⟨⟩
  exact done

theorem upholds_throw (f : Failure) (now : J s) : Upholds R J P (throw f) s := ⟨now, nofun⟩

theorem Upholds.mono {J' : σ → Prop} {P' : α → σ → Prop} {errand : Errand α}
    (h : Upholds R J P errand s) (weaker : ∀ s, J s → J' s)
    (succeeds : ∀ a s, J s → P a s → P' a s) : Upholds R J' P' errand s := by
  apply Ensures.mono h (fun _ _ _ s' => weaker s')
  rintro r t ⟨now, done⟩
  exact ⟨weaker t now, fun a ok => succeeds a t now (done a ok)⟩

theorem Upholds.bind {B : β → σ → Prop} {errand : Errand β} {f : β → Errand α}
    (first : Upholds R J B errand s) (rest : ∀ b s, J s → B b s → Upholds R J P (f b) s) :
    Upholds R J P (errand >>= f) s := by
  unfold Upholds
  rw [ExceptT.run_bind, Program.bind_eq, Program.ensures_bind]
  apply Ensures.imp first
  rintro r t ⟨now, done⟩
  cases r with
  | ok b => exact rest b t now (done b rfl)
  | error e => exact ⟨now, nofun⟩

theorem Upholds.at_reached {errand : Errand α} {p : Program console (Except Failure α)} {t : σ}
    (h : Upholds R J P errand s) (now : J s) (reached : Reaches R errand.run s p t) : J t :=
  Ensures.throughout now h reached

/-- A request that may fail. -/
theorem upholds_ofResult {p : Program console (Result α)}
    (h : p.Ensures R (fun _ _ _ s' => J s') (fun r s => J s ∧ ∀ a, r = .ok a → P a s) s) :
    Upholds R J P (ofResult p) s := by
  unfold Upholds
  change (p.bind _).Ensures _ _ _ _
  rw [Program.ensures_bind]
  apply Ensures.imp h
  rintro r t ⟨now, done⟩
  cases r with
  | ok a => exact upholds_pure (R := R) now (done a rfl)
  | error e => exact upholds_throw (R := R) (.error e) now

/-- What is asked of the services is asked at the console. -/
theorem ensures_console {p : Program services α} {Q : α → σ → Prop}
    (h : p.Ensures (behind R) (fun _ _ _ s' => J s') Q s) :
    (service p).Ensures R (fun _ _ _ s' => J s') Q s := by
  induction p generalizing s with
  | done a => exact h
  | ask q next ih =>
    intro a s' answered
    obtain ⟨now, rest⟩ := h a s' answered
    exact ⟨now, ih a rest⟩

/-- An operation at a console. -/
theorem upholds_operation {op : Operation α}
    (h : op.Keeps (behind R) (fun _ _ _ s' => J s') (fun _ => J)
      (fun a s => P a s ∧ J s) s) : Upholds R J P (liftM op) s := by
  apply upholds_ofResult
  apply Ensures.imp (ensures_console h)
  intro r t ends
  cases r with
  | ok a =>
    refine ⟨ends.2, ?_⟩
    rintro _ ⟨⟩
    exact ends.1
  | error e => exact ⟨ends, nofun⟩

/-- A pass at a console. -/
theorem upholds_pass {P : Cluster → σ → Prop} {p : Pass Unit} {c : Cluster}
    (h : p.Keeps (behind R) (fun _ _ _ s' => J s') (fun _ _ => J)
      (fun _ c' s => P c' s ∧ J s) c s) : Upholds R J P (pass p c) s := by
  unfold Upholds
  change ((service (p.run.run c)).bind _).Ensures _ _ _ _
  rw [Program.ensures_bind]
  apply Ensures.imp (ensures_console h)
  rintro ⟨r, c'⟩ t ends
  cases r with
  | ok u => exact upholds_pure (R := R) ends.2 ends.1
  | error e => exact upholds_throw (R := R) (.error e) ends

/-- One errand after another goes on where the first succeeds. -/
theorem reaches_ok {errand : Errand β} {f : β → Errand α} {b : β}
    {p : Program console (Except Failure α)} {t u : σ}
    (first : Reaches R errand.run s (.done (.ok b)) t) (rest : Reaches R (f b).run t p u) :
    Reaches R (errand >>= f).run s p u := by
  rw [ExceptT.run_bind, Program.bind_eq]
  exact first.bind rest

theorem reaches_service {p p' : Program services α} {t : σ} (h : Reaches (behind R) p s p' t) :
    Reaches R (service p) s (service p') t := by
  induction h with
  | here => exact .here _ _
  | on answered _ ih => exact .on answered ih

theorem reaches_operation {op : Operation α} {a : α} {t : σ}
    (h : Reaches (behind R) op.run s (.done (.ok a)) t) :
    Reaches R (liftM op : Errand α).run s (.done (.ok a)) t :=
  (reaches_service h).bind (.here _ _)

theorem upholds_forM {ι : Type} {f : ι → Errand Unit} {l : List ι}
    (round : ∀ i ∈ l, ∀ s, J s → Upholds R J (fun _ _ => True) (f i) s) (now : J s) :
    Upholds R J (fun _ _ => True) (l.forM f) s := by
  induction l generalizing s with
  | nil => exact upholds_pure now trivial
  | cons i rest ih =>
    change Upholds R J _ (f i >>= fun _ => rest.forM f) s
    exact (round i List.mem_cons_self s now).bind fun _ s now _ =>
      ih (fun j hj => round j (List.mem_cons_of_mem i hj)) now

section
variable (idle : ∀ (q : ConsoleRequest) (a : q.Answer) s s', q.Idle → J s → R q s a s' → J s')
include idle

theorem upholds_say (line : String) (now : J s) :
    Upholds R J (fun _ _ => True) (say line) s := by
  intro a s' answered
  have after := idle (.say line) a s s' trivial now answered
  exact ⟨after, after, fun _ _ => trivial⟩

theorem upholds_sayGroup (g : NodeGroup) (now : J s) :
    Upholds R J (fun _ _ => True) (sayGroup g) s :=
  upholds_say idle _ now

theorem upholds_sayCluster (c : Cluster) (now : J s) :
    Upholds R J (fun _ _ => True) (sayCluster c) s := by
  unfold sayCluster
  refine (upholds_say idle _ now).bind fun _ s now _ => ?_
  refine (upholds_say idle _ now).bind fun _ s now _ => ?_
  have rest (s : σ) (now : J s) : Upholds R J (fun _ _ => True) (do
      say ("  API address: " ++ c.apiAddress.getD "N/A")
      say ("  Kubernetes version: " ++ c.coeVersion.getD "N/A")
      say "  Node groups:"
      c.nodeGroups.forM sayGroup) s := by
    refine (upholds_say idle _ now).bind fun _ s now _ => ?_
    refine (upholds_say idle _ now).bind fun _ s now _ => ?_
    refine (upholds_say idle _ now).bind fun _ s now _ => ?_
    exact upholds_forM (fun g _ s now => upholds_sayGroup idle g now) now
  cases c.statusReason with
  | none => exact rest s now
  | some reason => exact (upholds_say idle _ now).bind fun _ s now _ => rest s now

/-- A look is repeated until it succeeds, fails or time is up. -/
theorem upholds_poll {p : Polling} {condition : Errand (Option α)}
    (look : ∀ s, J s → Upholds R J (fun found s => ∀ a, found = some a → P a s) condition s)
    (now : J s) : Upholds R J P (poll p condition) s := by
  have looks (start left taken : Nat) (s : σ) (now : J s) :
      (p.look clock condition.run start left taken).Ensures R
        (fun _ _ _ s' => J s') (fun outcome s => J s ∧ ∀ a, outcome.1 = .settled a → P a s) s := by
    induction left generalizing taken s with
    | zero => exact ⟨now, nofun⟩
    | succ left ih =>
      rw [Polling.look, Program.bind_eq, Program.ensures_bind]
      apply Ensures.mono (look s now) fun _ _ _ _ h => h
      rintro r s ⟨now, found⟩
      match r with
      | .error e => exact ⟨now, nofun⟩
      | .ok (some a) =>
        refine ⟨now, ?_⟩
        rintro _ ⟨⟩
        exact found _ rfl a rfl
      | .ok none =>
        intro (time : Nat) s' answered
        have later := idle .time time s s' trivial now answered
        refine ⟨later, ?_⟩
        change Program.Ensures _ _ _ (if p.timeout ≤ time - start then _ else _) _
        split
        · exact ⟨later, nofun⟩
        · intro u s'' answered
          have later := idle (.sleep (min p.interval (p.timeout - (time - start)))) u s' s''
            trivial later answered
          exact ⟨later, ih _ _ later⟩
  unfold Upholds
  change Program.Ensures _ _ _ ((p.poll clock condition.run).bind _) s
  rw [Program.ensures_bind, Polling.poll]
  intro time s' answered
  have later := idle .time time s s' trivial now answered
  refine ⟨later, ?_⟩
  apply Ensures.mono (looks time Polling.maxLooks 0 _ later) fun _ _ _ _ h => h
  rintro ⟨outcome, taken⟩ s ⟨now, settled⟩
  cases outcome with
  | settled a =>
    refine ⟨now, ?_⟩
    rintro _ ⟨⟩
    exact settled a rfl
  | failed e => exact ⟨now, nofun⟩
  | timedOut => exact ⟨now, nofun⟩

end

end

/-- What the services have been asked, as the console sees it. -/
def asked (log : Log services) : Log console := log.map fun x => ⟨.service x.request, x.answer⟩

variable {ρ α : Type} (k : Keeper ρ) (J : ρ × Log console → Prop)

/-- The errand upholds `J` while records are kept and all that is asked is logged. -/
abbrev Stays (P : α → ρ × Log console → Prop) (errand : Errand α) (s : ρ × Log console) : Prop :=
  Upholds (Logged k.Tends) J P errand s

variable {k J} {P : α → ρ × Log console → Prop} {s : ρ × Log console} {records : ρ}
  {log : Log console}

/-- What the services keep while they log what they are asked, the console keeps. -/
theorem ensures_asked {I : ρ × Log services → Prop} {Q : α → ρ × Log services → Prop}
    {p : Program services α} {records : ρ} {recent : Log services}
    (h : p.Ensures (Freely k) (fun _ _ _ s => I s) Q (records, recent))
    (keeps : ∀ s, I s → J (s.1, log ++ asked s.2)) :
    p.Ensures (behind (Logged k.Tends)) (fun _ _ _ s => J s)
      (fun a s => ∃ recent, s.2 = log ++ asked recent ∧ Q a (s.1, recent))
      (records, log ++ asked recent) := by
  induction p generalizing records recent with
  | done a => exact ⟨recent, rfl, h⟩
  | ask q next ih =>
    rintro a ⟨records', log'⟩ ⟨tended, rfl⟩
    cases tended with
    | service attended =>
      obtain ⟨now, rest⟩ := h a (records', recent ++ [⟨q, a⟩]) ⟨attended, rfl⟩
      have moved : log ++ asked recent ++ [⟨.service q, a⟩] =
          log ++ asked (recent ++ [⟨q, a⟩]) := by
        rw [asked, asked, List.map_append, List.append_assoc]
        rfl
      dsimp only at rest ⊢
      rw [moved]
      exact ⟨keeps (records', recent ++ [⟨q, a⟩]) now, ih a rest⟩

/-- An operation on the services. -/
theorem stays_operation {I : ρ × Log services → Prop} {Q : α → Prop} {op : Operation α}
    (h : op.Keeps (Freely k) (fun _ _ _ s => I s) (fun _ => I) (fun a s => Q a ∧ I s)
      (records, []))
    (keeps : ∀ s, I s → J (s.1, log ++ asked s.2)) :
    Stays k J (fun a _ => Q a) (liftM op) (records, log) := by
  have asks := ensures_asked h keeps
  rw [asked, List.map_nil, List.append_nil] at asks
  apply upholds_operation
  apply Ensures.imp asks
  rintro r ⟨records', log'⟩ ⟨recent, rfl, ends⟩
  cases r with
  | ok a => exact ⟨ends.1, keeps (records', recent) ends.2⟩
  | error e => exact keeps (records', recent) ends

/-- A pass over a record in hand. -/
theorem stays_pass {I : ρ × Log services → Prop} {Q : Cluster → Log services → Prop}
    {p : Pass Unit} {c : Cluster}
    (h : p.Keeps (Freely k) (fun _ _ _ s => I s) (fun _ _ => I)
      (fun _ c' s => Q c' s.2 ∧ I s) c (records, []))
    (keeps : ∀ s, I s → J (s.1, log ++ asked s.2)) :
    Stays k J (fun c' s => ∃ recent, s.2 = log ++ asked recent ∧ Q c' recent) (pass p c)
      (records, log) := by
  have asks := ensures_asked h keeps
  rw [asked, List.map_nil, List.append_nil] at asks
  apply upholds_pass
  apply Ensures.imp asks
  rintro ⟨r, c'⟩ ⟨records', log'⟩ ⟨recent, rfl, ends⟩
  cases r with
  | ok u => exact ⟨⟨recent, rfl, ends.1⟩, keeps (records', recent) ends.2⟩
  | error e => exact keeps (records', recent) ends

section
variable (idle : ∀ (q : ConsoleRequest) (a : q.Answer) records log, q.Idle → J (records, log) →
  J (records, log ++ [⟨q, a⟩]))
include idle

theorem stays_load (id : Uuid) (now : J (records, log)) :
    Stays k J (fun c s => k.load id records = .ok c ∧ s = (records, log ++ [⟨.load id, .ok c⟩]))
      (load id) (records, log) := by
  refine upholds_ofResult ?_
  rintro a ⟨records', log'⟩ ⟨tended, rfl⟩
  have after := idle (.load id) a records log trivial now
  cases tended with
  | unloaded id e =>
    refine ⟨after, after, ?_⟩
    rintro c ⟨⟩
  | loaded =>
    refine ⟨after, after, ?_⟩
    intro c ok
    rw [ok]
    exact ⟨rfl, rfl⟩

/-- Nothing but what is asked of the services, and the removal of a record, touches the records. -/
theorem idle_tends (q : ConsoleRequest) (a : q.Answer) (s s' : ρ × Log console) (quiet : q.Idle)
    (now : J s) (tended : Logged k.Tends q s a s') : J s' := by
  obtain ⟨records, log⟩ := s
  obtain ⟨records', log'⟩ := s'
  obtain ⟨tended, rfl⟩ := tended
  have after := idle q a records log quiet now
  cases tended with
  | service | forgotten | refused | lost => exact quiet.elim
  | _ => exact after

end

end Errand

end ClusterLifecycle
