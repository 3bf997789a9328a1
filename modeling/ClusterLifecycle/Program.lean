/-!
Programs that ask their surroundings: a tree whose nodes are requests and whose branches are the
answers. What a program does is read off its runs against any way of answering.
-/

namespace ClusterLifecycle

/-- The requests that may be made, and the kind of answer that each gets. -/
structure Interface where
  Request : Type
  Answer : Request → Type

inductive Program (I : Interface) (α : Type) where
  | done (result : α)
  | ask (request : I.Request) (next : I.Answer request → Program I α)

namespace Program

variable {I J : Interface} {α β σ : Type}

def bind : Program I α → (α → Program I β) → Program I β
  | done a, f => f a
  | ask q next, f => ask q fun answer => (next answer).bind f

instance : Monad (Program I) where
  pure := done
  bind := bind

@[simp] theorem pure_eq (a : α) : (pure a : Program I α) = done a := rfl

@[simp] theorem bind_eq (p : Program I α) (f : α → Program I β) : p >>= f = p.bind f := rfl

@[simp] theorem done_bind (a : α) (f : α → Program I β) : (done a).bind f = f a := rfl

@[simp] theorem ask_bind (q : I.Request) (next : I.Answer q → Program I α)
    (f : α → Program I β) : (ask q next).bind f = ask q fun answer => (next answer).bind f := rfl

theorem bind_done (p : Program I α) : p.bind done = p := by
  induction p with
  | done => rfl
  | ask q next ih => simp [ih]

theorem bind_assoc {γ : Type} (p : Program I α) (f : α → Program I β) (g : β → Program I γ) :
    (p.bind f).bind g = p.bind fun a => (f a).bind g := by
  induction p with
  | done => rfl
  | ask q next ih => simp [ih]

instance : LawfulMonad (Program I) :=
  LawfulMonad.mk' _ bind_done (fun _ _ => rfl) bind_assoc

/-- One request, and its answer as the result. -/
def call (q : I.Request) : Program I (I.Answer q) := ask q done

/-- Runs against surroundings with a state. -/
def run (answer : (q : I.Request) → σ → I.Answer q × σ) : Program I α → σ → α × σ
  | done a, s => (a, s)
  | ask q next, s => let (a, s) := answer q s; (next a).run answer s

@[simp] theorem run_done (answer : (q : I.Request) → σ → I.Answer q × σ) (a : α) (s : σ) :
    (done a : Program I α).run answer s = (a, s) := rfl

@[simp] theorem run_ask (answer : (q : I.Request) → σ → I.Answer q × σ) (q : I.Request)
    (next : I.Answer q → Program I α) (s : σ) :
    (ask q next).run answer s = (next (answer q s).1).run answer (answer q s).2 := rfl

theorem run_bind (answer : (q : I.Request) → σ → I.Answer q × σ) (p : Program I α)
    (f : α → Program I β) (s : σ) :
    (p.bind f).run answer s = (f (p.run answer s).1).run answer (p.run answer s).2 := by
  induction p generalizing s with
  | done => rfl
  | ask q next ih => simp [ih]

/-- Answers each request by a program over other requests. -/
def through (answer : (q : I.Request) → Program J (I.Answer q)) : Program I α → Program J α
  | done a => done a
  | ask q next => (answer q).bind fun a => (next a).through answer

/-- Answers each request by a program over other requests; `σ` is kept from one to the next. -/
def lower (answer : (q : I.Request) → σ → Program J (I.Answer q × σ)) :
    Program I α → σ → Program J (α × σ)
  | done a, s => done (a, s)
  | ask q next, s => (answer q s).bind fun (a, s) => (next a).lower answer s

/-- Runs against surroundings that act in a monad. -/
def interpret {m : Type → Type} [Monad m] (answer : (q : I.Request) → m (I.Answer q)) :
    Program I α → m α
  | done a => pure a
  | ask q next => answer q >>= fun a => (next a).interpret answer

end Program

end ClusterLifecycle
