/-
# `GridQueue.Program` — programs that call collaborators

A program is done, or calls a collaborator and goes on with the answer.
What the collaborators do is left open: `run` executes a program against
any way of answering, and a scheduler that lets several programs take
turns needs to look at nothing but the next call.  `run_bind` says that
programs in sequence run in sequence.
-/

namespace GridQueue

/-- A program over the calls `C`, whose answers have the types `A`. -/
inductive Program (C : Type) (A : C → Type) (α : Type) : Type
  | done (value : α)
  | call (c : C) (next : A c → Program C A α)

namespace Program

variable {C : Type} {A : C → Type} {α β γ σ : Type}

/-- Makes one call and is done with its answer. -/
def perform (c : C) : Program C A (A c) := call c done

/-- Runs `p`, then what `f` makes of its value. -/
def bind (p : Program C A α) (f : α → Program C A β) : Program C A β :=
  match p with
  | done a => f a
  | call c next => call c fun answer => (next answer).bind f

instance : Monad (Program C A) where
  pure := done
  bind := bind

@[simp] theorem pure_eq_done (a : α) : (pure a : Program C A α) = done a := rfl

@[simp] theorem bind_done (a : α) (f : α → Program C A β) : (done a).bind f = f a := rfl

@[simp] theorem bind_call (c : C) (next : A c → Program C A α) (f : α → Program C A β) :
    (call c next).bind f = call c fun answer => (next answer).bind f := rfl

/-! ## Interpretation -/

/-- Carries out a program by programs over other calls, one for each of
its calls. -/
def interpret {D : Type} {B : D → Type} (carryOut : (c : C) → Program D B (A c)) :
    Program C A α → Program D B α
  | done a => done a
  | call c next => (carryOut c).bind fun answer => (next answer).interpret carryOut

@[simp] theorem interpret_done {D : Type} {B : D → Type}
    (carryOut : (c : C) → Program D B (A c)) (a : α) :
    (done a : Program C A α).interpret carryOut = done a := rfl

/-! ## Execution -/

/-- A way to answer calls that may change a state.  A call without an
answer never returns. -/
abbrev Answering (C : Type) (A : C → Type) (σ : Type) : Type :=
  (c : C) → σ → Option (A c) × σ

/-- Runs a program; there is no value if one of its calls never
returns. -/
def run (answer : Answering C A σ) : Program C A α → σ → Option α × σ
  | done a, s => (some a, s)
  | call c next, s =>
      match answer c s with
      | (some a, s') => (next a).run answer s'
      | (none, s') => (none, s')

@[simp] theorem run_done (answer : Answering C A σ) (a : α) (s : σ) :
    (done a : Program C A α).run answer s = (some a, s) := rfl

theorem run_bind (answer : Answering C A σ) (p : Program C A α) (f : α → Program C A β)
    (s : σ) :
    (p.bind f).run answer s =
      match p.run answer s with
      | (some a, s') => (f a).run answer s'
      | (none, s') => (none, s') := by
  induction p generalizing s with
  | done a => rfl
  | call c next ih =>
      simp only [bind_call, run]
      cases h : answer c s with
      | mk reply s' =>
          cases reply with
          | none => rfl
          | some a => simp only [ih]

end Program

end GridQueue
