/-!
Operations on the outside world, as functions on an explicit state.

An operation ends in one of three ways: it yields a value, it fails, or it waits for something
that never comes. The state it leaves behind is kept in all three cases, since a deadline or a
second party may go on from there.
-/

namespace SpeedTest

/-- How an operation on the outside world ends. -/
inductive Outcome (ε α : Type) where
  | done (value : α)
  | failed (error : ε)
  /-- The operation waits for something that never comes. -/
  | pending
deriving Repr, DecidableEq

/-- The outcome of an operation, seen by a caller for whom a failure is an answer like any other. -/
def Outcome.toExcept? {ε α : Type} : Outcome ε α → Option (Except ε α)
  | .done value => some (.ok value)
  | .failed error => some (.error error)
  | .pending => none

/-- An operation that reads and changes a state of type `σ`. -/
def Action (σ ε α : Type) : Type := σ → Outcome ε α × σ

namespace Action

variable {σ τ ε ε' α β : Type}

/-- Run the operation from the given state. -/
def run (x : Action σ ε α) (s : σ) : Outcome ε α × σ := x s

protected def pure (a : α) : Action σ ε α := fun s => (.done a, s)

/-- A failing or waiting first operation keeps the second from starting. -/
protected def bind (x : Action σ ε α) (f : α → Action σ ε β) : Action σ ε β := fun s =>
  match x s with
  | (.done a, s') => f a s'
  | (.failed e, s') => (.failed e, s')
  | (.pending, s') => (.pending, s')

instance : Monad (Action σ ε) where
  pure := Action.pure
  bind := Action.bind

/-- Fail without touching the state. -/
def fail (e : ε) : Action σ ε α := fun s => (.failed e, s)

/-- Wait for something that never comes. -/
def hang : Action σ ε α := fun s => (.pending, s)

/-- The current state. -/
def get : Action σ ε σ := fun s => (.done s, s)

def modify (f : σ → σ) : Action σ ε Unit := fun s => (.done (), f s)

/-- Yield a value or fail, as the given result says. -/
def ofExcept : Except ε α → Action σ ε α
  | .ok a => Action.pure a
  | .error e => fail e

/-- Turn a failure into a value. A wait stays a wait. -/
def attempt (x : Action σ ε α) : Action σ ε' (Except ε α) := fun s =>
  match x s with
  | (.done a, s') => (.done (.ok a), s')
  | (.failed e, s') => (.done (.error e), s')
  | (.pending, s') => (.pending, s')

def mapError (f : ε → ε') (x : Action σ ε α) : Action σ ε' α := fun s =>
  match x s with
  | (.done a, s') => (.done a, s')
  | (.failed e, s') => (.failed (f e), s')
  | (.pending, s') => (.pending, s')

/-- Run an operation on a part of the state. -/
def focus (part : σ → τ) (put : τ → σ → σ) (x : Action τ ε α) : Action σ ε α := fun s =>
  match x (part s) with
  | (r, t) => (r, put t s)

@[simp] theorem pure_apply (a : α) (s : σ) : (pure a : Action σ ε α) s = (.done a, s) := rfl

theorem bind_apply (x : Action σ ε α) (f : α → Action σ ε β) (s : σ) :
    (x >>= f) s = match x s with
      | (.done a, s') => f a s'
      | (.failed e, s') => (.failed e, s')
      | (.pending, s') => (.pending, s') := rfl

@[simp] theorem fail_apply (e : ε) (s : σ) : (fail e : Action σ ε α) s = (.failed e, s) := rfl

end Action

end SpeedTest
