/-!
Programs as data: a computation that asks its surroundings for one effect at a time and goes on
with the answer. What a program does is separated from who answers, so the same session can be run
on a raw connection, on a WebSocket, or against an arbitrary party.
-/

namespace SpeedTest

/-- A program over the effects `E`, where an effect `e` is answered by a value of `Ans e`. -/
inductive Program (E : Type) (Ans : E → Type) (α : Type) where
  | done (result : α)
  | perform (effect : E) (next : Ans effect → Program E Ans α)

namespace Program

variable {E F : Type} {Ans : E → Type} {Reply : F → Type} {α β σ : Type}

/-- Perform a single effect. -/
def ask (e : E) : Program E Ans (Ans e) := .perform e .done

/-- Run the first program, then the second on its result. -/
protected def bind : Program E Ans α → (α → Program E Ans β) → Program E Ans β
  | .done a, f => f a
  | .perform e next, f => .perform e fun r => (next r).bind f

instance : Monad (Program E Ans) where
  pure := .done
  bind := Program.bind

/-- Replace each effect by a program over other effects. -/
def interpret (step : (e : E) → Program F Reply (Ans e)) : Program E Ans α → Program F Reply α
  | .done a => .done a
  | .perform e next => (step e).bind fun r => (next r).interpret step

/-- Who answers the effects of a program: an answer, or `none` where it never comes, and the state
of the surroundings afterwards. -/
abbrev Answering (E : Type) (Ans : E → Type) (σ : Type) := (e : E) → σ → Option (Ans e) × σ

/-- The result of a program, or `none` where it waits for an answer that never comes. -/
def run (answering : Answering E Ans σ) : Program E Ans α → σ → Option α × σ
  | .done a, s => (some a, s)
  | .perform e next, s =>
    match answering e s with
    | (some r, s') => (next r).run answering s'
    | (none, s') => (none, s')

/-- The effects of a run that were answered, in order and each with its answer, followed by the
effect that was never answered, if any. -/
def transcript (answering : Answering E Ans σ) :
    Program E Ans α → σ → List ((e : E) × Option (Ans e))
  | .done _, _ => []
  | .perform e next, s =>
    match answering e s with
    | (some r, s') => ⟨e, some r⟩ :: (next r).transcript answering s'
    | (none, _) => [⟨e, none⟩]

end Program

end SpeedTest
