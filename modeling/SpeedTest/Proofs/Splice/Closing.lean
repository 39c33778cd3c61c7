import SpeedTest.Proofs.Splice.Progress

/-! The end of a splice. As long as a direction has not ended nothing is shut down, released or
told; once both have, the rest follows a fixed course that depends on how they ended and on which
shutdowns fail. -/

namespace SpeedTest

open Relation (ReflTransGen)

theorem Stream.shutdown_outcome {s t : Stream} (hFault : s.shutdownFault = t.shutdownFault)
    (hCount : s.shutdowns = t.shutdowns) : (shutdown s).1 = (shutdown t).1 := by
  unfold shutdown
  rw [hFault, hCount]
  cases t.shutdownFault t.shutdowns <;> rfl

namespace Splice

/-- What a splice keeps apart from the bytes. -/
structure Books where
  log : List Log.Entry
  clientShutdowns : Nat
  targetShutdowns : Nat
  clientDrops : Nat
  targetDrops : Nat
  stats : Option Stats

namespace State

def books (s : State) : Books :=
  ⟨s.log, s.client.inner.shutdowns, s.target.shutdowns, s.clientDrops, s.targetDrops, s.stats⟩

/-- The entries up to a stage, for directions that ended with `u` and `d`. -/
def entriesAt (client target : Stream) (u d : Except IoError Nat) (stage : Stage) :
    List Log.Entry :=
  let ofClient := failureEntry "client->target" u ++ failureEntry "target->client" d
    ++ shutdownEntry "client" (Stream.shutdown client).1
  let ofTarget := shutdownEntry "target" (Stream.shutdown target).1
  match stage with
  | .open => []
  | .clientShut => ofClient
  | .bothShut => ofClient ++ ofTarget
  | .released => ofClient ++ ofTarget ++ [finishedEntry ⟨Copy.reported u, Copy.reported d⟩]

/-- The books at a stage, for directions that ended with `u` and `d`. -/
def booksAt (client target : Stream) (u d : Except IoError Nat) (stage : Stage) : Books where
  log := (entriesAt client target u d stage).reverse
  clientShutdowns := client.shutdowns + if stage = .open then 0 else 1
  targetShutdowns := target.shutdowns + if stage = .open ∨ stage = .clientShut then 0 else 1
  clientDrops := if stage = .released then 1 else 0
  targetDrops := if stage = .released then 1 else 0
  stats := if stage = .released then some ⟨Copy.reported u, Copy.reported d⟩ else none

/-- The books are in order: they are those of the stage, and no stage but the first is reached
before both directions have ended. -/
structure Kept (client target : Stream) (s : State) : Prop where
  clientFault : s.client.inner.shutdownFault = client.shutdownFault
  targetFault : s.target.shutdownFault = target.shutdownFault
  books : ∃ u d, s.books = booksAt client target u d s.stage ∧
    (s.stage ≠ .open → s.up = .ended u ∧ s.down = .ended d)

variable {client target : Stream} {s t : State}

theorem Kept.start {p : PeekStream} (hFault : p.inner.shutdownFault = client.shutdownFault)
    (hCount : p.inner.shutdowns = client.shutdowns) : Kept client target (start p target) := by
  refine ⟨hFault, rfl, .ok 0, .ok 0, ?_, fun h => absurd rfl h⟩
  simp only [State.books, Splice.start, hCount]
  rfl

/-- A direction that has not ended moves neither the stage nor what the books hold. -/
theorem Kept.up (h : Kept client target s) (hRunning : ∀ result, s.up ≠ .ended result) (up : Copy)
    {client' : PeekStream} {target' : Stream}
    (hClient : Copy.Draws PeekStream.read s.client client') (hTarget : s.target.Fills target') :
    Kept client target { s with up := up, client := client', target := target' } := by
  obtain ⟨hClientFault, hTargetFault, u, d, hBooks, hEnded⟩ := h
  obtain ⟨arrivals, hInner⟩ := PeekStream.inner_of_draws hClient
  obtain ⟨room, writes, sent, flushes, rfl⟩ := hTarget
  have hShutdowns : client'.inner.shutdowns = s.client.inner.shutdowns := by rw [hInner]
  refine ⟨by rw [← hClientFault, hInner], hTargetFault, u, d, ?_, ?_⟩
  · rw [← hBooks]
    simp only [State.books, hShutdowns]
  · intro hStage
    exact absurd (hEnded hStage).1 (hRunning u)

theorem Kept.down (h : Kept client target s) (hRunning : ∀ result, s.down ≠ .ended result)
    (down : Copy) {target' inner : Stream} (hTarget : Copy.Draws Stream.read s.target target')
    (hInner : s.client.inner.Fills inner) :
    Kept client target { s with
      down := down
      target := target'
      client := { s.client with inner := inner } } := by
  obtain ⟨hClientFault, hTargetFault, u, d, hBooks, hEnded⟩ := h
  obtain ⟨arrivals, rfl⟩ := Stream.eq_of_draws hTarget
  obtain ⟨room, writes, sent, flushes, rfl⟩ := hInner
  refine ⟨hClientFault, hTargetFault, u, d, hBooks, ?_⟩
  intro hStage
  exact absurd (hEnded hStage).2 (hRunning d)

/-- The stages are entered in the books one after another. -/
theorem Kept.stepJoin (h : Kept client target s) (hJoin : s.stepJoin = some t) :
    Kept client target t := by
  obtain ⟨hClientFault, hTargetFault, u, d, hBooks, hEnded⟩ := h
  have hClient := congrArg Books.clientShutdowns hBooks
  have hTarget := congrArg Books.targetShutdowns hBooks
  obtain ⟨u', d', hUp, hDown, hCases⟩ := cases_of_stepJoin hJoin
  -- From the second stage on the results are those that the books are kept for.
  have hSame (hStage : s.stage ≠ .open) : u' = u ∧ d' = d := by
    obtain ⟨hUp', hDown'⟩ := hEnded hStage
    exact ⟨Copy.ended.inj (hUp.symm.trans hUp'), Copy.ended.inj (hDown.symm.trans hDown')⟩
  rcases hCases with ⟨hStage, rfl⟩ | ⟨hStage, rfl⟩ | ⟨hStage, rfl⟩
  · rw [hStage] at hBooks hClient hTarget
    have hOutcome := Stream.shutdown_outcome hClientFault hClient
    refine ⟨?_, hTargetFault, u', d', ?_, fun _ => ⟨hUp, hDown⟩⟩
    · simp only [tell, Stream.shutdown_state]
      exact hClientFault
    · simp only [State.books, booksAt, tell, Stream.shutdown_state, Books.mk.injEq] at *
      obtain ⟨hLog, hClient, hTarget, hDrops, hDrops', hStats⟩ := hBooks
      simp [hLog, hClient, hTarget, hDrops, hDrops', hStats, entriesAt, hOutcome]
  · obtain ⟨rfl, rfl⟩ := hSame (by simp [hStage])
    rw [hStage] at hBooks hTarget
    have hOutcome := Stream.shutdown_outcome hTargetFault hTarget
    refine ⟨hClientFault, ?_, u', d', ?_, fun _ => ⟨hUp, hDown⟩⟩
    · simp only [tell, Stream.shutdown_state]
      exact hTargetFault
    · simp only [State.books, booksAt, tell, Stream.shutdown_state, Books.mk.injEq] at *
      obtain ⟨hLog, hClient, hTarget, hDrops, hDrops', hStats⟩ := hBooks
      simp [hLog, hClient, hTarget, hDrops, hDrops', hStats, entriesAt, hOutcome]
  · obtain ⟨rfl, rfl⟩ := hSame (by simp [hStage])
    rw [hStage] at hBooks
    refine ⟨hClientFault, hTargetFault, u', d', ?_, fun _ => ⟨hUp, hDown⟩⟩
    simp only [State.books, booksAt, tell, Books.mk.injEq] at *
    obtain ⟨hLog, hClient, hTarget, hDrops, hDrops', hStats⟩ := hBooks
    simp [hLog, hClient, hTarget, hDrops, hDrops', entriesAt]

theorem Kept.step (h : Kept client target s) (hStep : Step s t) : Kept client target t := by
  cases hStep with
  | up hUp =>
      obtain ⟨up, client', target', rfl, hMoves⟩ := moves_of_stepUp hUp
      exact h.up hMoves.ne_ended up hMoves.draws hMoves.fills
  | down hDown =>
      obtain ⟨down, target', inner, rfl, hMoves⟩ := moves_of_stepDown hDown
      exact h.down hMoves.ne_ended down hMoves.draws hMoves.fills
  | join hJoin => exact h.stepJoin hJoin

theorem Kept.reaches (h : Kept client target s) (hReaches : ReflTransGen Step s t) :
    Kept client target t := by
  induction hReaches with
  | refl => exact h
  | tail _ hStep ih => exact ih.step hStep

/-- A splice whose directions have ended does not rest before everything is released. -/
theorem stage_of_resting (h : s.Resting) {u d : Except IoError Nat} (hUp : s.up = .ended u)
    (hDown : s.down = .ended d) : s.stage = .released := by
  have hJoin := (resting_iff.mp h).2.2
  simp only [stepJoin, outcome?, hUp, hDown, Copy.result?, Option.bind_some] at hJoin
  split at hJoin
  · cases hJoin
  · cases hJoin
  · cases hJoin
  · assumption

end State

end Splice

end SpeedTest
