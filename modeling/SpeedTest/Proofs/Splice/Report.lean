import SpeedTest.Proofs.Splice.Barrier

/-! What a splice reports of the bytes that it has copied. A direction that ends well is reported
with the number of bytes that its sink has received. One that fails is reported with none, however
many it has copied before. -/

namespace SpeedTest

open Relation (ReflTransGen)

namespace Copy

variable {σ : Type} {read : Nat → Action σ IoError Bytes} {delays : Delays} {c c' : Copy}
  {source source' : σ} {sink sink' : Stream} {before : Bytes}

/-- The number of bytes that a copy has counted so far. With a failure the count is lost. -/
def count? : Copy → Option Nat
  | reading moved _ => some moved
  | writing _ moved => some moved
  | flushing moved => some moved
  | ended (.ok moved) => some moved
  | ended (.error _) => none

/-- Of the bytes behind `before` the copy has counted every one. -/
def Counted (before : Bytes) (c : Copy) (sink : Stream) : Prop :=
  ∃ copied, sink.written = before ++ copied ∧ ∀ n, c.count? = some n → n = copied.length

theorem Counted.of_same (h : Counted before c sink) (hWritten : sink'.written = sink.written)
    (hCount : c'.count? = c.count? ∨ c'.count? = none) : Counted before c' sink' := by
  obtain ⟨copied, hSink, hCopied⟩ := h
  refine ⟨copied, hWritten.trans hSink, fun n hn => ?_⟩
  rcases hCount with hSame | hNone
  · exact hCopied n (hSame.symm.trans hn)
  · rw [hNone] at hn
    cases hn

/-- What a write accepts is counted. -/
theorem Counted.of_write {left : Bytes} {moved : Nat} (h : Counted before (writing left moved) sink)
    {r : Outcome IoError Nat} (hWrite : Stream.write left sink = (r, sink'))
    (hCount : ∀ n, c'.count? = some n → ∃ more, r = .done more ∧ n = moved + more) :
    Counted before c' sink' := by
  obtain ⟨copied, hSink, hCopied⟩ := h
  obtain ⟨front, -, hWritten, hLength⟩ := Stream.written_write left sink
  rw [hWrite] at hWritten hLength
  refine ⟨copied ++ front, ?_, fun n hn => ?_⟩
  · rw [hWritten, hSink, List.append_assoc]
  · obtain ⟨more, rfl, rfl⟩ := hCount n hn
    rw [List.length_append, ← hLength more rfl, hCopied moved rfl]

theorem Moves.counted (h : Moves read c source sink c' source' sink')
    (hCounted : Counted before c sink) : Counted before c' sink' := by
  cases h with
  | took | finished => exact hCounted.of_same rfl (.inl rfl)
  | broken => exact hCounted.of_same rfl (.inr rfl)
  | settled _ hFlush | flushed hFlush =>
      exact hCounted.of_same (Stream.written_of_flush hFlush) (.inl rfl)
  | unsettled _ hFlush | unflushed hFlush =>
      exact hCounted.of_same (Stream.written_of_flush hFlush) (.inr rfl)
  | refused hWrite | stalled hWrite => exact hCounted.of_write hWrite fun n hn => by cases hn
  | wrote hWrite | drained hWrite =>
      exact hCounted.of_write hWrite fun n hn => ⟨_, rfl, (Option.some.inj hn).symm⟩

theorem Waits.counted (h : Waits delays read c source sink c' source' sink')
    (hCounted : Counted before c sink) : Counted before c' sink' := by
  cases h with
  | settled _ hFlush => exact hCounted.of_same (Stream.written_of_flush hFlush) (.inl rfl)
  | unsettled _ hFlush => exact hCounted.of_same (Stream.written_of_flush hFlush) (.inr rfl)
  | toppedUp => exact hCounted.of_same rfl (.inl rfl)
  | broken => exact hCounted.of_same rfl (.inr rfl)

/-- The count is kept by whatever a copy does. -/
theorem Advances.counted (h : Advances delays read c source sink c' source' sink')
    (hCounted : Counted before c sink) : Counted before c' sink' :=
  h.elim (Moves.counted · hCounted) (Waits.counted · hCounted)

/-- The bytes that a copy is credited with when it has ended: those that it has copied, and none if
it has failed. -/
def credited (result : Except IoError Nat) (copied : Bytes) : Nat :=
  match result with
  | .ok _ => copied.length
  | .error _ => 0

theorem Counted.reported {result : Except IoError Nat} (h : Counted before (ended result) sink) :
    ∃ copied, sink.written = before ++ copied ∧ reported result = credited result copied := by
  obtain ⟨copied, hWritten, hCopied⟩ := h
  refine ⟨copied, hWritten, ?_⟩
  cases result with
  | ok moved => exact hCopied moved rfl
  | error e => rfl

end Copy

namespace Splice

/-- A direction counts what it has written. -/
theorem Lane.counted_of_advances {σ : Type} {read : Nat → Action σ IoError Bytes}
    {delays : Copy.Delays} {l l' : Lane σ} (hFresh : l.copy = .fresh)
    (h : ReflTransGen (Advances delays read) l l') :
    Copy.Counted l.sink.written l'.copy l'.sink := by
  induction h with
  | refl =>
      rw [hFresh]
      exact ⟨[], (List.append_nil _).symm, fun n hn => (Option.some.inj hn).symm⟩
  | tail _ hNext ih => exact hNext.counted ih

open State

/-- When a splice has finished, each number that it reports is that of the bytes which the direction
has written, provided that the direction has not failed, whatever became of the other. A direction
that has failed is reported with zero. -/
theorem reports_what_ended_well {p : PeekStream} {target : Stream}
    {upDelays downDelays : Copy.Delays} {t : State} {stats : Stats}
    (h : Turns upDelays downDelays (start p target) t) (hStats : t.stats = some stats) :
    ∃ u d up down, t.BothEnded u d ∧
      t.target.written = target.written ++ up ∧ stats.clientToTarget = Copy.credited u up ∧
      t.client.inner.written = p.inner.written ++ down ∧
      stats.targetToClient = Copy.credited d down := by
  have hKept : Kept p.inner target t := (Kept.start rfl rfl).turns h
  obtain ⟨-, -, u, d, hBooks, hEnded⟩ := hKept
  -- There are statistics in the last stage only, and both directions have ended there.
  have hEntry : t.stats =
      if t.stage = .released then some ⟨Copy.reported u, Copy.reported d⟩ else none :=
    congrArg Books.stats hBooks
  have hStage : t.stage = .released := by
    refine Decidable.byContradiction fun hBefore => ?_
    rw [hStats, if_neg hBefore] at hEntry
    cases hEntry
  rw [hStats, if_pos hStage] at hEntry
  obtain rfl := Option.some.inj hEntry
  obtain ⟨hUp, hDown⟩ := hEnded (by simp [hStage])
  obtain ⟨hUpRun, hDownRun⟩ := lanes_of_turns h
  have hUpCounted := Lane.counted_of_advances rfl hUpRun
  have hDownCounted := Lane.counted_of_advances rfl hDownRun
  rw [show t.upLane.copy = _ from hUp] at hUpCounted
  rw [show t.downLane.copy = _ from hDown] at hDownCounted
  obtain ⟨up, hUpWritten, hUpReported⟩ := Copy.Counted.reported hUpCounted
  obtain ⟨down, hDownWritten, hDownReported⟩ := Copy.Counted.reported hDownCounted
  exact ⟨u, d, up, down, ⟨hUp, hDown⟩, hUpWritten, hUpReported, hDownWritten, hDownReported⟩

/-- A client that sends three bytes and then fails. -/
def failingClient : Stream := .ofArrivals [.chunk [97, 98, 99], .failure .earlyEnd] .finished

/-- Each direction is reported on its own: here the client fails, and the target does not. -/
theorem reports_what_ended_well_of_failing_client :
    let target := Stream.ofArrivals [.chunk [120]] .finished
    let t := run (start (.ofStream failingClient) target)
    ∃ u d up down, t.BothEnded u d ∧ t.target.written = up ∧ 0 = Copy.credited u up ∧
      t.client.inner.written = down ∧ 1 = Copy.credited d down := by
  intro target t
  have hTurns : Turns .none .none (start (.ofStream failingClient) target) t :=
    turns_of_steps (reaches_run _)
  have hStats : t.stats = some ⟨0, 1⟩ := rfl
  exact reports_what_ended_well hTurns hStats

/-- The three bytes have been copied, and are not reported. -/
theorem misses_bytes_of_failing_client :
    ¬ ∀ (p : PeekStream) (target : Stream) (t : State) (stats : Stats),
      Turns .none .none (start p target) t → t.stats = some stats →
      ∃ up down, t.target.written = target.written ++ up ∧
        t.client.inner.written = p.inner.written ++ down ∧ stats = ⟨up.length, down.length⟩ := by
  intro hAll
  have hTurns : Turns .none .none
      (start (.ofStream failingClient) (.ofArrivals [.chunk [120]] .finished))
      (run (start (.ofStream failingClient) (.ofArrivals [.chunk [120]] .finished))) :=
    turns_of_steps (reaches_run _)
  obtain ⟨up, down, hWritten, -, hStats⟩ := hAll _ _ _ ⟨0, 1⟩ hTurns rfl
  have hThree : [97, 98, 99] = up := hWritten
  rw [← hThree] at hStats
  cases hStats

end Splice

end SpeedTest
