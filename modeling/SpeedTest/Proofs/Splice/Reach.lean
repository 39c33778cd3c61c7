import SpeedTest.Proofs.Splice.Closing

/-! How far the bytes of a client get. Where the client's stream ends and no write of the target is
granted zero bytes, the first direction ends in a way that its bytes and the target decide, whatever
the pieces in which they come and whatever the other direction does. -/

namespace SpeedTest

open Relation (ReflTransGen)

/-- The stream delivers `w` and then ends. -/
def PeekStream.Brings (p : PeekStream) (w : Bytes) : Prop :=
  ∃ rest : Stream, rest.AtEnd ∧ p.Delivers w rest

namespace PeekStream

variable {p p' : PeekStream} {w bs : Bytes} {n : Nat}

theorem Brings.read (h : p.Brings w) (hn : 0 < n) :
    ∃ piece w' p', w = piece ++ w' ∧ (piece = [] → w = []) ∧
      PeekStream.read n p = (.done piece, p') ∧ p'.Brings w' := by
  obtain ⟨rest, hEnd, hDelivers⟩ := h
  by_cases hNone : w = []
  · subst hNone
    refine ⟨[], [], ⟨rest, []⟩, rfl, fun _ => rfl, ?_, rest, hEnd, [], Arrival.Smooth.nil, rfl, rfl⟩
    rw [hDelivers.read_nil, hEnd.read]
  · obtain ⟨piece, w', p', hPiece, -, hSplit, hRead, hRest⟩ := hDelivers.read hn hNone
    exact ⟨piece, w', p', hSplit, fun h => absurd h hPiece, hRead, rest, hEnd, hRest⟩

/-- What a read yields stands at the front, and no bytes at all mean that there are none left. -/
theorem Brings.of_read (h : p.Brings w) (hn : 0 < n) {r : Outcome IoError Bytes}
    (hRead : PeekStream.read n p = (r, p')) :
    ∃ piece w', r = .done piece ∧ w = piece ++ w' ∧ (piece = [] → w = []) ∧ p'.Brings w' := by
  obtain ⟨piece, w', q, hSplit, hLast, hRead', hBrings⟩ := h.read hn
  rw [hRead] at hRead'
  cases hRead'
  exact ⟨piece, w', rfl, hSplit, hLast, hBrings⟩

theorem Brings.ending_eq (h : p.Brings w) : p.inner.ending = .finished := by
  obtain ⟨rest, hEnd, front, -, -, hInner⟩ := h
  rw [hInner]
  exact hEnd.ending

theorem Brings.incomingSide (h : p.Brings w) : p.incomingSide.Brings w := by
  obtain ⟨rest, hEnd, front, hSmooth, hContent, hInner⟩ := h
  refine ⟨rest.incomingSide, ⟨hEnd.arrivals, hEnd.ending⟩, front, hSmooth, hContent, ?_⟩
  simp only [PeekStream.incomingSide, Stream.incomingSide, hInner]
  rfl

end PeekStream

namespace Copy

/-- How a copy ends: its result, and what its sink has come to. -/
structure End where
  result : Except IoError Nat
  written : Bytes
  room : Option Nat
  flushes : Nat

/-- The end of a copy that has moved some bytes and has `bs` still to write. All of them are written
and flushed if there is room for them, and otherwise as many as there is room for. -/
def endOf (moved : Nat) (bs : Bytes) (sink : Stream) : End :=
  let whole : End :=
    { result :=
        match sink.flushFault sink.flushes with
        | none => .ok (moved + bs.length)
        | some e => .error e
      written := sink.written ++ bs
      room := sink.room.map (· - bs.length)
      flushes := sink.flushes + 1 }
  match sink.room with
  | none => whole
  | some r =>
    if bs.length ≤ r then whole
    else
      { result := .error sink.writeFault
        written := sink.written ++ bs.take r
        room := some 0
        flushes := sink.flushes }

/-- What there is room for is written, and nothing else. -/
theorem written_endOf (moved : Nat) (bs : Bytes) (sink : Stream) :
    (endOf moved bs sink).written = sink.written ++
      match sink.room with
      | none => bs
      | some r => bs.take r := by
  unfold endOf
  cases sink.room with
  | none => rfl
  | some r =>
      by_cases hFits : bs.length ≤ r
      · simp [hFits, List.take_of_length_le hFits]
      · simp [hFits]

/-- With nothing left to write there is always room enough. -/
theorem endOf_nil (moved : Nat) (sink : Stream) :
    endOf moved [] sink =
      { result :=
          match sink.flushFault sink.flushes with
          | none => .ok moved
          | some e => .error e
        written := sink.written
        room := sink.room
        flushes := sink.flushes + 1 } := by
  unfold endOf
  cases sink.room <;> simp

/-- What a copy will come to, when `pending` is still to be read. -/
def Heads (pending : Bytes) (sink : Stream) (e : End) : Copy → Prop
  | reading moved _ => endOf moved pending sink = e
  | writing left moved => left ≠ [] ∧ endOf moved (left ++ pending) sink = e
  | flushing moved => endOf moved [] sink = e
  | ended result => e = ⟨result, sink.written, sink.room, sink.flushes⟩

/-- Bytes that have been written are as good as bytes that are yet to be. -/
theorem endOf_write {front : Bytes} {sink : Stream}
    (hRoom : ∀ r, sink.room = some r → front.length ≤ r) (moved : Nat) (bs : Bytes) (writes : Nat) :
    endOf (moved + front.length) bs
        { sink with
          room := sink.room.map (· - front.length)
          writes := writes
          sent := front :: sink.sent } =
      endOf moved (front ++ bs) sink := by
  cases hSink : sink.room with
  | none => simp [endOf, hSink, Stream.written, Nat.add_assoc]
  | some r =>
      have hLe := hRoom r hSink
      by_cases hFits : front.length + bs.length ≤ r
      · have hRest : bs.length ≤ r - front.length := by omega
        simp [endOf, hSink, hFits, hRest, Stream.written, Nat.sub_sub, Nat.add_assoc]
      · have hRest : ¬ bs.length ≤ r - front.length := by omega
        simp [endOf, hSink, hFits, hRest, Stream.written, List.take_append,
          List.take_of_length_le hLe]

section Moves

variable {c c' : Copy} {p p' : PeekStream} {sink sink' : Stream} {pending : Bytes} {e : End}

/-- A move changes nothing about what the copy will come to. -/
theorem Moves.heads (h : Moves PeekStream.read c p sink c' p' sink') (hBrings : p.Brings pending)
    (hGrant : ∀ n, sink.grant n ≠ some 0) (hHeads : c.Heads pending sink e) :
    ∃ pending', p'.Brings pending' ∧ c'.Heads pending' sink' e := by
  have hSize : 0 < bufferSize := by decide
  cases h with
  | took hRead hBytes =>
      obtain ⟨piece, w', hPiece, rfl, -, hRest⟩ := hBrings.of_read hSize hRead
      cases hPiece
      exact ⟨w', hRest, hBytes, hHeads⟩
  | finished hRead =>
      obtain ⟨piece, w', hPiece, hSplit, hLast, hRest⟩ := hBrings.of_read hSize hRead
      cases hPiece
      rw [hLast rfl] at hHeads
      exact ⟨w', hRest, hHeads⟩
  | broken hRead =>
      obtain ⟨piece, w', hPiece, -⟩ := hBrings.of_read hSize hRead
      cases hPiece
  | settled hRead | unsettled hRead =>
      -- A source that ends never keeps its reader waiting.
      obtain ⟨piece, w', q, -, -, hDone, -⟩ := hBrings.read hSize
      rw [hDone] at hRead
      cases hRead
  | refused hWrite =>
      -- The room is used up, so that nothing of what is left will ever be written.
      obtain ⟨hLeft, hEnd⟩ := hHeads
      obtain ⟨hFull, rfl, rfl⟩ := Stream.write_failed hWrite
      refine ⟨pending, hBrings, ?_⟩
      rw [← hEnd]
      simp [Heads, endOf, hFull, hLeft, Stream.written]
  | stalled hWrite =>
      obtain ⟨front, back, hFront, -, hLength, -⟩ := Stream.write_done hGrant hHeads.1 hWrite
      exact absurd (List.length_eq_zero_iff.mp hLength.symm) hFront
  | wrote hWrite hSome hLeft =>
      obtain ⟨hBytes, hEnd⟩ := hHeads
      obtain ⟨front, back, -, rfl, rfl, hRoom, rfl⟩ := Stream.write_done hGrant hBytes hWrite
      rw [List.drop_left] at hLeft ⊢
      rw [List.append_assoc] at hEnd
      exact ⟨pending, hBrings, hLeft, (endOf_write hRoom _ _ _).trans hEnd⟩
  | drained hWrite hSome hLeft =>
      obtain ⟨hBytes, hEnd⟩ := hHeads
      obtain ⟨front, back, -, rfl, rfl, hRoom, rfl⟩ := Stream.write_done hGrant hBytes hWrite
      rw [List.drop_left] at hLeft
      rw [List.append_assoc, hLeft] at hEnd
      exact ⟨pending, hBrings, (endOf_write hRoom _ _ _).trans hEnd⟩
  | flushed hFlush | unflushed hFlush =>
      refine ⟨pending, hBrings, ?_⟩
      show _ = _
      rw [← hHeads, endOf_nil]
      cases hFault : sink.flushFault sink.flushes
      all_goals
        simp only [Stream.flush, hFault] at hFlush
        cases hFlush
      rfl

end Moves

end Copy

namespace Splice

namespace Lane

variable {σ : Type} {read : Nat → Action σ IoError Bytes}

theorem Goes.moves {l l' : Lane σ} (h : Goes read l l') :
    Copy.Moves read l.copy l.source l.sink l'.copy l'.source l'.sink := by
  obtain ⟨x, hStep, hEq⟩ := Option.map_eq_some_iff.mp h
  rw [← hEq]
  exact Copy.moves_of_step hStep

/-- A lane heads for the same end all the way. -/
theorem heads_of_reaches {l l' : Lane PeekStream} {w : Bytes} {e : Copy.End}
    (h : ReflTransGen (Goes PeekStream.read) l l') (hBrings : l.source.Brings w)
    (hGrant : ∀ n, l.sink.grant n ≠ some 0) (hHeads : l.copy.Heads w l.sink e) :
    l.sink.Fills l'.sink ∧
      ∃ pending, l'.source.Brings pending ∧ l'.copy.Heads pending l'.sink e := by
  induction h with
  | refl => exact ⟨.refl _, w, hBrings, hHeads⟩
  | tail _ hGoes ih =>
      obtain ⟨hFills, pending, hPending, hNext⟩ := ih
      have hMoves := hGoes.moves
      exact ⟨hFills.trans hMoves.fills,
        hMoves.heads hPending (hFills.grant_eq ▸ hGrant) hNext⟩

/-- A lane whose source ends does not rest before its copy has ended. -/
theorem ended_of_resting {l : Lane PeekStream} {w : Bytes} (h : l.step PeekStream.read = none)
    (hBrings : l.source.Brings w) : ∃ result, l.copy = .ended result := by
  rcases Copy.of_step_eq_none (Option.map_eq_none_iff.mp h) with hEnded | ⟨moved, -, hWaits⟩
  · exact hEnded
  · obtain ⟨piece, w', p', -, -, hRead, -⟩ := hBrings.read (n := Copy.bufferSize) (by decide)
    rw [hRead] at hWaits
    cases hWaits

end Lane

namespace State

variable {p : PeekStream} {target : Stream} {w : Bytes} {t : State}

theorem lanes_resting (h : t.Resting) :
    t.upLane.step PeekStream.read = none ∧ t.downLane.step Stream.read = none := by
  obtain ⟨hUp, hDown, -⟩ := resting_iff.mp h
  rw [upLane_step, downLane_step, hUp, hDown]
  exact ⟨rfl, rfl⟩

/-- When nothing moves any more, the client's bytes have gone as far as the target let them. -/
theorem up_of_resting (hBrings : p.Brings w) (hGrant : ∀ n, target.grant n ≠ some 0)
    (h : ReflTransGen Step (start p target) t) (hRest : t.Resting) :
    t.client.inner.ending = .finished ∧ target.outgoingSide.Fills t.upLane.sink ∧
      t.upLane.copy = .ended (Copy.endOf 0 w target).result ∧
      Copy.endOf 0 w target = ⟨(Copy.endOf 0 w target).result, t.upLane.sink.written,
        t.upLane.sink.room, t.upLane.sink.flushes⟩ := by
  obtain ⟨hFills, pending, hPending, hHeads⟩ := Lane.heads_of_reaches (lanes_of_reaches h).1
    hBrings.incomingSide (e := Copy.endOf 0 w target) hGrant rfl
  obtain ⟨result, hEnded⟩ := Lane.ended_of_resting (lanes_resting hRest).1 hPending
  rw [hEnded] at hHeads ⊢
  simp only [Copy.Heads] at hHeads
  rw [hHeads]
  exact ⟨hPending.ending_eq, hFills, rfl, rfl⟩

end State

end Splice

end SpeedTest
