import SpeedTest.Proofs.Stream.Delivery

/-! What lies ahead on a stream: the bytes that reads deliver before one of them fails, waits or
finds the end, and which of these it is. -/

namespace SpeedTest

theorem Arrival.untilFailure_chunk (bs : Bytes) (l : List Arrival) :
    (untilFailure (.chunk bs :: l)).1 = bs ++ (untilFailure l).1 := rfl

/-- The bytes that reads deliver before one fails. -/
def Stream.ahead (s : Stream) : Bytes := (Arrival.untilFailure s.arrivals).1

/-- The bytes that reads deliver before one fails, those in the buffer first. -/
def PeekStream.ahead (p : PeekStream) : Bytes := p.buffered ++ p.inner.ahead

theorem Stream.ahead_of_read {n : Nat} {s s' : Stream} {bs : Bytes}
    (h : read n s = (.done bs, s')) : s.ahead = bs ++ s'.ahead :=
  front_of_read (fun l => (Arrival.untilFailure l).1) Arrival.untilFailure_chunk h

theorem PeekStream.ahead_of_read {n : Nat} {p p' : PeekStream} {bs : Bytes}
    (h : read n p = (.done bs, p')) : p.ahead = bs ++ p'.ahead :=
  front_of_read (fun l => (Arrival.untilFailure l).1) Arrival.untilFailure_chunk h

/-- Where no read fails, everything that arrives lies ahead. -/
theorem Arrival.untilFailure_of_smooth {l : List Arrival} (h : Smooth l) :
    (untilFailure l).1 = payload l := by
  induction l with
  | nil => rfl
  | cons a l ih =>
      cases a with
      | failure e => exact absurd rfl (h _ List.mem_cons_self e)
      | chunk bs => rw [payload_chunk, untilFailure, ih h.tail]

/-- What the first read meets that yields no bytes. -/
def Stream.lull (s : Stream) : Outcome IoError Bytes :=
  match (Arrival.untilFailure s.arrivals).2, s.ending with
  | some e, _ => .failed e
  | none, .finished => .done []
  | none, .silent => .pending

/-- A read takes bytes off the front, or it is the first that yields none. -/
theorem Arrival.take_cases {n : Nat} (hn : 0 < n) (ending : Ending) (l : List Arrival) :
    (∃ piece left, piece ≠ [] ∧ take n ending l = (.done piece, left) ∧
      untilFailure l = (piece ++ (untilFailure left).1, (untilFailure left).2)) ∨
    ((untilFailure l).1 = [] ∧
      (take n ending l).1 = match (untilFailure l).2, ending with
        | some e, _ => .failed e
        | none, .finished => .done []
        | none, .silent => .pending) := by
  induction l with
  | nil => cases ending <;> exact .inr ⟨rfl, rfl⟩
  | cons a l ih =>
      cases a with
      | failure e => exact .inr ⟨rfl, rfl⟩
      | chunk bs =>
          by_cases hEmpty : bs = []
          · subst hEmpty
            exact ih
          · refine .inl ⟨bs.take n, _, ?_, take_chunk n ending hEmpty l, ?_⟩
            · rw [ne_eq, List.take_eq_nil_iff, not_or]
              exact ⟨Nat.ne_of_gt hn, hEmpty⟩
            · by_cases hAll : (bs.drop n).isEmpty
              · rw [if_pos hAll]
                rw [List.isEmpty_iff, List.drop_eq_nil_iff] at hAll
                rw [List.take_of_length_le hAll, untilFailure]
              · rw [if_neg hAll, untilFailure, untilFailure, ← List.append_assoc,
                  List.take_append_drop]

theorem Stream.read_cases {n : Nat} (hn : 0 < n) (s : Stream) :
    (∃ piece s', piece ≠ [] ∧ read n s = (.done piece, s') ∧ s.ahead = piece ++ s'.ahead ∧
      s'.lull = s.lull) ∨
    (s.ahead = [] ∧ (read n s).1 = s.lull) := by
  rcases Arrival.take_cases hn s.ending s.arrivals with
    ⟨piece, left, hPiece, hTake, hFront⟩ | ⟨hNone, hTake⟩
  · refine .inl ⟨piece, { s with arrivals := left }, hPiece, ?_, ?_, ?_⟩
    · rw [read_eq, hTake]
    · rw [ahead, ahead, hFront]
    · rw [lull, lull, hFront]
  · exact .inr ⟨hNone, hTake⟩

end SpeedTest
