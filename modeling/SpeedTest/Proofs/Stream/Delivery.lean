import SpeedTest.Stream.Peek

/-! What a stream delivers, whatever the pieces in which it arrives. The bytes of a stream are
followed up to some point behind which it goes on like another stream: its reads see the bytes and
nothing of the pieces, and looking ahead changes neither. -/

namespace SpeedTest

/-- Arrivals among which no read fails. -/
def Arrival.Smooth (l : List Arrival) : Prop := ∀ a ∈ l, ∀ e, a ≠ .failure e

namespace Arrival

theorem Smooth.nil : Smooth [] := fun _ h => by cases h

theorem Smooth.tail {a : Arrival} {l : List Arrival} (h : Smooth (a :: l)) : Smooth l :=
  fun x hx => h x (List.mem_cons_of_mem _ hx)

theorem Smooth.cons {bs : Bytes} {l : List Arrival} (h : Smooth l) : Smooth (.chunk bs :: l) := by
  intro x hx e hFailure
  rcases List.mem_cons.mp hx with rfl | hx
  · cases hFailure
  · exact h x hx e hFailure

@[simp] theorem payload_nil : payload [] = [] := rfl

@[simp] theorem payload_chunk (bs : Bytes) (l : List Arrival) :
    payload (.chunk bs :: l) = bs ++ payload l := by
  simp [payload]

/-- Pieces without bytes are passed over. -/
theorem take_append_of_payload_eq_nil (n : Nat) (ending : Ending) {l : List Arrival}
    (hSmooth : Smooth l) (hEmpty : payload l = []) (behind : List Arrival) :
    take n ending (l ++ behind) = take n ending behind := by
  induction l with
  | nil => rfl
  | cons a l ih =>
      cases a with
      | failure e => exact absurd rfl (hSmooth _ List.mem_cons_self e)
      | chunk bs =>
          rw [payload_chunk, List.append_eq_nil_iff] at hEmpty
          obtain ⟨rfl, hEmpty⟩ := hEmpty
          rw [List.cons_append, take]
          exact ih hSmooth.tail hEmpty

theorem take_chunk (n : Nat) (ending : Ending) {bs : Bytes} (h : bs ≠ []) (behind : List Arrival) :
    take n ending (.chunk bs :: behind) =
      (.done (bs.take n),
        if (bs.drop n).isEmpty then behind else .chunk (bs.drop n) :: behind) := by
  cases bs with
  | nil => exact absurd rfl h
  | cons b bs => rfl

/-- A read takes a piece off the front, at least one byte and at most as many as it asks for. -/
theorem take_append_of_payload_ne_nil {n : Nat} (hn : 0 < n) (ending : Ending) {l : List Arrival}
    (hSmooth : Smooth l) (hBytes : payload l ≠ []) (behind : List Arrival) :
    ∃ piece left, piece ≠ [] ∧ piece.length ≤ n ∧ payload l = piece ++ payload left ∧ Smooth left ∧
      take n ending (l ++ behind) = (.done piece, left ++ behind) := by
  induction l with
  | nil => exact absurd rfl hBytes
  | cons a l ih =>
      cases a with
      | failure e => exact absurd rfl (hSmooth _ List.mem_cons_self e)
      | chunk bs =>
          have hTail := hSmooth.tail
          by_cases hChunk : bs = []
          · subst hChunk
            exact ih hTail (by simpa using hBytes)
          rw [List.cons_append, take_chunk n ending hChunk]
          by_cases hAll : bs.length ≤ n
          · refine ⟨bs, l, hChunk, hAll, payload_chunk bs l, hTail, ?_⟩
            simp [List.drop_of_length_le hAll, List.take_of_length_le hAll]
          · have hDrop : bs.drop n ≠ [] := by
              rw [ne_eq, List.drop_eq_nil_iff]
              exact hAll
            refine ⟨bs.take n, .chunk (bs.drop n) :: l, ?_, List.length_take_le n bs, ?_,
              hTail.cons, ?_⟩
            · rw [ne_eq, List.take_eq_nil_iff, not_or]
              exact ⟨Nat.ne_of_gt hn, hChunk⟩
            · rw [payload_chunk, payload_chunk, ← List.append_assoc, List.take_append_drop]
            · simp [hDrop]

/-- A read takes its bytes off the front, however those that are still to arrive are told. -/
theorem front_of_take (bytes : List Arrival → Bytes)
    (hChunk : ∀ bs l, bytes (.chunk bs :: l) = bs ++ bytes l) {n : Nat} {ending : Ending}
    {l l' : List Arrival} {bs : Bytes} (h : take n ending l = (.done bs, l')) :
    bytes l = bs ++ bytes l' := by
  induction l with
  | nil =>
      cases ending with
      | finished => cases h; rfl
      | silent => cases h
  | cons a l ih =>
      cases a with
      | failure e => cases h
      | chunk piece =>
          rw [hChunk]
          by_cases hEmpty : piece = []
          · subst hEmpty
            exact ih h
          rw [take_chunk n ending hEmpty] at h
          cases h
          by_cases hAll : (piece.drop n).isEmpty
          · rw [if_pos hAll]
            rw [List.isEmpty_iff, List.drop_eq_nil_iff] at hAll
            rw [List.take_of_length_le hAll]
          · rw [if_neg hAll, hChunk, ← List.append_assoc, List.take_append_drop]

end Arrival

/-- A read of the stream, which only changes what is still to arrive. -/
theorem Stream.read_eq (n : Nat) (s : Stream) :
    Stream.read n s =
      ((Arrival.take n s.ending s.arrivals).1,
        { s with arrivals := (Arrival.take n s.ending s.arrivals).2 }) := rfl

section Front

variable (bytes : List Arrival → Bytes) {n : Nat} {bs : Bytes}

theorem Stream.front_of_read (hChunk : ∀ bs l, bytes (.chunk bs :: l) = bs ++ bytes l)
    {s s' : Stream} (h : read n s = (.done bs, s')) :
    bytes s.arrivals = bs ++ bytes s'.arrivals := by
  rw [read_eq] at h
  obtain ⟨hDone, rfl⟩ := Prod.mk.inj h
  exact Arrival.front_of_take bytes hChunk (Prod.ext hDone rfl)

theorem Stream.incoming_of_read {s s' : Stream}
    (h : read n s = (.done bs, s')) : s'.incoming + bs.length = s.incoming := by
  have hFront := front_of_read Arrival.payload Arrival.payload_chunk h
  simp only [incoming, hFront, List.length_append, Nat.add_comm]

/-- The buffer comes before what is still to arrive. -/
theorem PeekStream.front_of_read (hChunk : ∀ bs l, bytes (.chunk bs :: l) = bs ++ bytes l)
    {p p' : PeekStream} (h : read n p = (.done bs, p')) :
    p.buffered ++ bytes p.inner.arrivals = bs ++ (p'.buffered ++ bytes p'.inner.arrivals) := by
  unfold read at h
  split at h
  · rename_i hBuffer
    rw [List.isEmpty_iff] at hBuffer
    simp only [onInner, Action.focus] at h
    generalize hRead : Stream.read n p.inner = x at h
    obtain ⟨r, s⟩ := x
    cases h
    simp only [hBuffer, List.nil_append]
    exact Stream.front_of_read bytes hChunk hRead
  · cases h
    rw [← List.append_assoc, List.take_append_drop]

end Front

namespace PeekStream

/-- The stream delivers the bytes `w`, some of them from its buffer, and then goes on like the
stream `rest`. Everything but the arrivals is already as in `rest`. -/
structure Delivers (p : PeekStream) (w : Bytes) (rest : Stream) : Prop where
  intro ::
  exists_front : ∃ front, Arrival.Smooth front ∧ p.buffered ++ Arrival.payload front = w ∧
    p.inner = { rest with arrivals := front ++ rest.arrivals }

variable {p : PeekStream} {w : Bytes} {rest : Stream}

/-- A stream that has not been looked at delivers what arrives before the first failure. -/
theorem Delivers.ofStream {s : Stream} {front : List Arrival} (h : Arrival.Smooth front)
    (hInner : s = { rest with arrivals := front ++ rest.arrivals }) :
    (PeekStream.ofStream s).Delivers (Arrival.payload front) rest :=
  ⟨front, h, rfl, hInner⟩

/-- A read delivers a piece of what is at the front. -/
theorem Delivers.read (h : p.Delivers w rest) {n : Nat} (hn : 0 < n) (hBytes : w ≠ []) :
    ∃ piece w' p', piece ≠ [] ∧ piece.length ≤ n ∧ w = piece ++ w' ∧
      PeekStream.read n p = (.done piece, p') ∧ p'.Delivers w' rest := by
  obtain ⟨front, hSmooth, hContent, hInner⟩ := h
  by_cases hBuffer : p.buffered = []
  · rw [hBuffer, List.nil_append] at hContent
    subst hContent
    obtain ⟨piece, left, hPiece, hLe, hPayload, hLeft, hTake⟩ :=
      Arrival.take_append_of_payload_ne_nil hn rest.ending hSmooth hBytes rest.arrivals
    refine ⟨piece, _, ⟨{ rest with arrivals := left ++ rest.arrivals }, []⟩, hPiece, hLe, hPayload,
      ?_, ⟨left, hLeft, rfl, rfl⟩⟩
    simp [PeekStream.read, hBuffer, onInner, Action.focus, Stream.read_eq, hInner, hTake]
  · refine ⟨p.buffered.take n, p.buffered.drop n ++ Arrival.payload front,
      ⟨p.inner, p.buffered.drop n⟩, ?_, List.length_take_le _ _, ?_, ?_,
      ⟨front, hSmooth, rfl, hInner⟩⟩
    · rw [ne_eq, List.take_eq_nil_iff, not_or]
      exact ⟨Nat.ne_of_gt hn, hBuffer⟩
    · rw [← List.append_assoc, List.take_append_drop, hContent]
    · simp [PeekStream.read, hBuffer]

/-- A stream that has delivered everything reads on like the rest. -/
theorem Delivers.read_nil (h : p.Delivers [] rest) (n : Nat) :
    PeekStream.read n p = ((Stream.read n rest).1, ⟨(Stream.read n rest).2, []⟩) := by
  obtain ⟨front, hSmooth, hContent, hInner⟩ := h
  obtain ⟨hBuffer, hFront⟩ := List.append_eq_nil_iff.mp hContent
  have hTake := Arrival.take_append_of_payload_eq_nil n rest.ending hSmooth hFront rest.arrivals
  simp [PeekStream.read, hBuffer, onInner, Action.focus, Stream.read_eq, hInner, hTake]

/-- A buffer that holds everything has left nothing in front of the rest. -/
theorem Delivers.inner_read (h : p.Delivers w rest) (hBuffer : p.buffered = w) (n : Nat) :
    p.inner.read n = rest.read n := by
  obtain ⟨front, hSmooth, hContent, hInner⟩ := h
  rw [hBuffer, List.append_right_eq_self] at hContent
  rw [hInner]
  simp [Stream.read_eq, Arrival.take_append_of_payload_eq_nil n _ hSmooth hContent]

/-- Looking ahead takes pieces from the front until the buffer holds enough, or all of it. -/
theorem Delivers.exists_fill_eq (h : p.Delivers w rest) (n : Nat) :
    ∃ p', fill n p = fill n p' ∧ p'.Delivers w rest ∧
      (n ≤ p'.buffered.length ∨ p'.buffered = w) := by
  -- Each piece closes some of the gap between what the buffer holds and what is asked for.
  induction hGap : n - p.buffered.length using Nat.strongRecOn generalizing p with
  | ind gap ih =>
      obtain ⟨front, hSmooth, hContent, hInner⟩ := h
      by_cases hEnough : n ≤ p.buffered.length
      · exact ⟨p, rfl, ⟨front, hSmooth, hContent, hInner⟩, .inl hEnough⟩
      by_cases hFront : Arrival.payload front = []
      · exact ⟨p, rfl, ⟨front, hSmooth, hContent, hInner⟩, .inr (by simpa [hFront] using hContent)⟩
      obtain ⟨piece, left, hPiece, -, hPayload, hLeft, hTake⟩ :=
        Arrival.take_append_of_payload_ne_nil (n := pieceSize) (by decide) rest.ending hSmooth
          hFront rest.arrivals
      have hLength := List.length_pos_iff.mpr hPiece
      have hStep : fill n p =
          fill n ⟨{ rest with arrivals := left ++ rest.arrivals }, p.buffered ++ piece⟩ := by
        rw [fill, dif_neg hEnough]
        simp only [Stream.read_eq, hInner, hTake]
        rw [dif_neg (Nat.ne_of_gt hLength)]
      rw [hStep]
      refine ih _ ?_ ⟨left, hLeft, ?_, rfl⟩ rfl
      · rw [List.length_append]
        omega
      · rw [List.append_assoc, ← hPayload, hContent]

end PeekStream

/-- Nothing is still to arrive, and the peer has finished. -/
structure Stream.AtEnd (s : Stream) : Prop where
  arrivals : s.arrivals = []
  ending : s.ending = .finished

theorem Stream.AtEnd.read {s : Stream} (h : s.AtEnd) (n : Nat) : s.read n = (.done [], s) := by
  obtain ⟨arrivals, ending⟩ := s
  obtain ⟨rfl, rfl⟩ := h
  rfl

namespace PeekStream

variable {p : PeekStream} {w : Bytes} {rest : Stream}

/-- Where the stream ends behind `w`, a look returns its first bytes, and all of them if there are
not as many as were asked for. Nothing is taken away. -/
theorem Delivers.peek (h : p.Delivers w rest) (hEnd : rest.AtEnd) (n : Nat) :
    ∃ p', PeekStream.peek n p = (.done (w.take n), p') ∧ p'.Delivers w rest := by
  obtain ⟨q, hFill, hDelivers, hBuffer⟩ := h.exists_fill_eq n
  rw [PeekStream.peek, hFill]
  by_cases hEnough : n ≤ q.buffered.length
  · refine ⟨q, ?_, hDelivers⟩
    obtain ⟨front, -, hContent, -⟩ := hDelivers
    rw [fill, dif_pos hEnough, ← hContent, List.take_append_of_le_length hEnough]
  · have hAll : q.buffered = w := hBuffer.resolve_left hEnough
    refine ⟨⟨rest, w⟩, ?_, ⟨[], Arrival.Smooth.nil, by simp, rfl⟩⟩
    rw [fill, dif_neg hEnough, hDelivers.inner_read hAll, hEnd.read]
    simp [hAll]

/-- A look that comes upon a failure before it has seen enough fails, and keeps what it has seen. -/
theorem Delivers.peek_failure (h : p.Delivers w rest) {e : IoError} {behind : List Arrival}
    (hRest : rest.arrivals = .failure e :: behind) {n : Nat} (hShort : w.length < n) :
    PeekStream.peek n p = (.failed e, ⟨{ rest with arrivals := behind }, w⟩) := by
  obtain ⟨q, hFill, hDelivers, hBuffer⟩ := h.exists_fill_eq n
  have hAll : q.buffered = w := by
    refine hBuffer.resolve_left fun hEnough => ?_
    obtain ⟨front, -, hContent, -⟩ := hDelivers
    rw [← hContent, List.length_append] at hShort
    omega
  have hRead : rest.read pieceSize = (.failed e, { rest with arrivals := behind }) := by
    simp [Stream.read_eq, hRest, Arrival.take]
  rw [PeekStream.peek, hFill, fill, dif_neg (by rw [hAll]; omega), hDelivers.inner_read hAll, hRead]
  simp [hAll]

/-- As many bytes as are asked for are read from the front, in as many reads as it takes. -/
theorem Delivers.readExactFrom {front : Bytes} (h : p.Delivers (front ++ w) rest)
    (got : List Bytes) :
    ∃ p', readExactFrom PeekStream.read front.length got p =
        (.done (got.reverse.flatten ++ front), p') ∧ p'.Delivers w rest := by
  induction hLength : front.length using Nat.strongRecOn generalizing front p got with
  | ind length ih =>
      by_cases hNone : front = []
      · subst hNone
        subst hLength
        exact ⟨p, by simp [SpeedTest.readExactFrom], h⟩
      have hPos : 0 < front.length := List.length_pos_iff.mpr hNone
      obtain ⟨piece, w', q, hPiece, hLe, hSplit, hRead, hDelivers⟩ :=
        h.read hPos (List.append_ne_nil_of_left_ne_nil hNone w)
      -- A read never takes more than was asked for, so the piece lies within `front`.
      obtain ⟨front', rfl, rfl⟩ : ∃ front', front = piece ++ front' ∧ w' = front' ++ w := by
        rcases List.append_eq_append_iff.mp hSplit with ⟨more, rfl, rfl⟩ | ⟨front', rfl, rfl⟩
        · have hMore : more = [] := by
            rw [← List.length_eq_zero_iff]
            rw [List.length_append] at hLe
            omega
          exact ⟨[], by simp [hMore], by simp [hMore]⟩
        · exact ⟨front', rfl, rfl⟩
      have hPieceLength := List.length_pos_iff.mpr hPiece
      rw [List.length_append] at hPos hLength
      obtain ⟨p', hRest, hDelivers'⟩ := ih front'.length (by omega) hDelivers (piece :: got) rfl
      refine ⟨p', ?_, hDelivers'⟩
      rw [SpeedTest.readExactFrom, dif_neg (by omega), ← hLength, ← List.length_append, hRead]
      simp only [dif_neg (Nat.ne_of_gt hPieceLength)]
      rw [List.length_append, Nat.add_sub_cancel_left, hRest]
      simp

/-- Where fewer bytes are left than are asked for, all of them are read and lost. -/
theorem Delivers.readExactFrom_of_lt (h : p.Delivers w rest) (hEnd : rest.AtEnd) {n : Nat}
    (hShort : w.length < n) (got : List Bytes) :
    ∃ p', SpeedTest.readExactFrom PeekStream.read n got p = (.failed .earlyEnd, p') ∧
      p'.Delivers [] rest := by
  induction hLength : w.length using Nat.strongRecOn generalizing w p n got with
  | ind length ih =>
      have hMore : n ≠ 0 := by omega
      rw [SpeedTest.readExactFrom, dif_neg hMore]
      by_cases hNone : w = []
      · subst hNone
        rw [h.read_nil, hEnd.read]
        exact ⟨⟨rest, []⟩, rfl, [], Arrival.Smooth.nil, rfl, rfl⟩
      · obtain ⟨piece, w', q, hPiece, -, rfl, hRead, hDelivers⟩ :=
          h.read (Nat.pos_of_ne_zero hMore) hNone
        have hPieceLength := List.length_pos_iff.mpr hPiece
        rw [List.length_append] at hShort hLength
        rw [hRead]
        simp only [dif_neg (Nat.ne_of_gt hPieceLength)]
        have hShort' : w'.length < n - piece.length := by omega
        exact ih w'.length (by omega) hDelivers hShort' (piece :: got) rfl

end PeekStream

end SpeedTest
