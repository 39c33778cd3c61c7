import SpeedTest.Stream.Peek

/-! The buffer of a stream as a reader keeps it: bytes are added at the end, and a position runs
through them. When it has come to the end the buffer starts over. Seen from outside there are only
the bytes behind the position. -/

namespace SpeedTest

/-- A stream with the bytes that were looked at since the buffer was last empty, and with how many
of them have been read. -/
structure CursorStream where
  inner : Stream
  bytes : Bytes
  position : Nat
  position_le : position ≤ bytes.length

namespace CursorStream

def ofStream (s : Stream) : CursorStream := ⟨s, [], 0, Nat.le_refl 0⟩

/-- The stream as others see it. -/
def view (c : CursorStream) : PeekStream := ⟨c.inner, c.bytes.drop c.position⟩

theorem position_le_append (c : CursorStream) (bs : Bytes) :
    c.position ≤ (c.bytes ++ bs).length := by
  have hPosition := c.position_le
  rw [List.length_append]
  omega

/-- Read from the stream until `n` bytes lie behind the position or the peer has finished. -/
def fill (n : Nat) : Action CursorStream IoError Unit := fun c =>
  if _h : n ≤ c.bytes.length - c.position then (.done (), c)
  else
    match c.inner.read PeekStream.pieceSize with
    | (.failed e, s) => (.failed e, { c with inner := s })
    | (.pending, s) => (.pending, { c with inner := s })
    | (.done bs, s) =>
      if _h' : bs.length = 0 then (.done (), { c with inner := s })
      else fill n ⟨s, c.bytes ++ bs, c.position, c.position_le_append bs⟩
termination_by c => n - (c.bytes.length - c.position)
decreasing_by
  have := (‹CursorStream›).position_le
  simp only [List.length_append]; omega

/-- The bytes between the position and the end of the look, or of the buffer. -/
def peek (n : Nat) : Action CursorStream IoError Bytes := fun c =>
  match fill n c with
  | (.done (), c') =>
    (.done ((c'.bytes.take (min (c'.position + n) c'.bytes.length)).drop c'.position), c')
  | (.failed e, c') => (.failed e, c')
  | (.pending, c') => (.pending, c')

/-- Move the position on. Behind the last byte the buffer is emptied. -/
def advance (c : CursorStream) (n : Nat) (h : c.position + n ≤ c.bytes.length) : CursorStream :=
  if c.position + n = c.bytes.length then ⟨c.inner, [], 0, Nat.le_refl 0⟩
  else ⟨c.inner, c.bytes, c.position + n, h⟩

/-- Read at most `n` bytes, from the buffer as long as the position is in it. -/
def read (n : Nat) : Action CursorStream IoError Bytes := fun c =>
  if c.position < c.bytes.length then
    (.done ((c.bytes.drop c.position).take n),
      c.advance ((c.bytes.drop c.position).take n).length (by
        have := c.position_le; simp only [List.length_take, List.length_drop]; omega))
  else
    match c.inner.read n with
    | (r, s) => (r, { c with inner := s })

def readExact (n : Nat) : Action CursorStream IoError Bytes := SpeedTest.readExact read n

theorem length_view (c : CursorStream) : c.view.buffered.length = c.bytes.length - c.position :=
  List.length_drop

@[simp] theorem view_ofStream (s : Stream) : (ofStream s).view = .ofStream s := rfl

/-- Filling adds behind the last byte, which keeps what lies behind the position in front. -/
theorem fill_view (n : Nat) (c : CursorStream) :
    PeekStream.fill n c.view = ((fill n c).1, (fill n c).2.view) := by
  fun_induction fill n c with
  | case1 c h => rw [PeekStream.fill, dif_pos (by rwa [length_view])]
  | case2 c h e s hRead | case3 c h s hRead =>
      rw [PeekStream.fill, dif_neg (by rwa [length_view])]
      simp only [view, hRead]
  | case4 c h bs s hRead hNone =>
      rw [PeekStream.fill, dif_neg (by rwa [length_view])]
      simp only [view, hRead, dif_pos hNone]
  | case5 c h bs s hRead hSome ih =>
      rw [PeekStream.fill, dif_neg (by rwa [length_view])]
      simp only [view, hRead, dif_neg hSome] at ih ⊢
      rwa [List.drop_append_of_le_length c.position_le] at ih

theorem peek_view (n : Nat) (c : CursorStream) :
    PeekStream.peek n c.view = ((peek n c).1, (peek n c).2.view) := by
  rw [PeekStream.peek, fill_view, peek]
  obtain ⟨r, c'⟩ := fill n c
  cases r with
  | done u =>
      have hLe := c'.position_le
      have hShown : (c'.bytes.take (min (c'.position + n) c'.bytes.length)).drop c'.position =
          (c'.bytes.drop c'.position).take n := by
        rw [List.drop_take, List.take_eq_take_iff, List.length_drop]
        omega
      simp only [view, hShown]
  | failed e => rfl
  | pending => rfl

@[simp] theorem view_advance (c : CursorStream) (n : Nat) (h : c.position + n ≤ c.bytes.length) :
    (c.advance n h).view = ⟨c.inner, c.view.buffered.drop n⟩ := by
  unfold advance
  split
  · rename_i hEnd
    simp [view, List.drop_drop, hEnd]
  · simp [view, List.drop_drop]

theorem read_view (n : Nat) (c : CursorStream) :
    PeekStream.read n c.view = ((read n c).1, (read n c).2.view) := by
  unfold read PeekStream.read
  by_cases hMore : c.position < c.bytes.length
  · have hLeft : c.view.buffered.drop ((c.bytes.drop c.position).take n).length =
        c.view.buffered.drop n := by
      rw [List.length_take]
      exact List.drop_eq_drop_min.symm
    rw [if_pos hMore, if_neg (by simp [view]; omega)]
    simp only [view_advance, hLeft]
    rfl
  · rw [if_neg hMore, if_pos (by simp [view]; omega)]
    simp only [PeekStream.onInner, Action.focus, view]

end CursorStream

/-- Readers that do the same read by read do the same in a row. -/
theorem readExactFrom_map {σ τ : Type} {read : Nat → Action σ IoError Bytes}
    {read' : Nat → Action τ IoError Bytes} (f : σ → τ)
    (hRead : ∀ n s, read' n (f s) = ((read n s).1, f (read n s).2)) (need : Nat)
    (got : List Bytes) (s : σ) :
    readExactFrom read' need got (f s) =
      ((readExactFrom read need got s).1, f (readExactFrom read need got s).2) := by
  fun_induction readExactFrom read need got s with
  | case1 got s => rw [readExactFrom, dif_pos rfl]
  | case2 need got s h e s' hStep | case3 need got s h s' hStep =>
      rw [readExactFrom, dif_neg h, hRead, hStep]
  | case4 need got s h bs s' hStep hNone =>
      rw [readExactFrom, dif_neg h, hRead, hStep]
      simp only [dif_pos hNone]
  | case5 need got s h bs s' hStep hSome ih =>
      rw [readExactFrom, dif_neg h, hRead, hStep]
      simp only [dif_neg hSome]
      exact ih

theorem CursorStream.readExact_view (n : Nat) (c : CursorStream) :
    PeekStream.readExact n c.view = ((readExact n c).1, (readExact n c).2.view) :=
  readExactFrom_map view read_view n [] c

end SpeedTest
