import SpeedTest.Proofs.Stream.Cursor
import SpeedTest.Proofs.Stream.Outward

/-! What becomes of the bytes that a stream brings. Whoever looks at them or reads them, and in
whatever order, each byte that has left the stream is either with the reader or still in the buffer,
where it waits in its place. A failure costs a reader what it has taken, and nothing else. -/

namespace SpeedTest

/-- What a read hands over. One that fails or waits hands over nothing. -/
def Outcome.bytes {ε : Type} : Outcome ε Bytes → Bytes
  | .done bs => bs
  | _ => []

/-- A read removes what it hands over, and its end removes nothing. -/
theorem Arrival.payload_take (n : Nat) (ending : Ending) (l : List Arrival) :
    payload l = (take n ending l).1.bytes ++ payload (take n ending l).2 := by
  induction l with
  | nil => cases ending <;> rfl
  | cons a l ih =>
      cases a with
      | failure e => rfl
      | chunk bs =>
          by_cases hEmpty : bs = []
          · subst hEmpty
            exact ih
          · have hDone := take_chunk n ending hEmpty l
            rw [front_of_take payload payload_chunk hDone, hDone]
            rfl

theorem Stream.payload_read (n : Nat) (s : Stream) :
    Arrival.payload s.arrivals = (read n s).1.bytes ++ Arrival.payload (read n s).2.arrivals :=
  Arrival.payload_take n s.ending s.arrivals

/-- Nothing comes any more: everything that was to arrive has arrived, and the peer has finished. -/
structure Stream.Exhausted (s : Stream) : Prop where
  smooth : Arrival.Smooth s.arrivals
  payload : Arrival.payload s.arrivals = []
  ending : s.ending = .finished

/-- Zero bytes are the sign of the end, and of nothing else. -/
theorem Stream.read_eq_nil_iff {n : Nat} (hn : 0 < n) (s : Stream) :
    (read n s).1 = .done [] ↔ s.Exhausted := by
  obtain ⟨arrivals, ending, -⟩ := s
  have hTake : (Arrival.take n ending arrivals).1 = .done [] ↔
      Arrival.Smooth arrivals ∧ Arrival.payload arrivals = [] ∧ ending = .finished := by
    induction arrivals with
    | nil => cases ending <;> simp [Arrival.take, Arrival.Smooth]
    | cons a l ih =>
        cases a with
        | failure e =>
            refine iff_of_false (fun hDone => by cases hDone) fun hEnd => ?_
            exact hEnd.1 _ List.mem_cons_self e rfl
        | chunk bs =>
            by_cases hEmpty : bs = []
            · subst hEmpty
              rw [Arrival.payload_chunk, List.nil_append]
              exact ih.trans ⟨fun h => ⟨h.1.cons, h.2⟩, fun h => ⟨h.1.tail, h.2⟩⟩
            · rw [Arrival.take_chunk n ending hEmpty]
              refine iff_of_false (fun hDone => ?_) fun hEnd => ?_
              · rw [Outcome.done.injEq, List.take_eq_nil_iff] at hDone
                rcases hDone with hZero | hNil
                · omega
                · exact hEmpty hNil
              · rw [Arrival.payload_chunk] at hEnd
                exact hEmpty (List.append_eq_nil_iff.mp hEnd.2.1).1
  exact hTake.trans ⟨fun h => ⟨h.1, h.2.1, h.2.2⟩, fun h => ⟨h.smooth, h.payload, h.ending⟩⟩

namespace PeekStream

/-- Everything that has not been read yet: the buffer, and behind it what is still to arrive. -/
def content (p : PeekStream) : Bytes := p.buffered ++ Arrival.payload p.inner.arrivals

/-- A single read takes off the front what it hands over, however it ends. -/
theorem content_read (n : Nat) (p : PeekStream) :
    p.content = (read n p).1.bytes ++ (read n p).2.content := by
  unfold read
  split
  · rename_i hBuffer
    rw [List.isEmpty_iff] at hBuffer
    simp only [content, onInner, Action.focus, hBuffer, List.nil_append]
    exact Stream.payload_read n p.inner
  · simp only [content, Outcome.bytes]
    rw [← List.append_assoc, List.take_append_drop]

/-- Zero bytes are read only where the buffer is empty and nothing comes any more. -/
theorem read_eq_nil_iff {n : Nat} (hn : 0 < n) (p : PeekStream) :
    (read n p).1 = .done [] ↔ p.buffered = [] ∧ p.inner.Exhausted := by
  unfold read
  split
  · rename_i hBuffer
    rw [List.isEmpty_iff] at hBuffer
    exact (Stream.read_eq_nil_iff hn p.inner).trans (iff_and_self.mpr fun _ => hBuffer)
  · rename_i hBuffer
    rw [List.isEmpty_iff] at hBuffer
    refine iff_of_false (fun hDone => ?_) fun hEnd => hBuffer hEnd.1
    rw [Outcome.done.injEq, List.take_eq_nil_iff] at hDone
    exact hDone.elim (Nat.ne_of_gt hn) hBuffer

/-- Filling the buffer moves bytes from the stream to its end, and loses none when it fails. -/
theorem buffered_fill (n : Nat) (p : PeekStream) :
    ∃ more, (fill n p).2.buffered = p.buffered ++ more ∧
      Arrival.payload p.inner.arrivals = more ++ Arrival.payload (fill n p).2.inner.arrivals := by
  have hSame {buffered w w' : Bytes} (h : w = w') :
      ∃ more, buffered = buffered ++ more ∧ w = more ++ w' :=
    ⟨[], (List.append_nil _).symm, h⟩
  fun_induction fill n p with
  | case1 p h => exact hSame rfl
  | case2 p h e s hRead | case3 p h s hRead =>
      have hPayload := Stream.payload_read pieceSize p.inner
      rw [hRead] at hPayload
      exact hSame hPayload
  | case4 p h bs s hRead hNone =>
      have hPayload := Stream.payload_read pieceSize p.inner
      rw [hRead] at hPayload
      obtain rfl := List.length_eq_zero_iff.mp hNone
      exact hSame hPayload
  | case5 p h bs s hRead hSome ih =>
      have hPayload := Stream.payload_read pieceSize p.inner
      rw [hRead] at hPayload
      obtain ⟨more, hBuffered, hRest⟩ := ih
      refine ⟨bs ++ more, hBuffered.trans (List.append_assoc ..), ?_⟩
      rw [hPayload, Outcome.bytes, hRest, List.append_assoc]

/-- A look leaves the stream as filling its buffer does, and shows the front of the buffer. -/
theorem peek_eq (n : Nat) (p : PeekStream) :
    (peek n p).2 = (fill n p).2 ∧
      ∀ bs, (peek n p).1 = .done bs → bs = (fill n p).2.buffered.take n := by
  unfold peek
  generalize fill n p = x
  obtain ⟨r, q⟩ := x
  cases r with
  | done u => exact ⟨rfl, fun bs hDone => (Outcome.done.inj hDone).symm⟩
  | failed e => exact ⟨rfl, fun bs hDone => by cases hDone⟩
  | pending => exact ⟨rfl, fun bs hDone => by cases hDone⟩

/-- Looking moves nothing but the border between the buffer and the stream. -/
theorem content_peek (n : Nat) (p : PeekStream) : (peek n p).2.content = p.content := by
  obtain ⟨more, hBuffered, hPayload⟩ := buffered_fill n p
  rw [(peek_eq n p).1, content, content, hBuffered, hPayload, List.append_assoc]

/-- What goes out leaves the bytes that come in where they are. -/
theorem content_onInner {ε α : Type} {x : Action Stream ε α} (hx : Outward x) (p : PeekStream) :
    (onInner x p).2.content = p.content := by
  show p.buffered ++ Arrival.payload (x p.inner).2.arrivals = p.content
  rw [hx.arrivals_eq]
  rfl

/-- Reads one after another, and the bytes that they hand over in all. -/
inductive Reads : PeekStream → Bytes → PeekStream → Prop
  | none (p : PeekStream) : Reads p [] p
  | more (n : Nat) {p q : PeekStream} {bytes : Bytes} (next : Reads (read n p).2 bytes q) :
      Reads p ((read n p).1.bytes ++ bytes) q

theorem Reads.one (n : Nat) (p : PeekStream) : Reads p (read n p).1.bytes (read n p).2 := by
  have hOne := Reads.more n (Reads.none (read n p).2)
  rwa [List.append_nil] at hOne

theorem Reads.content_eq {p q : PeekStream} {taken : Bytes} (h : Reads p taken q) :
    p.content = taken ++ q.content := by
  induction h with
  | none p => rfl
  | @more n p q bytes next ih => rw [content_read n p, ih, List.append_assoc]

/-- Two records of the same reads are the same. -/
theorem Reads.unique {p q : PeekStream} {taken taken' : Bytes} (h : Reads p taken q)
    (h' : Reads p taken' q) : taken = taken' :=
  List.append_cancel_right (h.content_eq.symm.trans h'.content_eq)

/-- Reading an exact number of bytes is reading one piece after another. -/
theorem reads_readExactFrom (need : Nat) (got : List Bytes) (p : PeekStream) :
    ∃ taken, Reads p taken (readExactFrom read need got p).2 ∧
      ∀ bs, (readExactFrom read need got p).1 = .done bs → bs = got.reverse.flatten ++ taken := by
  fun_induction readExactFrom read need got p with
  | case1 got p =>
      refine ⟨[], .none p, fun bs hDone => ?_⟩
      rw [List.append_nil]
      exact (Outcome.done.inj hDone).symm
  | case2 need got p h e q hRead | case3 need got p h q hRead | case4 need got p h bs q hRead =>
      have hOne := Reads.one need p
      rw [hRead] at hOne
      exact ⟨_, hOne, fun bs hDone => by cases hDone⟩
  | case5 need got p h piece q hRead hSome ih =>
      obtain ⟨taken, hReads, hDone⟩ := ih
      have hMore := Reads.more need (p := p) (by rw [hRead]; exact hReads)
      rw [hRead] at hMore
      refine ⟨_, hMore, fun bs hBytes => ?_⟩
      rw [hDone bs hBytes]
      simp [Outcome.bytes]

end PeekStream

/-- The bytes of a piece come in front of what is read behind it. -/
theorem Stream.readToEnd_chunk (bs : Bytes) (l : List Arrival) (s : Stream) :
    readToEnd { s with arrivals := .chunk bs :: l } =
      (readToEnd >>= fun rest => pure (bs ++ rest) : Action Stream IoError Bytes)
        { s with arrivals := l } := by
  rw [Action.bind_apply]
  simp only [readToEnd, Arrival.untilFailure, Arrival.behindFailure]
  generalize Arrival.untilFailure l = x
  obtain ⟨ahead, failure⟩ := x
  cases failure with
  | some e => rfl
  | none => cases s.ending <;> rfl

/-- A reader that goes on piece by piece until a piece is empty. -/
def readPieces {σ : Type} (read : Action σ IoError Bytes) (next : Action σ IoError Bytes) :
    Action σ IoError Bytes := do
  let bs ← read
  if bs = [] then return []
  let rest ← next
  return bs ++ rest

theorem readPieces_apply {σ : Type} (read next : Action σ IoError Bytes) (s : σ) :
    readPieces read next s =
      match read s with
      | (.done bs, s') =>
        if bs = [] then (.done [], s') else (next >>= fun rest => pure (bs ++ rest)) s'
      | (.failed e, s') => (.failed e, s')
      | (.pending, s') => (.pending, s') := by
  rw [readPieces, Action.bind_apply]
  obtain ⟨r, s'⟩ := read s
  cases r with
  | done bs =>
      dsimp only
      split <;> rfl
  | failed e => rfl
  | pending => rfl

/-- Reading to the end is reading pieces, of whatever size, until one is empty. -/
theorem Stream.readToEnd_eq_readPieces {n : Nat} (hn : 0 < n) :
    readToEnd = readPieces (read n) readToEnd := by
  funext s
  have hAt (l : List Arrival) : readToEnd { s with arrivals := l } =
      readPieces (read n) readToEnd { s with arrivals := l } := by
    rw [readPieces_apply, read_eq]
    dsimp only
    induction l with
    | nil => cases s.ending <;> simp [readToEnd, Arrival.untilFailure, Arrival.take]
    | cons a l ih =>
        cases a with
        | failure e => rfl
        | chunk bs =>
            by_cases hEmpty : bs = []
            · subst hEmpty
              exact ih
            have hPiece : bs.take n ≠ [] := by
              rw [ne_eq, List.take_eq_nil_iff, not_or]
              exact ⟨Nat.ne_of_gt hn, hEmpty⟩
            rw [Arrival.take_chunk n s.ending hEmpty, readToEnd_chunk]
            simp only [if_neg hPiece]
            by_cases hAll : (bs.drop n).isEmpty
            · rw [if_pos hAll]
              rw [List.isEmpty_iff, List.drop_eq_nil_iff] at hAll
              rw [List.take_of_length_le hAll]
            · rw [if_neg hAll, Action.bind_apply, Action.bind_apply, readToEnd_chunk,
                Action.bind_apply]
              generalize readToEnd { s with arrivals := l } = x
              obtain ⟨r, t⟩ := x
              cases r with
              | done rest => simp [← List.append_assoc]
              | failed e => rfl
              | pending => rfl
  exact hAt s.arrivals

namespace PeekStream

theorem readToEnd_eq_readPieces {n : Nat} (hn : 0 < n) :
    readToEnd = readPieces (read n) readToEnd := by
  funext p
  rw [readPieces_apply, read]
  by_cases hBuffer : p.buffered = []
  · simp only [readToEnd, hBuffer, List.isEmpty_nil, if_true, onInner, Action.focus]
    rw [Stream.readToEnd_eq_readPieces hn, readPieces_apply]
    obtain ⟨r, s⟩ := Stream.read n p.inner
    cases r with
    | failed e | pending => simp
    | done bs =>
        by_cases hNone : bs = []
        · simp [hNone]
        · simp only [if_neg hNone, Action.bind_apply, readToEnd]
          obtain ⟨r, t⟩ := Stream.readToEnd s
          cases r <;> simp
  · have hPiece : p.buffered.take n ≠ [] := by
      rw [ne_eq, List.take_eq_nil_iff, not_or]
      exact ⟨Nat.ne_of_gt hn, hBuffer⟩
    rw [if_neg (by rwa [List.isEmpty_iff])]
    simp only [if_neg hPiece, Action.bind_apply, readToEnd]
    obtain ⟨r, t⟩ := Stream.readToEnd p.inner
    cases r with
    | done rest => simp [← List.append_assoc]
    | failed e | pending => rfl

/-- Reading to the end is reading one piece after another. -/
theorem reads_readToEnd (p : PeekStream) :
    ∃ taken, Reads p taken (readToEnd p).2 ∧ ∀ bs, (readToEnd p).1 = .done bs → bs = taken := by
  induction hLength : p.content.length using Nat.strongRecOn generalizing p with
  | ind length ih =>
      have hOne := Reads.one 1 p
      have hMore {q : PeekStream} {bytes : Bytes} :
          Reads (read 1 p).2 bytes q → Reads p ((read 1 p).1.bytes ++ bytes) q := .more 1
      have hContent := content_read 1 p
      rw [readToEnd_eq_readPieces Nat.one_pos, readPieces_apply]
      generalize read 1 p = x at hOne hMore hContent ⊢
      obtain ⟨r, q⟩ := x
      cases r with
      | failed e | pending => exact ⟨_, hOne, fun bs hDone => by cases hDone⟩
      | done piece =>
          dsimp only
          by_cases hEmpty : piece = []
          · rw [if_pos hEmpty]
            exact ⟨_, hOne, fun bs hDone => hEmpty.symm ▸ (Outcome.done.inj hDone).symm⟩
          -- The piece is not empty, so less is left behind it.
          have hPos := List.length_pos_iff.mpr hEmpty
          rw [hContent, List.length_append] at hLength
          obtain ⟨taken, hReads, hDone⟩ := ih q.content.length
            (by simp only [Outcome.bytes] at hLength; omega) q rfl
          rw [if_neg hEmpty, Action.bind_apply]
          generalize readToEnd q = y at hReads hDone ⊢
          obtain ⟨r, t⟩ := y
          cases r with
          | failed e | pending => exact ⟨_, hMore hReads, fun bs hDone => by cases hDone⟩
          | done rest =>
              refine ⟨_, hMore hReads, fun bs hBytes => ?_⟩
              rw [← hDone rest rfl]
              exact (Outcome.done.inj hBytes).symm

/-- What can be done with a stream. -/
inductive Operation where
  | peek (n : Nat)
  /-- Read once. -/
  | read (n : Nat)
  | readExact (n : Nat)
  | readToEnd
  /-- Write once. -/
  | write (bs : Bytes)
  | writeAll (bs : Bytes)
  | flush
  | shutdown

namespace Operation

/-- How an operation leaves the stream, whether it succeeds, fails or is given up while it waits. -/
def after : Operation → PeekStream → PeekStream
  | .peek n, p => (PeekStream.peek n p).2
  | .read n, p => (PeekStream.read n p).2
  | .readExact n, p => (PeekStream.readExact n p).2
  | .readToEnd, p => (PeekStream.readToEnd p).2
  | .write bs, p => (onInner (Stream.write bs) p).2
  | .writeAll bs, p => (PeekStream.writeAll bs p).2
  | .flush, p => (PeekStream.flush p).2
  | .shutdown, p => (PeekStream.shutdown p).2

/-- The bytes that an operation takes off the stream: what all its reads hand over to it, whether or
not it can hand them on. -/
def Takes : Operation → PeekStream → Bytes → Prop
  | .read n, p, taken => taken = (PeekStream.read n p).1.bytes
  | .readExact n, p, taken => Reads p taken (PeekStream.readExact n p).2
  | .readToEnd, p, taken => Reads p taken (PeekStream.readToEnd p).2
  | _, _, taken => taken = []

theorem exists_takes (op : Operation) (p : PeekStream) : ∃ taken, op.Takes p taken := by
  cases op with
  | readExact n =>
      obtain ⟨taken, hReads, -⟩ := reads_readExactFrom n [] p
      exact ⟨taken, hReads⟩
  | readToEnd =>
      obtain ⟨taken, hReads, -⟩ := reads_readToEnd p
      exact ⟨taken, hReads⟩
  | _ => exact ⟨_, rfl⟩

/-- No operation loses a byte, brings one twice, or changes their order. -/
theorem Takes.content_eq {op : Operation} {p : PeekStream} {taken : Bytes}
    (h : op.Takes p taken) : p.content = taken ++ (op.after p).content := by
  cases op with
  | peek n => rw [h]; exact (content_peek n p).symm
  | read n => rw [h]; exact content_read n p
  | readExact n | readToEnd => exact Reads.content_eq h
  | write bs => rw [h]; exact (content_onInner (.write bs) p).symm
  | writeAll bs => rw [h]; exact (content_onInner (.writeAll bs) p).symm
  | flush => rw [h]; exact (content_onInner .flush p).symm
  | shutdown => rw [h]; exact (content_onInner .shutdown p).symm

end Operation

/-- Operations one after another lead from a stream to another, and have consumed the given
bytes. -/
inductive History : PeekStream → List Operation → Bytes → PeekStream → Prop
  | none (p : PeekStream) : History p [] [] p
  | more {op : Operation} {ops : List Operation} {p q : PeekStream} {taken consumed : Bytes}
      (hTakes : op.Takes p taken) (next : History (op.after p) ops consumed q) :
      History p (op :: ops) (taken ++ consumed) q

theorem exists_history (ops : List Operation) (p : PeekStream) :
    ∃ consumed q, History p ops consumed q := by
  induction ops generalizing p with
  | nil => exact ⟨[], p, .none p⟩
  | cons op ops ih =>
      obtain ⟨taken, hTakes⟩ := op.exists_takes p
      obtain ⟨consumed, q, next⟩ := ih (op.after p)
      exact ⟨taken ++ consumed, q, .more hTakes next⟩

theorem History.content_eq {p q : PeekStream} {ops : List Operation} {consumed : Bytes}
    (h : History p ops consumed q) : p.content = consumed ++ q.content := by
  induction h with
  | none p => rfl
  | more hTakes next ih => rw [hTakes.content_eq, ih, List.append_assoc]

/-- An operation on the stream that was looked at is the given one on the stream underneath. What is
still to arrive and the buffer stay as they are. -/
def PassesThrough {α : Type} (x : Action PeekStream IoError α) (y : Action Stream IoError α)
    (p : PeekStream) : Prop :=
  x p = ((y p.inner).1, ⟨(y p.inner).2, p.buffered⟩) ∧ (y p.inner).2.arrivals = p.inner.arrivals

/-- Whatever is done with a stream, and wherever its reads fail or wait: what has been consumed,
followed by the buffer, is what has gone from the front of the stream. Bytes count as consumed as
soon as a read has handed them over, also to an operation that fails later and loses them; one that
succeeds hands on all that it has taken.

At every point, a look puts the bytes that it gets at the end of the buffer, also when it fails
behind them, and shows the front of the buffer. A read of some bytes that gets none has found the
buffer empty and the stream at its end. Writes, flushes and shutdowns are those of the stream
underneath. A buffer that is kept with a position, to which looks append and which reads move on and
start over, shows the same. -/
theorem consumed_append_buffered (s : Stream) (ops : List Operation) :
    (∃ consumed p, History (ofStream s) ops consumed p) ∧
    ∀ consumed p, History (ofStream s) ops consumed p →
      (∃ pulled, Arrival.payload s.arrivals = pulled ++ Arrival.payload p.inner.arrivals ∧
        consumed ++ p.buffered = pulled) ∧
      (∀ n bs taken, (readExact n p).1 = .done bs → (Operation.readExact n).Takes p taken →
        bs = taken) ∧
      (∀ bs taken, (readToEnd p).1 = .done bs → Operation.readToEnd.Takes p taken → bs = taken) ∧
      (∀ n, ∃ more, (peek n p).2.buffered = p.buffered ++ more ∧
        Arrival.payload p.inner.arrivals = more ++ Arrival.payload (peek n p).2.inner.arrivals ∧
        ∀ bs, (peek n p).1 = .done bs → bs = (peek n p).2.buffered.take n) ∧
      (∀ n, 0 < n → (read n p).1 = .done [] → p.buffered = [] ∧ p.inner.Exhausted) ∧
      (∀ bs, PassesThrough (onInner (Stream.write bs)) (Stream.write bs) p ∧
        PassesThrough (writeAll bs) (Stream.writeAll bs) p) ∧
      PassesThrough flush Stream.flush p ∧ PassesThrough shutdown Stream.shutdown p ∧
      ∀ c : CursorStream, c.view = p → ∀ n,
        peek n p = ((c.peek n).1, (c.peek n).2.view) ∧
        read n p = ((c.read n).1, (c.read n).2.view) ∧
        readExact n p = ((c.readExact n).1, (c.readExact n).2.view) := by
  refine ⟨exists_history ops _, fun consumed p hHistory => ?_⟩
  refine ⟨?_, ?_, ?_, ?_, ?_, ?_, ?_, ?_, ?_⟩
  · refine ⟨consumed ++ p.buffered, ?_, rfl⟩
    rw [List.append_assoc]
    exact hHistory.content_eq
  · intro n bs taken hDone hTakes
    obtain ⟨taken', hReads, hAll⟩ := reads_readExactFrom n [] p
    rw [hAll bs hDone]
    exact hReads.unique hTakes
  · intro bs taken hDone hTakes
    obtain ⟨taken', hReads, hAll⟩ := reads_readToEnd p
    rw [hAll bs hDone]
    exact hReads.unique hTakes
  · intro n
    obtain ⟨more, hBuffered, hPayload⟩ := buffered_fill n p
    obtain ⟨hState, hShown⟩ := peek_eq n p
    rw [hState]
    exact ⟨more, hBuffered, hPayload, hShown⟩
  · intro n hn hNone
    exact (read_eq_nil_iff hn p).mp hNone
  · exact fun bs => ⟨⟨rfl, (Outward.write bs).arrivals_eq p.inner⟩,
      ⟨rfl, (Outward.writeAll bs).arrivals_eq p.inner⟩⟩
  · exact ⟨rfl, Outward.flush.arrivals_eq p.inner⟩
  · exact ⟨rfl, Outward.shutdown.arrivals_eq p.inner⟩
  · rintro c rfl n
    exact ⟨c.peek_view n, c.read_view n, c.readExact_view n⟩

/-- A look that fails behind two bytes, and a read of one of them. -/
theorem consumed_append_buffered_past_failure :
    let s : Stream := .ofArrivals [.chunk [1, 2], .failure .earlyEnd, .chunk [3]] .finished
    ∃ p, History (ofStream s) [.peek 3, .read 1] [1] p ∧ p.buffered = [2] ∧
      ∃ pulled, Arrival.payload s.arrivals = pulled ++ Arrival.payload p.inner.arrivals ∧
        [1] ++ p.buffered = pulled := by
  intro s
  have hDelivers : (ofStream s).Delivers [1, 2]
      (.ofArrivals [.failure .earlyEnd, .chunk [3]] .finished) :=
    .ofStream (Arrival.Smooth.nil.cons : Arrival.Smooth [.chunk [1, 2]]) rfl
  have hPeek := hDelivers.peek_failure rfl (show [1, 2].length < 3 by decide)
  have hRead : ((Operation.read 1).after ((Operation.peek 3).after (ofStream s))) =
      ⟨.ofArrivals [.chunk [3]] .finished, [2]⟩ := by
    simp only [Operation.after, hPeek]
    rfl
  have hTakes : (Operation.read 1).Takes ((Operation.peek 3).after (ofStream s)) [1] := by
    simp only [Operation.Takes, Operation.after, hPeek]
    rfl
  have hLast : History ((Operation.peek 3).after (ofStream s)) [.read 1] ([1] ++ [])
      ⟨.ofArrivals [.chunk [3]] .finished, [2]⟩ := .more hTakes (hRead ▸ .none _)
  have hFirst : (Operation.peek 3).Takes (ofStream s) [] := rfl
  have hHistory : History (ofStream s) [.peek 3, .read 1] ([] ++ ([1] ++ []))
      ⟨.ofArrivals [.chunk [3]] .finished, [2]⟩ := .more hFirst hLast
  exact ⟨_, hHistory, rfl, ((consumed_append_buffered s _).2 _ _ hHistory).1⟩

end PeekStream

end SpeedTest
