import SpeedTest.Proofs.Stream.Writing
import SpeedTest.Proofs.Wire.Framing
import SpeedTest.Proofs.Wire.Message

/-! Messages in a row, from one end of a stream to the other. The lengths in front of the bodies
keep the frames apart: no message takes a byte of the next, however the bytes are cut into writes
and reads. -/

namespace SpeedTest

namespace Message

/-- Write messages one after another, each in a frame of its own. None is written behind one that
fails. -/
def writeEach : List (Kind × Message) → Action Stream ProtocolError Unit
  | [] => pure ()
  | (kind, m) :: rest => do
    (Frame.ofMessage kind m).writeTo
    writeEach rest

/-- Read messages of the given kinds one after another. -/
def readEach : List Kind → Action PeekStream ProtocolError (List Message)
  | [] => pure []
  | kind :: rest => do
    let f ← Frame.readFrom PeekStream.read
    let m ← Action.ofExcept (f.toMessage kind)
    let ms ← readEach rest
    return m :: ms

/-- The bytes of messages whose bodies are not too long. -/
def wire (messages : List (Kind × Message)) : Bytes :=
  messages.flatMap fun x => Frame.header x.1 x.2.render.length ++ x.2.render

/-- Messages that each fit into a frame. -/
def Fit (messages : List (Kind × Message)) : Prop :=
  ∀ x ∈ messages, x.2.render.length ≤ Frame.maxBodyLength

theorem Fit.head {kind : Kind} {m : Message} {rest : List (Kind × Message)}
    (h : Fit ((kind, m) :: rest)) :
    (Frame.ofMessage kind m).encode = .ok (Frame.header kind m.render.length ++ m.render) :=
  if_pos (h (kind, m) List.mem_cons_self)

theorem Fit.tail {x : Kind × Message} {rest : List (Kind × Message)} (h : Fit (x :: rest)) :
    Fit rest := fun y hy => h y (List.mem_cons_of_mem x hy)

end Message

/-- A frame is written whole, whether or not it can be flushed. -/
theorem Frame.writeTo_of_accepting {f : Frame} {bytes : Bytes} {s : Stream} (h : s.Accepting)
    (hEncode : f.encode = .ok bytes) :
    ∃ writes sent, f.writeTo s =
        (match s.flushFault s.flushes with
          | none => .done ()
          | some e => .failed (.io e),
          { s with writes := writes, sent := sent, flushes := s.flushes + 1 }) ∧
      sent.reverse.flatten = s.written ++ bytes := by
  obtain ⟨writes, sent, hWrite, hSent⟩ := h.writeAll bytes
  refine ⟨writes, sent, ?_, hSent⟩
  rw [writeTo, hEncode]
  show (((Stream.writeAll bytes).mapError .io : Action Stream ProtocolError Unit) >>= _) s = _
  rw [Action.bind_apply, Action.mapError, hWrite]
  simp only [Action.mapError, Stream.flush]
  cases s.flushFault s.flushes <;> rfl

namespace Message

/-- What has been written is the wire of the messages up to the first that could not be flushed. -/
theorem writeEach_of_accepting {messages : List (Kind × Message)} (hFit : Fit messages) {s : Stream}
    (h : s.Accepting) :
    ∃ sent, sent <+: messages ∧ (writeEach messages s).2.written = s.written ++ wire sent ∧
      ((writeEach messages s).1 = .done () → sent = messages) ∧
      ((∀ n, s.flushFault n = none) → (writeEach messages s).1 = .done ()) := by
  induction messages generalizing s with
  | nil => exact ⟨[], List.prefix_refl _, by simp [writeEach, wire], fun _ => rfl, fun _ => rfl⟩
  | cons x messages ih =>
      obtain ⟨kind, m⟩ := x
      obtain ⟨writes, sent, hWrite, hSent⟩ := Frame.writeTo_of_accepting h hFit.head
      rw [writeEach, Action.bind_apply, hWrite]
      cases hFlush : s.flushFault s.flushes with
      | some e =>
          refine ⟨[(kind, m)], ⟨messages, rfl⟩, ?_, fun hDone => ?_, fun hAll => ?_⟩
          · simpa [Stream.written, wire] using hSent
          · cases hDone
          · rw [hAll] at hFlush
            cases hFlush
      | none =>
          have hNext : Stream.Accepting { s with
            writes := writes
            sent := sent
            flushes := s.flushes + 1 } := ⟨h.room, h.grant⟩
          obtain ⟨front, hFront, hWritten, hAll, hFlushes⟩ := ih hFit.tail hNext
          refine ⟨(kind, m) :: front, (List.prefix_cons_inj _).mpr hFront, ?_, ?_, hFlushes⟩
          · dsimp only
            rw [hWritten]
            simp only [Stream.written, hSent, wire, List.flatMap_cons, List.append_assoc]
          · exact fun hDone => congrArg _ (hAll hDone)

/-- Messages on a stream are read as themselves, and what follows them is left on the stream. -/
theorem readEach_wire {messages : List (Kind × Message)} (hFit : Fit messages) {p : PeekStream}
    {trailing : Bytes} {rest : Stream} (h : p.Delivers (wire messages ++ trailing) rest) :
    ∃ p', readEach (messages.map Prod.fst) p = (.done (messages.map Prod.snd), p') ∧
      p'.Delivers trailing rest := by
  induction messages generalizing p with
  | nil => exact ⟨p, rfl, h⟩
  | cons x messages ih =>
      obtain ⟨kind, m⟩ := x
      rw [wire, List.flatMap_cons, ← wire, List.append_assoc] at h
      obtain ⟨q, hFrame, hRest⟩ := Frame.readFrom_encode hFit.head h
      obtain ⟨p', hEach, hDelivers⟩ := ih hFit.tail hRest
      refine ⟨p', ?_, hDelivers⟩
      rw [List.map_cons, readEach, Action.bind_apply, hFrame]
      dsimp only
      rw [Frame.toMessage_ofMessage, Action.bind_apply, Action.ofExcept, Action.pure]
      dsimp only
      rw [Action.bind_apply, hEach]
      rfl

/-- Messages that were written one after another are read back in that order. The stream that takes
them may accept any number of bytes per write but none; the stream that brings them may cut them
into any pieces, and may have been looked at before. Exactly the bytes that follow the messages are
left, and it does not matter how the stream goes on or ends behind those.

Every message goes out when no flush fails. When one does, the messages up to that one are on the
stream, and they are read back all the same. -/
theorem readEach_writeEach (messages : List (Kind × Message))
    (hFit : ∀ x ∈ messages, x.2.render.length ≤ 65535) {s : Stream} (h : s.Accepting) :
    ∃ sent bytes, sent <+: messages ∧ (writeEach messages s).2.written = s.written ++ bytes ∧
      ((writeEach messages s).1 = .done () → sent = messages) ∧
      ((∀ n, s.flushFault n = none) → (writeEach messages s).1 = .done ()) ∧
      ∀ (trailing : Bytes) (rest : Stream) (p : PeekStream), p.Delivers (bytes ++ trailing) rest →
        ∃ p', readEach (sent.map Prod.fst) p = (.done (sent.map Prod.snd), p') ∧
          p'.Delivers trailing rest := by
  obtain ⟨sent, hPrefix, hWritten, hAll, hFlushes⟩ := writeEach_of_accepting hFit h
  have hSent : Fit sent := fun x hx => hFit x (hPrefix.subset hx)
  exact ⟨sent, wire sent, hPrefix, hWritten, hAll, hFlushes,
    fun trailing rest p hDelivers => readEach_wire hSent hDelivers⟩

/-- A login with a control character, a quote and a character outside the basic plane, and a
backslash, over streams that take and bring one byte at a time. -/
theorem readEach_writeEach_byte_by_byte :
    let messages : List (Kind × Message) :=
      [(.extendedLogin, ⟨"\u0001\"😀", some "22"⟩), (.testMessage, ofText "\\")]
    let s : Stream := { Stream.ofArrivals [] .silent with grant := fun _ => some 1 }
    s.Accepting ∧ (writeEach messages s).1 = .done () ∧
      ∃ p', readEach [.extendedLogin, .testMessage] (.ofStream (.ofArrivals
          ((writeEach messages s).2.written.map fun b => .chunk [b]) .finished)) =
        (.done [⟨"\u0001\"😀", some "22"⟩, ofText "\\"], p') := by
  intro messages s
  have hAccepting : s.Accepting := ⟨rfl, fun n => by simp [s]⟩
  have hFit : ∀ x ∈ messages, x.2.render.length ≤ 65535 := by
    intro x hx
    simp only [messages, List.mem_cons, List.not_mem_nil, or_false] at hx
    rcases hx with rfl | rfl <;> decide
  obtain ⟨sent, bytes, -, hWritten, hAll, hFlushes, hRead⟩ :=
    readEach_writeEach messages hFit hAccepting
  have hDone := hFlushes fun n => rfl
  obtain rfl := hAll hDone
  rw [show s.written = [] from rfl, List.nil_append] at hWritten
  rw [hWritten]
  have hSmooth : Arrival.Smooth (bytes.map fun b => .chunk [b]) := by
    intro a ha e hFailure
    simp [hFailure] at ha
  have hPayload : Arrival.payload (bytes.map fun b => .chunk [b]) = bytes ++ [] := by
    simp [Arrival.payload, List.flatMap_map]
  have hDelivers : (PeekStream.ofStream (.ofArrivals (bytes.map fun b => .chunk [b])
      .finished)).Delivers (Arrival.payload (bytes.map fun b => .chunk [b]))
      (.ofArrivals [] .finished) := .ofStream hSmooth (by simp [Stream.ofArrivals])
  rw [hPayload] at hDelivers
  obtain ⟨p', hEach, -⟩ := hRead [] _ _ hDelivers
  exact ⟨hAccepting, hDone, p', hEach⟩

end Message

end SpeedTest
