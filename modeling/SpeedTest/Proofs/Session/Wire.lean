import SpeedTest.Proofs.Session.Closing
import SpeedTest.Proofs.WebSocket.Production

/-! What a session puts on the wire: the frames that it and its tests write while the connection is
open, whole and in order, up to the first write that the stream refuses. On a WebSocket each of them
is a message of its own. A frame that is too long fails by itself and leaves no trace. -/

namespace SpeedTest

open Program (Answering)

/-- Writing a frame is writing its bytes, if it has any. -/
theorem Frame.lays_writeTo {s : Stream} (hSteady : s.Steady) (f : Frame) :
    s.Lays f.wire (f.writeTo s).2 := by
  unfold writeTo wire
  cases f.encode with
  | error e => exact .refl hSteady
  | ok bytes =>
      have hLays := Stream.lays_writeAll hSteady bytes
      show s.Lays bytes ((((Stream.writeAll bytes).mapError .io : Action Stream ProtocolError Unit)
        >>= fun _ => Stream.flush.mapError .io) s).2
      rw [Action.bind_apply, Action.mapError]
      generalize Stream.writeAll bytes s = x at hLays
      obtain ⟨r, t⟩ := x
      cases r with
      | done u =>
          dsimp only
          rw [Action.mapError_state]
          exact hLays.flush
      | failed e => exact hLays
      | pending => exact hLays

/-- A frame whose length does not fit into its header fails before anything is written or flushed:
the connection, on whichever transport, is as it was. -/
theorem Connection.write_of_tooLarge {c : Connection} {f : Frame} (hOpen : c.isClosed = false)
    (hLarge : Frame.maxBodyLength < f.body.length) :
    Connection.write f c = (.failed (.frameTooLarge f.body.length), c) := by
  have hEncode : f.encode = .error (.frameTooLarge f.body.length) :=
    if_neg (Nat.not_le_of_gt hLarge)
  obtain ⟨channel, peer, isClosed⟩ := c
  subst hOpen
  cases channel with
  | raw p =>
      have hWrite : f.writeTo p.inner = (.failed (.frameTooLarge f.body.length), p.inner) := by
        rw [Frame.writeTo, hEncode]
        rfl
      simp only [Connection.write, onOpen, Channel.write, PeekStream.onInner, Action.focus, hWrite,
        Bool.false_eq_true, if_false]
  | webSocket l =>
      have hSend : Channel.sendFrame f l = (.failed (.frameTooLarge f.body.length), l) := by
        rw [Channel.sendFrame, hEncode]
        rfl
      simp only [Connection.write, onOpen, Channel.write, hSend, Bool.false_eq_true, if_false]

namespace Session

variable {X : Type} {R : X → Type} {ξ α : Type} (world : Answering X R ξ)

/-- The frame that is handed to an open connection. -/
def offer? : Effect X × Surroundings ξ → Option Frame
  | (.call (.write f), s) => if s.connection.isClosed then none else some f
  | _ => none

/-- The frames that are handed to a connection while it is open, in order. -/
def offered (visits : List (Effect X × Surroundings ξ)) : List Frame := visits.filterMap offer?

/-- The bytes of those frames that have an encoding. -/
def offeredBytes (visits : List (Effect X × Surroundings ξ)) : Bytes :=
  (offered visits).flatMap Frame.wire

theorem offeredBytes_cons (x : Effect X × Surroundings ξ)
    (rest : List (Effect X × Surroundings ξ)) :
    offeredBytes (x :: rest) = ((offer? x).map Frame.wire).getD [] ++ offeredBytes rest := by
  rw [offeredBytes, offered, List.filterMap_cons]
  cases offer? x with
  | none => rfl
  | some f => rfl

/-- Answering an effect puts the frame on the wire that is handed over, and nothing else. -/
theorem lays_answer (e : Effect X) {s : Surroundings ξ} (hRaw : s.connection.transport = .raw)
    (hSteady : s.connection.stream.Steady) :
    s.connection.stream.Lays (((offer? (e, s)).map Frame.wire).getD [])
      (answer world e s).2.connection.stream := by
  obtain ⟨⟨channel, peer, isClosed⟩, log, observed, outside⟩ := s
  obtain ⟨p, rfl⟩ : ∃ p, channel = .raw p := by
    cases channel with
    | raw p => exact ⟨p, rfl⟩
    | webSocket link => cases hRaw
  have hRead : p.inner.Lays [] (Connection.read ⟨.raw p, peer, isClosed⟩).2.stream := by
    cases isClosed with
    | true => exact .refl hSteady
    | false =>
        show p.inner.Lays [] (Frame.readFrom PeekStream.read p).2.inner
        rw [Inward.readFrom.inner_eq]
        exact .of_idle hSteady _ _ _
  cases e with
  | observe label rate => exact .refl hSteady
  | call c =>
      cases c with
      | read | readInTime => exact hRead
      | write f =>
          cases isClosed with
          | true => exact .refl hSteady
          | false => exact f.lays_writeTo hSteady
      | close =>
          rw [answer, answerCall, Surroundings.connection_close]
          cases isClosed with
          | true => exact .refl hSteady
          | false =>
              rw [Connection.close_of_open rfl, Connection.closed, Channel.close_raw]
              exact .of_idle hSteady _ _ _
      | status | note entry | outside x => exact .refl hSteady

/-- What a run puts on the wire is what is handed over at its visits. -/
theorem lays_run (p : Program (Effect X) (Response R) α) {s : Surroundings ξ}
    (hRaw : s.connection.transport = .raw) (hSteady : s.connection.stream.Steady) :
    s.connection.stream.Lays (offeredBytes (p.visits (answer world) s))
      (p.run (answer world) s).2.connection.stream := by
  induction p generalizing s with
  | done a => exact .refl hSteady
  | perform e next ih =>
      have hFirst := lays_answer world e hRaw hSteady
      obtain ⟨hRaw', -⟩ := written_answer world e hRaw
      simp only [Program.run, Program.visits, offeredBytes_cons]
      generalize answer world e s = x at hFirst hRaw'
      obtain ⟨r, s'⟩ := x
      cases r with
      | none => exact hFirst.trans (.refl hFirst.steady)
      | some r => exact hFirst.trans (ih r hRaw' hFirst.steady)

open WebSocket

/-- The message that is handed to a link that still sends: the encoding of a frame, if it has
one. -/
def message? (x : Effect X × Surroundings ξ) : Option Bytes :=
  match x.2.connection.channel with
  | .webSocket l => if l.phase = .active then (offer? x).bind fun f => f.encode.toOption else none
  | .raw _ => none

theorem message?_of_offer? {x : Effect X × Surroundings ξ} (h : offer? x = none) :
    message? x = none := by
  rw [message?, h]
  split
  · split <;> rfl
  · rfl

/-- The messages that are handed to a link while it sends and the connection is open, in order. -/
def messages (visits : List (Effect X × Surroundings ξ)) : List Bytes := visits.filterMap message?

theorem messages_cons (x : Effect X × Surroundings ξ) (rest : List (Effect X × Surroundings ξ)) :
    messages (x :: rest) = (message? x).toList ++ messages rest := by
  rw [messages, List.filterMap_cons]
  cases message? x <;> rfl

/-- Writing a frame puts out its encoding as one message, if it has one and the link still sends. -/
theorem speaks_sendFrame (f : Frame) (l : Link) :
    l.Speaks (if l.phase = .active then f.encode.toOption else none).toList
      (Channel.sendFrame f l).2 := by
  rw [Channel.sendFrame]
  cases f.encode with
  | error e =>
      have hNone : (if l.phase = .active then (Except.error e : Except ProtocolError Bytes).toOption
          else none) = none := by split <;> rfl
      rw [hNone]
      exact .refl l
  | ok payload =>
      show l.Speaks _ ((Link.send payload).mapError ProtocolError.webSocket l).2
      rw [Action.mapError_state]
      by_cases hActive : l.phase = .active
      · rw [if_pos hActive]
        exact Link.speaks_send hActive payload
      · rw [if_neg hActive, Link.send_of_not_active hActive]
        exact .refl l

/-- Answering an effect puts out the message that is handed over, and nothing else but answers. -/
theorem speaks_answer (e : Effect X) {s : Surroundings ξ} {l : Link}
    (hLink : s.connection.channel = .webSocket l) :
    ∃ l', (answer world e s).2.connection.channel = .webSocket l' ∧
      l.Speaks (message? (e, s)).toList l' := by
  obtain ⟨⟨channel, peer, isClosed⟩, log, observed, outside⟩ := s
  subst hLink
  cases e with
  | observe label rate =>
      rw [message?_of_offer? rfl]
      exact ⟨l, rfl, .refl l⟩
  | call c =>
      cases c with
      | status | note entry | outside x =>
          rw [message?_of_offer? rfl]
          exact ⟨l, rfl, .refl l⟩
      | read | readInTime =>
          rw [message?_of_offer? rfl]
          cases isClosed with
          | true => exact ⟨l, rfl, .refl l⟩
          | false => exact ⟨_, rfl, l.speaks_frameOfEvents⟩
      | write f =>
          cases isClosed with
          | true =>
              rw [message?_of_offer? rfl]
              exact ⟨l, rfl, .refl l⟩
          | false => exact ⟨_, rfl, speaks_sendFrame f l⟩
      | close =>
          rw [message?_of_offer? rfl, answer, answerCall, Surroundings.connection_close]
          cases isClosed with
          | true => exact ⟨l, rfl, .refl l⟩
          | false =>
              rw [Connection.close_of_open rfl, Connection.closed, Channel.close_webSocket]
              exact ⟨_, rfl, l.speaks_close⟩

/-- What a run puts out on a link is the messages that are handed over at its visits. -/
theorem speaks_run (p : Program (Effect X) (Response R) α) {s : Surroundings ξ} {l : Link}
    (hLink : s.connection.channel = .webSocket l) :
    ∃ l', (p.run (answer world) s).2.connection.channel = .webSocket l' ∧
      l.Speaks (messages (p.visits (answer world) s)) l' := by
  induction p generalizing s l with
  | done a => exact ⟨l, hLink, .refl l⟩
  | perform e next ih =>
      obtain ⟨l₁, hLink₁, hFirst⟩ := speaks_answer world e hLink
      simp only [Program.run, Program.visits, messages_cons]
      generalize answer world e s = x at hLink₁
      obtain ⟨r, s'⟩ := x
      cases r with
      | none => exact ⟨l₁, hLink₁, hFirst.trans (.refl l₁)⟩
      | some r =>
          obtain ⟨l₂, hLink₂, hRest⟩ := ih r hLink₁
          exact ⟨l₂, hLink₂, hFirst.trans hRest⟩

end Session

end SpeedTest
