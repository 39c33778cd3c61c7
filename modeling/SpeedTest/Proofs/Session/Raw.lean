import SpeedTest.Proofs.Session.Host
import SpeedTest.Proofs.Stream.Inward
import SpeedTest.Proofs.Stream.Writing
import SpeedTest.Proofs.Wire.Framing

/-! Sessions on a raw stream. A session and its tests see the bytes of the stream and nothing of the
pieces in which they arrive, and they put frames on it and nothing else. -/

namespace SpeedTest

open Program (Answering)

/-- Two connections over streams that still deliver the same bytes and then end, and on which the
same has been done. -/
inductive Connection.Same : Connection → Connection → Prop
  | intro {p q : PeekStream} {w : Bytes} {rest : Stream} (peer : Option SocketAddress)
      (isClosed : Bool) (hp : p.Delivers w rest) (hq : q.Delivers w rest) (hEnd : rest.AtEnd) :
      Same ⟨.raw p, peer, isClosed⟩ ⟨.raw q, peer, isClosed⟩

namespace Connection.Same

variable {c d : Connection}

theorem sameOutput (h : Same c d) : c.stream.SameOutput d.stream := by
  obtain ⟨peer, isClosed, hp, hq, -⟩ := h
  exact hp.sameOutput hq

theorem read (h : Same c d) :
    (Connection.read c).1 = (Connection.read d).1 ∧
      Same (Connection.read c).2 (Connection.read d).2 := by
  obtain ⟨peer, isClosed, hp, hq, hEnd⟩ := h
  cases isClosed with
  | true => exact ⟨rfl, .intro peer true hp hq hEnd⟩
  | false =>
      obtain ⟨p', hReadP, hp'⟩ := Frame.readFrom_eq_ofFront hp hEnd
      obtain ⟨q', hReadQ, hq'⟩ := Frame.readFrom_eq_ofFront hq hEnd
      simp only [Connection.read, onOpen, Channel.read, hReadP, hReadQ, Bool.false_eq_true,
        if_false]
      exact ⟨trivial, .intro peer false hp' hq' hEnd⟩

theorem write (h : Same c d) (f : Frame) :
    (Connection.write f c).1 = (Connection.write f d).1 ∧
      Same (Connection.write f c).2 (Connection.write f d).2 := by
  obtain ⟨peer, isClosed, hp, hq, hEnd⟩ := h
  cases isClosed with
  | true => exact ⟨rfl, .intro peer true hp hq hEnd⟩
  | false =>
      obtain ⟨hDoneP, hp'⟩ := hp.onInner (Outward.writeTo f)
      obtain ⟨hDoneQ, hq'⟩ := hq.onInner (Outward.writeTo f)
      exact ⟨hDoneP.trans hDoneQ.symm, .intro peer false hp' hq' (hEnd.outward (Outward.writeTo f))⟩

theorem close (h : Same c d) :
    (Connection.close c).1 = (Connection.close d).1 ∧
      Same (Connection.close c).2 (Connection.close d).2 := by
  obtain ⟨peer, isClosed, hp, hq, hEnd⟩ := h
  cases isClosed with
  | true => exact ⟨rfl, .intro peer true hp hq hEnd⟩
  | false =>
      obtain ⟨hDoneP, hp'⟩ := hp.onInner Outward.shutdown
      obtain ⟨hDoneQ, hq'⟩ := hq.onInner Outward.shutdown
      have hEnd' := hEnd.outward Outward.shutdown
      rw [← hDoneQ] at hDoneP
      simp only [Connection.close, Channel.close, PeekStream.shutdown, Bool.false_eq_true, if_false]
      generalize PeekStream.onInner Stream.shutdown _ = x at hDoneP hp' ⊢
      generalize PeekStream.onInner Stream.shutdown _ = y at hDoneP hq' ⊢
      obtain ⟨r, p'⟩ := x
      obtain ⟨r', q'⟩ := y
      cases hDoneP
      cases r <;> exact ⟨rfl, .intro peer true hp' hq' hEnd'⟩

end Connection.Same

namespace Session

variable {X : Type} {R : X → Type} {ξ : Type}

/-- Surroundings that only differ in what is behind the connection. -/
inductive Surroundings.Same : Surroundings ξ → Surroundings ξ → Prop
  | intro {c d : Connection} (h : Connection.Same c d) (log : List Log.Entry)
      (observed : List (String × Binary64)) (outside : ξ) :
      Same ⟨c, log, observed, outside⟩ ⟨d, log, observed, outside⟩

theorem Surroundings.Same.onConnection {α : Type} {x : Action Connection ProtocolError α}
    (hx : ∀ c d, Connection.Same c d → (x c).1 = (x d).1 ∧ Connection.Same (x c).2 (x d).2)
    {s t : Surroundings ξ} (h : Same s t) :
    (s.onConnection x).1 = (t.onConnection x).1 ∧
      Same (s.onConnection x).2 (t.onConnection x).2 := by
  obtain ⟨hConnection, log, observed, outside⟩ := h
  obtain ⟨hDone, hNext⟩ := hx _ _ hConnection
  exact ⟨congrArg Outcome.toExcept? hDone, .intro hNext log observed outside⟩

theorem Surroundings.Same.close {s t : Surroundings ξ} (h : Same s t) :
    s.close.1 = t.close.1 ∧ Same s.close.2 t.close.2 := by
  obtain ⟨hDone, hNext⟩ := h.onConnection fun _ _ => Connection.Same.close
  simp only [Surroundings.close]
  generalize s.onConnection Connection.close = x at hDone hNext ⊢
  generalize t.onConnection Connection.close = y at hDone hNext ⊢
  obtain ⟨r, s'⟩ := x
  obtain ⟨r', t'⟩ := y
  cases hDone
  cases r with
  | none => exact ⟨rfl, hNext⟩
  | some r =>
      cases r with
      | error e => exact ⟨rfl, hNext⟩
      | ok closing =>
          cases closing with
          | released => exact ⟨rfl, hNext⟩
          | closedByPeer =>
              obtain ⟨hConnection, log, observed, outside⟩ := hNext
              exact ⟨rfl, .intro hConnection _ _ _⟩

/-- Such surroundings answer alike. -/
theorem alike_of_same (world : Answering X R ξ) :
    Program.Alike (answer world) (answer world) Surroundings.Same := by
  intro e s t h
  cases e with
  | observe label rate =>
      obtain ⟨hConnection, log, observed, outside⟩ := h
      exact ⟨rfl, .intro hConnection _ _ _⟩
  | call c =>
      cases c with
      | read => exact h.onConnection fun _ _ => Connection.Same.read
      | readInTime =>
          obtain ⟨hDone, hNext⟩ := h.onConnection fun _ _ => Connection.Same.read
          exact ⟨congrArg some hDone, hNext⟩
      | write f => exact h.onConnection fun _ _ hSame => hSame.write f
      | close => exact h.close
      | status =>
          obtain ⟨⟨peer, isClosed, hp, hq, hEnd⟩, log, observed, outside⟩ := h
          exact ⟨rfl, .intro (.intro peer isClosed hp hq hEnd) _ _ _⟩
      | note entry =>
          obtain ⟨hConnection, log, observed, outside⟩ := h
          exact ⟨rfl, .intro hConnection _ _ _⟩
      | outside x =>
          obtain ⟨hConnection, log, observed, outside⟩ := h
          exact ⟨rfl, .intro hConnection _ _ _⟩

end Session

/-- The bytes of a frame, if it has an encoding. -/
def Frame.wire (f : Frame) : Bytes :=
  match f.encode with
  | .ok bytes => bytes
  | .error _ => []

/-- Writing a frame puts a front part of its bytes on the stream. -/
theorem Frame.written_writeTo (f : Frame) (s : Stream) :
    ∃ part, part <+: f.wire ∧ (f.writeTo s).2.written = s.written ++ part := by
  unfold writeTo wire
  cases f.encode with
  | error e => exact ⟨[], List.nil_prefix, (List.append_nil _).symm⟩
  | ok bytes =>
      obtain ⟨part, hPart, hWritten, -⟩ := Stream.written_writeAll bytes s
      refine ⟨part, hPart, ?_⟩
      show ((((Stream.writeAll bytes).mapError .io : Action Stream ProtocolError Unit) >>=
        fun _ => Stream.flush.mapError .io) s).2.written = _
      rw [Action.bind_apply, Action.mapError, ← hWritten]
      obtain ⟨r, t⟩ := Stream.writeAll bytes s
      cases r with
      | done u =>
          dsimp only
          rw [Action.mapError_state, Stream.written_flush]
      | failed e => rfl
      | pending => rfl

namespace Session

variable {X : Type} {R : X → Type} {ξ α : Type}

/-- The bytes of the frame that an effect writes. Every other effect writes nothing. -/
def Effect.wire : Effect X → Bytes
  | .call (.write f) => f.wire
  | _ => []

/-- What exchanges put on the stream: of the frames that they write, in order, a front part each. -/
inductive Emits : List ((e : Effect X) × Option (Response R e)) → Bytes → Prop
  | nil : Emits [] []
  | cons {x : (e : Effect X) × Option (Response R e)} {rest : List _} {part bytes : Bytes}
      (hPart : part <+: x.1.wire) (next : Emits rest bytes) : Emits (x :: rest) (part ++ bytes)

/-- A raw stream stays one, and answering an effect writes nothing but what the effect says. -/
theorem written_answer (world : Answering X R ξ) (e : Effect X) {s : Surroundings ξ}
    (hRaw : s.connection.transport = .raw) :
    (answer world e s).2.connection.transport = .raw ∧
      ∃ part, part <+: e.wire ∧
        (answer world e s).2.connection.stream.written =
          s.connection.stream.written ++ part := by
  obtain ⟨⟨channel, peer, isClosed⟩, log, observed, outside⟩ := s
  -- A link of WebSockets never stands behind a raw connection.
  obtain ⟨p, rfl⟩ : ∃ p, channel = .raw p := by
    cases channel with
    | raw p => exact ⟨p, rfl⟩
    | webSocket link => cases hRaw
  have hNothing (s : Surroundings ξ) : s.connection.stream.written =
      s.connection.stream.written ++ [] := (List.append_nil _).symm
  obtain ⟨hTransport, hRead⟩ :
      (Connection.read ⟨.raw p, peer, isClosed⟩).2.transport = .raw ∧
        (Connection.read ⟨.raw p, peer, isClosed⟩).2.stream.written = p.inner.written ++ [] := by
    have hFrame : (Frame.readFrom PeekStream.read p).2.inner.written = p.inner.written := by
      rw [Inward.readFrom.inner_eq]
      rfl
    rw [List.append_nil]
    cases isClosed with
    | true => exact ⟨rfl, rfl⟩
    | false => exact ⟨rfl, hFrame⟩
  cases e with
  | observe label rate => exact ⟨rfl, [], List.nil_prefix, hNothing _⟩
  | call c =>
      cases c with
      | read | readInTime => exact ⟨hTransport, [], List.nil_prefix, hRead⟩
      | write f =>
          cases isClosed with
          | true => exact ⟨rfl, [], List.nil_prefix, hNothing _⟩
          | false =>
              obtain ⟨part, hPart, hWritten⟩ := f.written_writeTo p.inner
              exact ⟨rfl, part, hPart, hWritten⟩
      | close =>
          cases isClosed with
          | true => exact ⟨rfl, [], List.nil_prefix, hNothing _⟩
          | false =>
              simp only [answer, answerCall, Surroundings.close, Surroundings.onConnection,
                Connection.close, Channel.close, Bool.false_eq_true, if_false]
              rcases p.shutdown_cases with hShut | ⟨cause, hShut⟩
              all_goals
                rw [hShut]
                exact ⟨rfl, [], List.nil_prefix, (List.append_nil _).symm⟩
      | status | note entry | outside x => exact ⟨rfl, [], List.nil_prefix, hNothing _⟩

/-- What a run on a raw stream writes is what its exchanges put there. -/
theorem emits_of_run (world : Answering X R ξ) (p : Program (Effect X) (Response R) α)
    {s : Surroundings ξ} (hRaw : s.connection.transport = .raw) :
    ∃ bytes, Emits (p.transcript (answer world) s) bytes ∧
      (p.run (answer world) s).2.connection.stream.written =
        s.connection.stream.written ++ bytes := by
  induction p generalizing s with
  | done a => exact ⟨[], .nil, (List.append_nil _).symm⟩
  | perform e next ih =>
      obtain ⟨hRaw', part, hPart, hWritten⟩ := written_answer world e hRaw
      simp only [Program.run, Program.transcript]
      generalize answer world e s = x at hRaw' hWritten
      obtain ⟨r, s'⟩ := x
      cases r with
      | none =>
          refine ⟨part ++ [], .cons hPart .nil, ?_⟩
          rw [List.append_nil]
          exact hWritten
      | some r =>
          obtain ⟨bytes, hEmits, hNext⟩ := ih r hRaw'
          refine ⟨part ++ bytes, .cons hPart hEmits, ?_⟩
          rw [← List.append_assoc, ← hWritten]
          exact hNext

end Session

end SpeedTest
