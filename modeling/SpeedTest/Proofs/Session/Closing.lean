import SpeedTest.Proofs.Session.Login
import SpeedTest.Proofs.Session.Raw
import SpeedTest.Proofs.WebSocket.Closing

/-! How a session leaves its connection. Whoever closes it first, the session or one of its tests,
it is closed once, and from then on nobody can reach the stream. Nothing is assumed of the peer, the
stream or the tests; reads, writes, flushes, shutdowns and the close itself may fail. -/

namespace SpeedTest

/-- Frames shut nothing down. -/
theorem Frame.shutdowns_writeTo (f : Frame) (s : Stream) :
    (f.writeTo s).2.shutdowns = s.shutdowns := by
  unfold writeTo
  cases f.encode with
  | error e => rfl
  | ok bytes =>
      show ((((Stream.writeAll bytes).mapError .io : Action Stream ProtocolError Unit) >>=
        fun _ => Stream.flush.mapError .io) s).2.shutdowns = _
      rw [Action.bind_apply, Action.mapError, ← Stream.shutdowns_writeAll bytes s]
      obtain ⟨r, t⟩ := Stream.writeAll bytes s
      cases r with
      | done u => exact (congrArg _ (Action.mapError_state _ _ t)).trans (Stream.shutdowns_flush t)
      | failed e => rfl
      | pending => rfl

/-- Closing a channel never waits. -/
theorem Channel.prompt_close : Action.Prompt close := by
  rintro (p | l)
  · rcases p.shutdown_cases with hShut | ⟨e, hShut⟩
    all_goals
      rw [close, hShut]
      exact fun h => by cases h
  · have hClose := WebSocket.Link.prompt_close l
    rw [close, closeLink]
    generalize WebSocket.Link.close l = x at hClose
    obtain ⟨r, l'⟩ := x
    cases r with
    | done u => exact fun h => by cases h
    | failed e =>
        dsimp only
        split <;> exact fun h => by cases h
    | pending => exact absurd rfl hClose

/-- Closing a raw channel shuts its stream down once and does nothing else to it. -/
theorem Channel.close_raw (p : PeekStream) :
    (close (.raw p)).2 =
      .raw { p with inner := { p.inner with shutdowns := p.inner.shutdowns + 1 } } := by
  rcases p.shutdown_cases with hShut | ⟨e, hShut⟩
  all_goals rw [close, hShut]

/-- Closing a channel over a link starts to close the link and does nothing else to it. -/
theorem Channel.close_webSocket (l : WebSocket.Link) :
    (close (.webSocket l)).2 = .webSocket (WebSocket.Link.close l).2 := by
  rw [close, closeLink]
  obtain ⟨r, l'⟩ := WebSocket.Link.close l
  cases r with
  | failed e =>
      dsimp only
      split <;> rfl
  | _ => rfl

namespace Connection

/-- The connection behind a close, whether or not the close has succeeded. -/
def closed (c : Connection) : Connection :=
  { c with channel := c.channel.close.2, isClosed := true }

theorem close_of_open {c : Connection} (hOpen : c.isClosed = false) :
    close c = ((Channel.close c.channel).1, c.closed) := by
  rw [close, hOpen, closed]
  rfl

theorem close_of_closed {c : Connection} (hClosed : c.isClosed = true) :
    close c = (.done .released, c) := if_pos hClosed

theorem prompt_close : Action.Prompt close := by
  intro c
  cases hClosed : c.isClosed with
  | false =>
      rw [close_of_open hClosed]
      exact Channel.prompt_close c.channel
  | true =>
      rw [close_of_closed hClosed]
      exact fun h => by cases h

theorem isClosed_close (c : Connection) : (close c).2.isClosed = true := by
  cases hClosed : c.isClosed with
  | false => rw [close_of_open hClosed, closed]
  | true =>
      rw [close_of_closed hClosed]
      exact hClosed

/-- The second connection comes from the first, and nobody has closed it in between. -/
structure StaysOpen (c d : Connection) : Prop where
  isOpen : d.isClosed = false
  transport : d.transport = c.transport
  shutdowns : c.transport = .raw → d.stream.shutdowns = c.stream.shutdowns

namespace StaysOpen

variable {c d e : Connection}

theorem refl (hOpen : c.isClosed = false) : StaysOpen c c := ⟨hOpen, rfl, fun _ => rfl⟩

theorem trans (h : StaysOpen c d) (h' : StaysOpen d e) : StaysOpen c e where
  isOpen := h'.isOpen
  transport := h'.transport.trans h.transport
  shutdowns := fun hRaw => (h'.shutdowns (h.transport.trans hRaw)).trans (h.shutdowns hRaw)

theorem read (hOpen : c.isClosed = false) : StaysOpen c (Connection.read c).2 := by
  obtain ⟨channel, peer, isClosed⟩ := c
  subst hOpen
  cases channel with
  | raw p =>
      have hShutdowns :
          (Frame.readFrom PeekStream.read p).2.inner.shutdowns = p.inner.shutdowns := by
        rw [Inward.readFrom.inner_eq]
      exact ⟨rfl, rfl, fun _ => hShutdowns⟩
  | webSocket l => exact ⟨rfl, rfl, fun hRaw => by cases hRaw⟩

theorem write (hOpen : c.isClosed = false) (f : Frame) : StaysOpen c (Connection.write f c).2 := by
  obtain ⟨channel, peer, isClosed⟩ := c
  subst hOpen
  cases channel with
  | raw p => exact ⟨rfl, rfl, fun _ => f.shutdowns_writeTo p.inner⟩
  | webSocket l => exact ⟨rfl, rfl, fun hRaw => by cases hRaw⟩

end StaysOpen

end Connection

namespace Session

open Program (Answering)

variable {X : Type} {R : X → Type} {ξ α : Type} (world : Answering X R ξ)

namespace Surroundings

/-- The same surroundings with another channel behind the connection. -/
def withChannel (s : Surroundings ξ) (channel : Channel) : Surroundings ξ :=
  { s with connection := { s.connection with channel := channel } }

theorem connection_close (s : Surroundings ξ) : s.close.2.connection = s.connection.close.2 := by
  simp only [close, onConnection]
  generalize Connection.close s.connection = x
  obtain ⟨r, c⟩ := x
  cases r with
  | done closing => cases closing <;> rfl
  | _ => rfl

/-- A close is always answered. -/
theorem close_ne_none (s : Surroundings ξ) : s.close.1 ≠ none := by
  have hPrompt := Connection.prompt_close s.connection
  simp only [close, onConnection]
  generalize Connection.close s.connection = x at hPrompt
  obtain ⟨r, c⟩ := x
  cases r with
  | done closing => cases closing <;> exact fun h => by cases h
  | failed e => exact fun h => by cases h
  | pending => exact absurd rfl hPrompt

end Surroundings

/-- Answering an effect neither reads nor changes the channel. With any other channel of the same
transport it would have gone the same way. -/
def Effect.IsIdle (world : Answering X R ξ) (e : Effect X) (s : Surroundings ξ) : Prop :=
  (answer world e s).2.connection.channel = s.connection.channel ∧
    ∀ channel : Channel, channel.transport = s.connection.transport →
      answer world e (s.withChannel channel) =
        ((answer world e s).1, (answer world e s).2.withChannel channel)

/-- An effect other than a close leaves an open connection open. -/
theorem staysOpen_answer {e : Effect X} (hClose : e ≠ .call .close) {s : Surroundings ξ}
    (hOpen : s.connection.isClosed = false) :
    s.connection.StaysOpen (answer world e s).2.connection := by
  cases e with
  | observe label rate => exact .refl hOpen
  | call c =>
      cases c with
      | read | readInTime => exact .read hOpen
      | write f => exact .write hOpen f
      | close => exact absurd rfl hClose
      | status | note entry | outside x => exact .refl hOpen

/-- No effect reaches the channel of a closed connection, not even a further close. -/
theorem idle_of_closed (e : Effect X) {s : Surroundings ξ}
    (hClosed : s.connection.isClosed = true) :
    (answer world e s).2.connection = s.connection ∧ e.IsIdle world s := by
  obtain ⟨⟨channel, peer, isClosed⟩, log, observed, outside⟩ := s
  subst hClosed
  refine ⟨?_, ?_, fun channel' hTransport => ?_⟩
  · cases e with
    | call c => cases c <;> rfl
    | observe label rate => rfl
  · cases e with
    | call c => cases c <;> rfl
    | observe label rate => rfl
  · cases e with
    | call c =>
        cases c with
        | status =>
            -- The status tells the transport, and no more of the channel.
            simp only [answer, answerCall, Surroundings.withChannel, Surroundings.status,
              Connection.transport] at hTransport ⊢
            rw [hTransport]
        | _ => rfl
    | observe label rate => rfl

/-- What is asked on an open connection before anybody closes it. -/
def IsOpenVisit (x : Effect X × Surroundings ξ) : Prop :=
  x.1 ≠ .call .close ∧ x.2.connection.isClosed = false

/-- What is asked when the connection has become `c`: it is answered without the channel, and `c`
stays as it is. -/
def IsIdleVisit (world : Answering X R ξ) (c : Connection) (x : Effect X × Surroundings ξ) : Prop :=
  x.2.connection = c ∧ x.1.IsIdle world x.2

/-- The connection is closed at a single visit, in the surroundings `t`, and `c` is what is left. -/
structure ClosesOnce (world : Answering X R ξ) (start : Connection)
    (before : List (Effect X × Surroundings ξ)) (t : Surroundings ξ)
    (after : List (Effect X × Surroundings ξ)) (c : Connection) : Prop where
  isOpen_before : ∀ x ∈ before, IsOpenVisit x
  staysOpen : start.StaysOpen t.connection
  eq_closed : c = t.connection.closed
  isIdle_after : ∀ x ∈ after, IsIdleVisit world c x

/-- Once closed, a connection is not touched any more. -/
theorem idle_visits (p : Program (Effect X) (Response R) α) {s : Surroundings ξ}
    (hClosed : s.connection.isClosed = true) :
    (∀ x ∈ p.visits (answer world) s, IsIdleVisit world s.connection x) ∧
      (p.run (answer world) s).2.connection = s.connection := by
  induction p generalizing s with
  | done a => exact ⟨fun x hx => absurd hx List.not_mem_nil, rfl⟩
  | perform e next ih =>
      obtain ⟨hSame, hIdle⟩ := idle_of_closed world e hClosed
      simp only [Program.visits, Program.run, List.forall_mem_cons]
      generalize answer world e s = y at hSame
      obtain ⟨r, s'⟩ := y
      dsimp only at hSame
      cases r with
      | none => exact ⟨⟨⟨rfl, hIdle⟩, fun x hx => absurd hx List.not_mem_nil⟩, hSame⟩
      | some r =>
          obtain ⟨hVisits, hFinal⟩ := ih r (hSame ▸ hClosed)
          rw [hSame] at hVisits hFinal
          exact ⟨⟨⟨rfl, hIdle⟩, hVisits⟩, hFinal⟩

/-- A run that starts on an open connection either leaves it open or closes it once. -/
theorem open_or_closesOnce (p : Program (Effect X) (Response R) α) {s : Surroundings ξ}
    (hOpen : s.connection.isClosed = false) :
    (∀ x ∈ p.visits (answer world) s, IsOpenVisit x) ∧
        s.connection.StaysOpen (p.run (answer world) s).2.connection ∨
      ∃ before t after, p.visits (answer world) s = before ++ (.call .close, t) :: after ∧
        ClosesOnce world s.connection before t after (p.run (answer world) s).2.connection := by
  induction p generalizing s with
  | done a => exact .inl ⟨fun x hx => absurd hx List.not_mem_nil, .refl hOpen⟩
  | perform e next ih =>
      simp only [Program.visits, Program.run]
      by_cases hClose : e = .call .close
      · subst hClose
        refine .inr ⟨[], s, _, rfl, ?_⟩
        have hClosed : (answer world (.call .close) s).2.connection = s.connection.closed := by
          refine (Surroundings.connection_close s).trans ?_
          rw [Connection.close_of_open hOpen]
        generalize answer world (.call .close) s = y at hClosed
        obtain ⟨r, s'⟩ := y
        have hNone {c : Connection} : ∀ x ∈ ([] : List (Effect X × Surroundings ξ)),
          IsIdleVisit world c x := fun x hx => absurd hx List.not_mem_nil
        cases r with
        | none => exact ⟨fun x hx => absurd hx List.not_mem_nil, .refl hOpen, hClosed, hNone⟩
        | some r =>
            obtain ⟨hVisits, hFinal⟩ := idle_visits world (next r)
              (s := s') (congrArg Connection.isClosed hClosed)
            dsimp only at hClosed ⊢
            rw [hFinal]
            exact ⟨fun x hx => absurd hx List.not_mem_nil, .refl hOpen, hClosed, hVisits⟩
      · have hStep := staysOpen_answer world hClose hOpen
        have hVisit : IsOpenVisit (e, s) := ⟨hClose, hOpen⟩
        generalize answer world e s = y at hStep
        obtain ⟨r, s'⟩ := y
        dsimp only at hStep ⊢
        cases r with
        | none => exact .inl ⟨List.forall_mem_singleton.mpr hVisit, hStep⟩
        | some r =>
            rcases ih r hStep.isOpen with ⟨hVisits, hFinal⟩ | ⟨before, t, after, hVisits, hOnce⟩
            · exact .inl ⟨List.forall_mem_cons.mpr ⟨hVisit, hVisits⟩, hStep.trans hFinal⟩
            · exact .inr ⟨(e, s) :: before, t, after, congrArg _ hVisits,
                List.forall_mem_cons.mpr ⟨hVisit, hOnce.isOpen_before⟩, hStep.trans hOnce.staysOpen,
                hOnce.eq_closed, hOnce.isIdle_after⟩

/-- Where the session itself comes to an end, its connection is closed behind it. -/
theorem serveOn_of_some {tests : Tests R} {s s' : Surroundings ξ}
    {outcome : Except SessionError SessionResult}
    (hRun : runOn tests world s = (some outcome, s')) :
    (serveOn tests world s).1 = some outcome ∧
      (serveOn tests world s).2.connection = s'.connection.close.2 := by
  rw [runOn, play_eq_run] at hRun
  rw [serveOn, play_eq_run, run_serve _ _ _ _ hRun]
  generalize hNote : s'.note (outcomeEntry s.connection.peer s.connection.transport outcome) = t
  have hClose : t.close.1 ≠ none := t.close_ne_none
  have hConnection : t.close.2.connection = s'.connection.close.2 := by
    rw [Surroundings.connection_close, ← hNote]
    rfl
  simp only [Host.onStage, hNote]
  generalize t.close = x at hClose hConnection
  obtain ⟨r, t'⟩ := x
  rcases r with _ | e | closing
  · exact absurd rfl hClose
  · exact ⟨rfl, hConnection⟩
  · exact ⟨rfl, hConnection⟩

/-- Where the session itself waits for ever, it is never closed. -/
theorem serveOn_of_none {tests : Tests R} {s s' : Surroundings ξ}
    (hRun : runOn tests world s = (none, s')) : serveOn tests world s = (none, s') := by
  rw [runOn, play_eq_run] at hRun
  rw [serveOn, play_eq_run, serve, Program.run_bind, hRun]

/-- A session closes its connection once. What it comes to is what it comes to without closing, even
if the close fails. When it has come to an end the connection is closed, and of all that the session
and its tests have asked, one visit has closed it: before that visit nobody has closed it, and
behind it every request is answered without the channel, further closes included. On a raw
connection that visit has shut the stream down, which nothing else has; on a WebSocket it has
started to close the link. A link that was active then has put out one close frame, behind which
comes at most the answer that it held back, and waits for the close of the peer; any other link is
as it was. In all cases the channel is left as it was then. -/
theorem serve_closes_once (tests : Tests R) (world : Answering X R ξ) {s : Surroundings ξ}
    (hOpen : s.connection.isClosed = false) :
    (serveOn tests world s).1 = (runOn tests world s).1 ∧
      ∀ outcome, (serveOn tests world s).1 = some outcome →
        let script := serve (fun t => (tests.get t).name) s.connection.peer s.connection.transport
        let final := (serveOn tests world s).2.connection
        final.isClosed = true ∧
          ∃ before t after,
            (staged tests script).visits (answer world) s = before ++ (.call .close, t) :: after ∧
            ClosesOnce world s.connection before t after final ∧
            (∀ p, t.connection.channel = .raw p →
              final.channel = .raw { p with
                inner := { p.inner with shutdowns := s.connection.stream.shutdowns + 1 } }) ∧
            ∀ l, t.connection.channel = .webSocket l → ∃ l',
              final.channel = .webSocket l' ∧ l' = (WebSocket.Link.close l).2 ∧
              (l.phase = .active → l'.phase = .closedByUs ∧
                ∃ answer, (answer = [] ∨ answer = l.owed) ∧
                  l'.produced = l.produced ++ WebSocket.Frame.render .close [] ++ answer) ∧
              (l.phase ≠ .active → l' = l) := by
  rcases hRun : runOn tests world s with ⟨_ | result, s'⟩
  · have hWaits := serveOn_of_none world hRun
    refine ⟨congrArg Prod.fst hWaits, fun outcome hServe => ?_⟩
    rw [hWaits] at hServe
    cases hServe
  obtain ⟨hSame, hConnection⟩ := serveOn_of_some world hRun
  refine ⟨hSame, fun outcome _ => ?_⟩
  intro script final
  have hClosed : final.isClosed = true :=
    (congrArg Connection.isClosed hConnection).trans s'.connection.isClosed_close
  refine ⟨hClosed, ?_⟩
  rcases open_or_closesOnce world (staged tests script) hOpen with
    ⟨-, hStays⟩ | ⟨before, t, after, hVisits, hOnce⟩
  · exact absurd (hStays.isOpen.symm.trans hClosed) Bool.false_ne_true
  refine ⟨before, t, after, hVisits, hOnce, fun p hRaw => ?_, fun l hLink => ?_⟩
  · have hTransport : s.connection.transport = .raw := by
      rw [← hOnce.staysOpen.transport, Connection.transport, hRaw]
      rfl
    have hShutdowns : p.inner.shutdowns = s.connection.stream.shutdowns := by
      rw [← hOnce.staysOpen.shutdowns hTransport, Connection.stream, hRaw]
      rfl
    have hFinal : final = t.connection.closed := hOnce.eq_closed
    rw [hFinal, Connection.closed, hRaw, Channel.close_raw, hShutdowns]
  · have hFinal : final = t.connection.closed := hOnce.eq_closed
    refine ⟨(WebSocket.Link.close l).2, ?_, rfl, WebSocket.Link.close_of_active,
      WebSocket.Link.close_of_not_active⟩
    rw [hFinal, Connection.closed, hLink, Channel.close_webSocket]

/-- A client that says nothing, on a connection that cannot be shut down. -/
theorem serve_closes_once_of_failing_shutdown :
    let tests : Tests fun _ : Empty => Unit :=
      ⟨⟨"upload", .done (.ok .zero)⟩, ⟨"download", .done (.ok .zero)⟩⟩
    let world : Answering Empty (fun _ => Unit) Unit := fun x _ => x.elim
    let stream : Stream :=
      { Stream.ofArrivals [] .finished with shutdownFault := fun _ => some .nothingWritten }
    let s : Surroundings Unit := ⟨.ofPeekStream (.ofStream stream) none, [], [], ()⟩
    let final := (serveOn tests world s).2.connection
    (serveOn tests world s).1 = some (.error (.protocol (.io .earlyEnd))) ∧
      final.isClosed = true ∧
      ∃ before t after, ClosesOnce world s.connection before t after final := by
  intro tests world stream s final
  have hDelivers : (PeekStream.ofStream stream).Delivers [] stream :=
    .ofStream .nil rfl
  obtain ⟨p, hFrame, -⟩ := Frame.readFrom_eq_ofFront hDelivers ⟨rfl, rfl⟩
  have hRead : (Host.onStage tests world).read s = (some (.error (.io .earlyEnd)),
      { s with connection := ⟨.raw p, none, false⟩ }) := by
    simp only [Host.onStage, s, Surroundings.onConnection, Connection.ofPeekStream,
      Connection.read, Connection.onOpen, Channel.read, hFrame, Bool.false_eq_true, if_false]
    rfl
  have hRun := (run_of_refuses (Host.onStage tests world) (fun t => (tests.get t).name) hRead
    (.frame (.io .earlyEnd))).1
  obtain ⟨hSame, hOutcome⟩ := serve_closes_once tests world (s := s) rfl
  rw [runOn, play_eq_run, hRun] at hSame
  obtain ⟨hClosed, before, t, after, -, hOnce, -⟩ := hOutcome _ hSame
  exact ⟨hSame, hClosed, before, t, after, hOnce⟩

end Session

end SpeedTest
