import SpeedTest.Proofs.Route.Greeting
import SpeedTest.Proofs.Route.Sniffing
import SpeedTest.Proofs.Session.Login
import SpeedTest.Proofs.Wire.Message

/-! What becomes of clients that are not welcome. The session reads one frame, says nothing, and
leaves everything else alone. On the raw stream such a client has seen the greeting before, and then
sees its connection shut. -/

namespace SpeedTest

open Program (Answering)

namespace Session

/-- A session sends just if its first frame is a welcome login. -/
theorem sends_iff_admits {σ : Type} (host : Host σ) (name : Test → String) (s : σ) :
    (∃ kind text a, ⟨.send kind text, a⟩ ∈ (run name).transcript host.answering s) ↔
      ∃ reply m bits, (host.read s).1 = some reply ∧ Admits reply m bits := by
  generalize hRead : host.read s = x
  obtain ⟨answer, s'⟩ := x
  cases answer with
  | none => simp [run, Program.transcript, Host.answering, hRead]
  | some reply =>
      constructor
      · rintro ⟨kind, text, a, hSend⟩
        rcases admits_or_refuses reply with ⟨m, bits, hAdmits⟩ | ⟨e, hRefuses⟩
        · exact ⟨reply, m, bits, rfl, hAdmits⟩
        · rw [(run_of_refuses host name hRead hRefuses).2, List.mem_singleton] at hSend
          cases hSend
      · rintro ⟨_, m, bits, hReply, hAdmits⟩
        cases hReply
        obtain ⟨a, hSend⟩ := sends_of_admits host name hRead hAdmits
        exact ⟨.serverQueue, "0", a, hSend⟩

variable {X : Type} {R : X → Type} {ξ : Type}

/-- On a raw stream a refused session has taken its first frame and nothing behind it. -/
theorem delivers_of_refuses (tests : Tests R) (world : Answering X R ξ) {p : PeekStream}
    {peer : Option SocketAddress} {log : List Log.Entry} {observed : List (String × Binary64)}
    {outside : ξ} {f : Frame} {bytes w : Bytes} {rest : Stream} {e : SessionError}
    (hEncode : f.encode = .ok bytes) (h : p.Delivers (bytes ++ w) rest)
    (hRefuses : Refuses (.ok f) e) :
    ∃ p', runOn tests world ⟨.ofPeekStream p peer, log, observed, outside⟩ =
        (some (.error e), ⟨.ofPeekStream p' peer, log, observed, outside⟩) ∧
      p'.Delivers w rest := by
  obtain ⟨p', hRead, hDelivers⟩ := Frame.readFrom_encode hEncode h
  refine ⟨p', ?_, hDelivers⟩
  rw [runOn, play_eq_run]
  refine (run_of_refuses (Host.onStage tests world) _ ?_ hRefuses).1
  simp only [Host.onStage, Surroundings.onConnection, Connection.read, Connection.onOpen,
    Connection.ofPeekStream, Channel.read, hRead, Bool.false_eq_true, if_false]
  rfl

/-- A session on a raw stream that is refused shuts the stream down once, and its surroundings
notice nothing else. -/
theorem serveOn_of_refuses (tests : Tests R) (world : Answering X R ξ)
    (peer : Option SocketAddress) (log : List Log.Entry) (observed : List (String × Binary64))
    (outside : ξ) {p : PeekStream} {reply : Except ProtocolError Frame} {e : SessionError}
    (hReply : (Frame.readFrom PeekStream.read p).1.toExcept? = some reply)
    (hRefuses : Refuses reply e) :
    ∃ q log', serveOn tests world ⟨.ofPeekStream p peer, log, observed, outside⟩ =
        (some (.error e), ⟨⟨.raw q, peer, true⟩, log', observed, outside⟩) ∧
      q.inner = { p.inner with
        arrivals := q.inner.arrivals
        shutdowns := p.inner.shutdowns + 1 } := by
  have hRead : (Host.onStage tests world).read ⟨.ofPeekStream p peer, log, observed, outside⟩ =
      (some reply,
        ⟨.ofPeekStream (Frame.readFrom PeekStream.read p).2 peer, log, observed, outside⟩) := by
    rw [← hReply]
    rfl
  have hInner := Inward.readFrom.inner_eq p
  rw [serveOn, play_eq_run, run_serve _ _ _ _ (run_of_refuses _ _ hRead hRefuses).1]
  generalize (Frame.readFrom PeekStream.read p).2 = q at hInner
  simp only [Host.onStage, Surroundings.close, Surroundings.onConnection, Surroundings.note,
    Connection.close, Connection.ofPeekStream, Channel.close, Bool.false_eq_true, if_false]
  rcases q.shutdown_cases with hShut | ⟨cause, hShut⟩
  all_goals
    rw [hShut]
    refine ⟨_, _, rfl, ?_⟩
    rw [hInner]

end Session

namespace Route

open Session

variable {X : Type} {R : X → Type} {ξ : Type}

/-- A client that is greeted and then refused has received the greeting and one shutdown. -/
theorem converse_of_refuses (tests : Tests R) (world : Answering X R ξ) (peer : SocketAddress)
    {p : PeekStream} (outside : ξ) {reply : Except ProtocolError Frame} {e : SessionError}
    (hAccepting : p.inner.Accepting)
    (hReply : (Frame.readFrom PeekStream.read p).1.toExcept? = some reply)
    (hRefuses : Refuses reply e) :
    let handled := converse tests world peer p outside
    handled.disposal = .session (some (.error e)) ∧
      handled.client.written = p.inner.written ++ kickoff ∧
      handled.client.shutdowns = p.inner.shutdowns + 1 ∧
      handled.observed = [] ∧ handled.outside = outside := by
  obtain ⟨writes, sent, hGreet, hSent⟩ := greet_of_accepting hAccepting
  -- The greeting changes nothing that the reply depends on.
  have hReply' := Inward.readFrom p { p.inner with
    writes := writes
    sent := sent
    flushes := p.inner.flushes + 1 } rfl rfl
  rw [← hGreet] at hReply'
  rw [← congrArg Prod.fst hReply'] at hReply
  obtain ⟨q, log, hServe, hInner⟩ := serveOn_of_refuses tests world (some peer)
    (greetingLog peer (greet p).1) [] outside hReply hRefuses
  rw [hGreet] at hInner
  rw [converse_eq, greeted, hServe]
  refine ⟨rfl, ?_, ?_, rfl, rfl⟩
  · show q.inner.written = p.inner.written ++ kickoff
    rw [hInner]
    exact hSent
  · show q.inner.shutdowns = p.inner.shutdowns + 1
    rw [hInner]

/-- The same for a client whose stream was looked at first. -/
theorem handle_of_refuses (tests : Tests R) (world : Answering X R ξ) (uplink : Uplink)
    (peer : SocketAddress) {stream : Stream} (outside : ξ) {p : PeekStream}
    {reply : Except ProtocolError Frame} {e : SessionError} (hAccepting : stream.Accepting)
    (hSniff : sniff (.ofStream stream) = (.done .legacy, p))
    (hReply : (Frame.readFrom PeekStream.read p).1.toExcept? = some reply)
    (hRefuses : Refuses reply e) :
    let handled := handle tests world uplink peer stream outside
    handled.disposal = .session (some (.error e)) ∧
      handled.client.written = stream.written ++ kickoff ∧
      handled.client.shutdowns = stream.shutdowns + 1 ∧
      handled.observed = [] ∧ handled.outside = outside := by
  have hInner := inward_sniff.inner_eq (.ofStream stream)
  rw [hSniff] at hInner
  have hAccepting' : p.inner.Accepting := by
    rw [hInner]
    exact ⟨hAccepting.room, hAccepting.grant⟩
  have hWritten : p.inner.written = stream.written := by rw [hInner]; rfl
  have hShutdowns : p.inner.shutdowns = stream.shutdowns := by rw [hInner]; rfl
  have hConverse := converse_of_refuses tests world peer outside hAccepting' hReply hRefuses
  rw [hWritten, hShutdowns] at hConverse
  rw [handle, hSniff]
  exact hConverse

/-- A client is refused in silence. Whoever the host is, a session attempts to send just if its
first frame is a welcome login. Any other first reply is the last thing that happens: the session
ends with the first check that fails, has asked its host for that reply and for nothing else, and
leaves the host where the reply left it. A frame on the raw stream is taken without a byte of what
follows.

On the raw route, over a stream that accepts all writes, a refused client has received the greeting
and one shutdown. How the stream arrives does not matter, nor whether it can be flushed or shut
down. -/
theorem refusal_is_silent {σ : Type} (host : Host σ) (name : Test → String) (s : σ)
    (tests : Tests R) (world : Answering X R ξ) (uplink : Uplink) (peer : SocketAddress)
    (stream : Stream) (outside : ξ) :
    let transcript := (run name).transcript host.answering s
    ((∃ kind text a, ⟨.send kind text, a⟩ ∈ transcript) ↔
      ∃ reply m bits, (host.read s).1 = some reply ∧ Admits reply m bits) ∧
    (∀ reply, (host.read s).1 = some reply → (¬ ∃ m bits, Admits reply m bits) →
      ∃ e, Refuses reply e ∧ transcript = [⟨.read, some reply⟩] ∧
        (run name).run host.answering s = (some (.error e), (host.read s).2)) ∧
    ((host.read s).1 = none →
      transcript = [⟨.read, none⟩] ∧
        (run name).run host.answering s = (none, (host.read s).2)) ∧
    (∀ (f : Frame) (e : SessionError) (bytes w : Bytes) (rest : Stream) (p : PeekStream),
      f.encode = .ok bytes → p.Delivers (bytes ++ w) rest → Refuses (.ok f) e →
        ∃ p', runOn tests world ⟨.ofPeekStream p (some peer), [], [], outside⟩ =
            (some (.error e), ⟨.ofPeekStream p' (some peer), [], [], outside⟩) ∧
          p'.Delivers w rest) ∧
    (∀ p reply, stream.Accepting → sniff (.ofStream stream) = (.done .legacy, p) →
      (Frame.readFrom PeekStream.read p).1.toExcept? = some reply →
      (¬ ∃ m bits, Admits reply m bits) →
        let handled := handle tests world uplink peer stream outside
        ∃ e, Refuses reply e ∧ handled.disposal = .session (some (.error e)) ∧
          handled.client.written = stream.written ++ kickoff ∧
          handled.client.shutdowns = stream.shutdowns + 1 ∧
          handled.observed = [] ∧ handled.outside = outside) := by
  intro transcript
  refine ⟨sends_iff_admits host name s, ?_, ?_, ?_, ?_⟩
  · intro reply hReply hNot
    obtain ⟨e, hRefuses⟩ := (admits_or_refuses reply).resolve_left hNot
    have hRead : host.read s = (some reply, (host.read s).2) := by rw [← hReply]
    obtain ⟨hRun, hTranscript⟩ := run_of_refuses host name hRead hRefuses
    exact ⟨e, hRefuses, hTranscript, hRun⟩
  · intro hNone
    generalize hRead : host.read s = x at hNone ⊢
    obtain ⟨answer, s'⟩ := x
    cases hNone
    simp [transcript, run, Program.run, Program.transcript, Host.answering, hRead]
  · intro f e bytes w rest p hEncode hDelivers hRefuses
    exact delivers_of_refuses tests world hEncode hDelivers hRefuses
  · intro p reply hAccepting hSniff hReply hNot
    obtain ⟨e, hRefuses⟩ := (admits_or_refuses reply).resolve_left hNot
    exact ⟨e, hRefuses,
      handle_of_refuses tests world uplink peer outside hAccepting hSniff hReply hRefuses⟩

/-- A login without the status capability, in two pieces, on a stream that takes five bytes at a
time. -/
theorem refusal_is_silent_without_status :
    let login : Frame := .ofMessage .extendedLogin ⟨"v", some "6"⟩
    let stream : Stream := { Stream.ofArrivals
      [.chunk [0x0B, 0x00], .chunk (0x17 :: login.body)] .finished with grant := fun _ => some 5 }
    let test : SubTest (X := Empty) (fun _ => Unit) :=
      ⟨"none", .done (.error (.ofMessage "no data connection"))⟩
    let handled := handle ⟨test, test⟩ (fun x (_ : Unit) => nomatch x)
      ⟨"localhost:3010", .error (.system .connectionRefused)⟩ ⟨.loopbackV4, 49152⟩ stream ()
    stream.Accepting ∧ handled.disposal = .session (some (.error (.rejected 6))) ∧
      handled.client.written = Bytes.ofAscii "123456 654321" ∧ handled.client.shutdowns = 1 := by
  intro login stream test handled
  have hAccepting : stream.Accepting := ⟨rfl, fun n => by simp [stream]⟩
  have hLength : login.body.length = 23 := by decide
  have hEncode : login.encode = .ok ([0x0B, 0x00, 0x17] ++ login.body) := by
    rw [Frame.encode, hLength]
    rfl
  have hSmooth : Arrival.Smooth stream.arrivals := Arrival.Smooth.nil.cons.cons
  have hDelivers : (PeekStream.ofStream stream).Delivers ([0x0B, 0x00, 0x17] ++ login.body ++ [])
      { stream with arrivals := [] } := .ofStream hSmooth (by simp)
  obtain ⟨p, hSniff, hp⟩ := sniff_of_delivers hDelivers ⟨rfl, rfl⟩
  rw [if_neg (not_httpLead_of_encode hEncode [])] at hSniff
  obtain ⟨p', hRead, -⟩ := Frame.readFrom_encode hEncode hp
  have hReply : (Frame.readFrom PeekStream.read p).1.toExcept? = some (.ok login) := by
    rw [hRead]
    rfl
  have hNumber : readInt64 "6".toList = .ok (6 : Int64).toInt := by rfl
  have hRefuses : Refuses (.ok login) (.rejected 6) :=
    .status (Message.read_render ⟨"v", some "6"⟩) hNumber (by decide)
  let world : Answering Empty (fun _ => Unit) Unit := fun x _ => nomatch x
  obtain ⟨-, -, -, -, hRoute⟩ := refusal_is_silent (Host.onStage ⟨test, test⟩ world) Test.name
    ⟨.ofPeekStream (.ofStream stream) none, [], [], ()⟩ ⟨test, test⟩ world
    ⟨"localhost:3010", .error (.system .connectionRefused)⟩ ⟨.loopbackV4, 49152⟩ stream ()
  obtain ⟨e, hReason, hDisposal, hWritten, hShutdowns, -⟩ :=
    hRoute p _ hAccepting hSniff hReply (not_admits_of_refuses hRefuses)
  obtain rfl := hReason.unique hRefuses
  exact ⟨hAccepting, hDisposal, hWritten, hShutdowns⟩

end Route

end SpeedTest
