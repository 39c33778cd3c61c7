import SpeedTest.Proofs.Route.Greeting
import SpeedTest.Proofs.Route.Sniffing
import SpeedTest.Proofs.Splice.Agreement
import SpeedTest.Proofs.Splice.Fidelity

/-! What becomes of a connection is decided by its bytes. The first three of them choose the route,
none of them is lost by looking at them, and the pieces in which they arrive make no difference to
anybody. -/

namespace SpeedTest

open Relation (ReflTransGen)
open Program (Answering)

namespace Route

open Session

/-- The same has become of two connections. -/
inductive Disposal.Agree : Disposal → Disposal → Prop
  | proxied {s t : Splice.State} (h : s.Agree t) : Agree (.proxied s) (.proxied t)
  | session (result : Option (Except SessionError SessionResult)) :
      Agree (.session result) (.session result)
  | abandoned : Agree .abandoned .abandoned
  | waiting : Agree .waiting .waiting

/-- Two connections have been dealt with in the same way: nobody notices a difference. -/
structure Handled.Agree {ξ : Type} (h h' : Handled ξ) : Prop where
  disposal : h.disposal.Agree h'.disposal
  client : h.client.SameOutput h'.client
  log : h'.log = h.log
  observed : h'.observed = h.observed
  outside : h'.outside = h.outside

/-- Only a session agrees with a session, and only one with the same result. -/
theorem Disposal.Agree.session_eq {d : Disposal}
    {result : Option (Except SessionError SessionResult)} (h : d.Agree (.session result)) :
    d = .session result := by
  cases h
  rfl

theorem ofSession_agree {ξ : Type}
    {x y : Option (Except SessionError SessionResult) × Surroundings ξ} (hResult : x.1 = y.1)
    (hNext : Surroundings.Same x.2 y.2) : (Handled.ofSession x).Agree (.ofSession y) := by
  obtain ⟨result, s⟩ := x
  obtain ⟨result', t⟩ := y
  cases hResult
  obtain ⟨hConnection, log, observed, outside⟩ := hNext
  exact ⟨.session result, hConnection.sameOutput, rfl, rfl, rfl⟩

section Delivers

variable {p q : PeekStream} {w : Bytes} {rest : Stream}

variable {X : Type} {R : X → Type} {ξ : Type} (tests : Tests R) (world : Answering X R ξ)
  (peer : SocketAddress) (outside : ξ)

/-- A session and its tests cannot tell two streams that deliver the same bytes from each other. -/
theorem converse_agree (hp : p.Delivers w rest) (hq : q.Delivers w rest) (hEnd : rest.AtEnd) :
    (converse tests world peer p outside).Agree (converse tests world peer q outside) ∧
      exchanges tests world peer p outside = exchanges tests world peer q outside := by
  have hSame := greeted_same hp hq hEnd peer outside
  have hAlike := alike_of_same world
  obtain ⟨hResult, hNext⟩ := hAlike.run (sessionWith tests peer) hSame
  rw [converse_eq, converse_eq, serveOn_greeted, serveOn_greeted]
  exact ⟨ofSession_agree hResult hNext, hAlike.transcript _ hSame⟩

/-- Nor can the party at the other end of a splice. -/
theorem forward_agree {uplink : Uplink}
    (hDial : ∀ target, uplink.dial = .ok target → ∀ n, target.grant n ≠ some 0)
    (hp : p.Delivers w rest) (hq : q.Delivers w rest) (hEnd : rest.AtEnd) :
    (forward uplink peer p outside).Agree (forward uplink peer q outside) := by
  unfold forward
  cases hTarget : uplink.dial with
  | error e => exact ⟨.abandoned, hp.sameOutput hq, rfl, rfl, rfl⟩
  | ok target =>
      have hAgree := Splice.agree_of_resting ⟨rest, hEnd, hp⟩ ⟨rest, hEnd, hq⟩ (hp.sameOutput hq)
        (hDial target hTarget) (Splice.reaches_run _) (Splice.resting_run _)
        (Splice.reaches_run _) (Splice.resting_run _)
      have hLog := congrArg Splice.Books.log hAgree.books
      refine ⟨.proxied hAgree, hAgree.client, ?_, rfl, rfl⟩
      simp only [Splice.State.books] at hLog
      simp only [hLog]

/-- Forwarding observes nothing and runs no test. -/
theorem forward_leaves (uplink : Uplink) (p : PeekStream) :
    (forward uplink peer p outside).observed = [] ∧
      (forward uplink peer p outside).outside = outside := by
  rw [forward]
  cases uplink.dial <;> exact ⟨rfl, rfl⟩

end Delivers

section Bytes

variable {X : Type} {R : X → Type} {ξ : Type} (tests : Tests R) (world : Answering X R ξ)
  (uplink : Uplink) (peer : SocketAddress) (outside : ξ)

/-- A stream on which no read fails, up to where its peer has finished. -/
theorem delivers_payload {s : Stream} (hSmooth : Arrival.Smooth s.arrivals) :
    (PeekStream.ofStream s).Delivers (Arrival.payload s.arrivals) { s with arrivals := [] } :=
  .ofStream hSmooth (by simp)

/-- The pieces in which a connection's bytes arrive make no difference. -/
theorem handle_agree (hDial : ∀ target, uplink.dial = .ok target → ∀ n, target.grant n ≠ some 0)
    {s t : Stream} {w : Bytes} {rest : Stream} (hEnd : rest.AtEnd)
    (hs : (PeekStream.ofStream s).Delivers w rest) (ht : (PeekStream.ofStream t).Delivers w rest) :
    (handle tests world uplink peer s outside).Agree
      (handle tests world uplink peer t outside) := by
  obtain ⟨p, hSniffP, hp⟩ := sniff_of_delivers hs hEnd
  obtain ⟨q, hSniffQ, hq⟩ := sniff_of_delivers ht hEnd
  rw [handle_of_sniff _ _ _ _ _ hSniffP, handle_of_sniff _ _ _ _ _ hSniffQ]
  by_cases hLead : httpLead <+: w
  · simp only [if_pos hLead]
    exact forward_agree peer outside hDial hp hq hEnd
  · simp only [if_neg hLead]
    exact (converse_agree tests world peer outside hp hq hEnd).1

/-- At any time each party of a splice has received a front part of what the other one sends, from
the first byte on. When nothing moves any more, in whatever order that has come about, the target
has received everything that it has room for, and the splice is the one that was run. -/
theorem splice_of_delivers {p : PeekStream} {w : Bytes} {rest target : Stream}
    (hp : p.Delivers w rest) (hEnd : rest.AtEnd) (hGrant : ∀ n, target.grant n ≠ some 0)
    {t : Splice.State} (ht : ReflTransGen Splice.State.Step (Splice.start p target) t) :
    (∃ up, up <+: w ∧ t.target.written = target.written ++ up) ∧
      (∃ down, down <+: target.ahead ∧ t.client.inner.written = rest.written ++ down) ∧
      (t.Resting →
        (Splice.run (Splice.start p target)).Agree t ∧
        t.target.written = target.written ++
          match target.room with
          | none => w
          | some r => w.take r) := by
  have hBrings : p.Brings w := ⟨rest, hEnd, hp⟩
  obtain ⟨⟨up, hUp, hUpWritten⟩, down, hDown, hDownWritten⟩ := Splice.written_of_reaches ht
  have hWritten : p.inner.written = rest.written := by
    obtain ⟨front, -, -, hInner⟩ := hp
    rw [hInner]
    rfl
  refine ⟨⟨up, hBrings.ahead_eq ▸ hUp, hUpWritten⟩, ⟨down, hDown, hWritten ▸ hDownWritten⟩,
    fun hRest => ⟨?_, ?_⟩⟩
  · exact Splice.agree_of_resting hBrings hBrings ⟨_, rfl⟩ hGrant (Splice.reaches_run _)
      (Splice.resting_run _) ht hRest
  · obtain ⟨-, -, -, hOutcome⟩ := Splice.State.up_of_resting hBrings hGrant ht hRest
    have hEndWritten := congrArg Copy.End.written hOutcome
    rw [Copy.written_endOf] at hEndWritten
    exact hEndWritten.symm

/-- What becomes of a connection is decided by its bytes `w`, whatever the pieces in which they
arrive. The first three choose the route: that of HTTP if they are `GET`, and the raw one for
everything else, for fewer bytes and for every frame.

On the HTTP route nobody but the target writes to the client and no session is run. The target, if
it can be dialled, receives the client's bytes from the first one on, in every order of the steps of
the splice, and in the end all that it has room for.

On the raw route the client receives the greeting before anything else, and behind it nothing but
the frames of its session, which is run in any case. A stream that has room for the greeting and
grants every write something, takes all of it, whether or not it can be flushed then; any other
stream takes a front part. The session and its tests ask for the same and get the same answers as if
nobody had looked at the stream.

A read that fails before three bytes have arrived is the end of the connection. The dialled target
is a socket, which never takes no bytes at all of a write that has some; nothing else is assumed of
it, and nothing at all of the client's end. -/
theorem handle_depends_on_bytes
    (hDial : ∀ target, uplink.dial = .ok target → ∀ n, target.grant n ≠ some 0)
    (s : Stream) (hSmooth : Arrival.Smooth s.arrivals) (hEnding : s.ending = .finished) :
    let w := Arrival.payload s.arrivals
    let sniffed := (sniff (.ofStream s)).2
    let handled := handle tests world uplink peer s outside
    (sniff (.ofStream s)).1 = .done (if httpLead <+: w then .http else .legacy) ∧
    (w.length < 3 → ¬ httpLead <+: w) ∧
    (∀ (f : Frame) (bytes behind : Bytes), f.encode = .ok bytes → w = bytes ++ behind →
      ¬ httpLead <+: w) ∧
    (httpLead <+: w →
      handled.observed = [] ∧ handled.outside = outside ∧
      (∀ e, uplink.dial = .error e →
        handled.disposal = .abandoned ∧ handled.client.written = s.written) ∧
      (∀ target, uplink.dial = .ok target →
        let joined := Splice.start sniffed target
        handled.disposal = .proxied (Splice.run joined) ∧
        handled.client = (Splice.run joined).client.inner ∧
        ReflTransGen Splice.State.Step joined (Splice.run joined) ∧ (Splice.run joined).Resting ∧
        ∀ t, ReflTransGen Splice.State.Step joined t →
          (∃ up, up <+: w ∧ t.target.written = target.written ++ up) ∧
          (∃ down, down <+: target.ahead ∧ t.client.inner.written = s.written ++ down) ∧
          (t.Resting →
            (Splice.run joined).Agree t ∧
            t.target.written = target.written ++
              match target.room with
              | none => w
              | some r => w.take r))) ∧
    (¬ httpLead <+: w →
      handled.Agree (converse tests world peer (.ofStream s) outside) ∧
      handled.disposal =
        .session (serveOn tests world (greeted peer (.ofStream s) outside)).1 ∧
      exchanges tests world peer sniffed outside =
        exchanges tests world peer (.ofStream s) outside ∧
      ∃ greeting bytes, greeting <+: kickoff ∧
        ((greet (.ofStream s)).1 = .done () → greeting = kickoff) ∧
        ((∀ n, s.grant n ≠ some 0) → (∀ r, s.room = some r → kickoff.length ≤ r) →
          greeting = kickoff) ∧
        Emits (exchanges tests world peer (.ofStream s) outside) bytes ∧
        handled.client.written = s.written ++ greeting ++ bytes) ∧
    (∀ arrivals, Arrival.Smooth arrivals → Arrival.payload arrivals = w →
      let other : Stream := { s with arrivals := arrivals }
      handled.Agree (handle tests world uplink peer other outside) ∧
      exchanges tests world peer sniffed outside =
        exchanges tests world peer (sniff (.ofStream other)).2 outside) ∧
    (∀ (broken : Stream) (front behind : List Arrival) (e : IoError),
      broken.arrivals = front ++ .failure e :: behind → Arrival.Smooth front →
      (Arrival.payload front).length < 3 →
      let given := handle tests world uplink peer broken outside
      given.disposal = .abandoned ∧ broken.SameOutput given.client ∧
        given.observed = [] ∧ given.outside = outside) := by
  intro w sniffed handled
  have hEnd : Stream.AtEnd { s with arrivals := [] } := ⟨rfl, hEnding⟩
  have hDelivers := delivers_payload hSmooth
  obtain ⟨p, hSniff, hp⟩ := sniff_of_delivers hDelivers hEnd
  have hSniffed : sniffed = p := congrArg Prod.snd hSniff
  have hHandle : handled = if httpLead <+: w then forward uplink peer p outside
      else converse tests world peer p outside := handle_of_sniff _ _ _ _ _ hSniff
  rw [hSniffed]
  refine ⟨by rw [hSniff], ?_, ?_, ?_, ?_, ?_, ?_⟩
  · intro hShort hLead
    have hLe := three_le_of_httpLead hLead
    omega
  · intro f bytes behind hEncode hSplit
    rw [hSplit]
    exact not_httpLead_of_encode hEncode behind
  · intro hLead
    rw [if_pos hLead] at hHandle
    rw [hHandle]
    obtain ⟨hObserved, hOutside⟩ := forward_leaves peer outside uplink p
    refine ⟨hObserved, hOutside, ?_, ?_⟩
    · intro e hError
      rw [forward, hError]
      exact ⟨rfl, (hp.sameOutput hDelivers).written_eq.symm⟩
    · intro target hTarget joined
      rw [forward, hTarget]
      refine ⟨rfl, rfl, Splice.reaches_run _, Splice.resting_run _, ?_⟩
      intro t ht
      exact splice_of_delivers hp hEnd (hDial target hTarget) ht
  · intro hLead
    -- The stream that was looked at and the one that was not deliver the same bytes.
    rw [if_neg hLead] at hHandle
    obtain ⟨hAgree, hExchanges⟩ := converse_agree tests world peer outside hp hDelivers hEnd
    rw [← hHandle] at hAgree
    obtain ⟨greeting, bytes, hFront, hAll, hWhole, hEmits, hWritten⟩ :=
      written_converse tests world peer (.ofStream s) outside
    refine ⟨hAgree, hAgree.disposal.session_eq, hExchanges, greeting, bytes, hFront, hAll, hWhole,
      hEmits, ?_⟩
    rw [← hAgree.client.written_eq]
    exact hWritten
  · intro arrivals hSmooth' hPayload other
    have hOther : (PeekStream.ofStream other).Delivers w { s with arrivals := [] } :=
      hPayload ▸ delivers_payload (s := other) hSmooth'
    obtain ⟨q, hSniff', hq⟩ := sniff_of_delivers hOther hEnd
    rw [hSniff']
    exact ⟨handle_agree tests world uplink peer outside hDial hEnd hDelivers hOther,
      (converse_agree tests world peer outside hp hq hEnd).2⟩
  · intro broken front behind e hArrivals hFront hShort given
    have hGiven : given = _ :=
      handle_of_failure tests world uplink peer outside hArrivals hFront hShort
    rw [hGiven]
    exact ⟨rfl, ⟨behind, rfl⟩, rfl, rfl⟩

/-- A request that arrives in three pieces, one of them empty, for a target that takes three bytes
at a time, and a client that says nothing, whose stream takes five bytes at a time, has room for
twenty and cannot be flushed. -/
theorem handle_depends_on_bytes_of_request :
    let s : Stream := .ofArrivals
      [.chunk [0x47], .chunk [], .chunk (Bytes.ofAscii "ET /ndt_protocol")] .finished
    let target : Stream := { Stream.ofArrivals [.chunk [0x48]] .silent with
      grant := fun _ => some 3 }
    let test : SubTest (X := Empty) (fun _ => Unit) :=
      ⟨"none", .done (.error (.ofMessage "no data connection"))⟩
    let silent : Stream := { Stream.ofArrivals [] .finished with
      room := some 20
      grant := fun _ => some 5
      flushFault := fun _ => some .nothingWritten }
    let handled (client : Stream) := handle ⟨test, test⟩ (fun x (_ : Unit) => nomatch x)
      ⟨"localhost:3010", .ok target⟩ ⟨.loopbackV4, 49152⟩ client ()
    Arrival.Smooth s.arrivals ∧ (∀ n, target.grant n ≠ some 0) ∧
      (∃ t, (handled s).disposal = .proxied t ∧
        t.target.written = Bytes.ofAscii "GET /ndt_protocol" ∧ (handled s).observed = []) ∧
      Arrival.Smooth silent.arrivals ∧
      Bytes.ofAscii "123456 654321" <+: (handled silent).client.written := by
  intro s target test silent handled
  have hSmooth : Arrival.Smooth s.arrivals := by
    intro a ha e
    simp only [s, Stream.ofArrivals, List.mem_cons, List.not_mem_nil, or_false] at ha
    rcases ha with rfl | rfl | rfl <;> exact fun h => by cases h
  have hGrant : ∀ n, target.grant n ≠ some 0 := fun n => by simp [target]
  have hLead : httpLead <+: Arrival.payload s.arrivals :=
    ⟨Bytes.ofAscii " /ndt_protocol", by decide⟩
  have hAll (client : Stream) := handle_depends_on_bytes ⟨test, test⟩
    (fun x (_ : Unit) => nomatch x) ⟨"localhost:3010", .ok target⟩ ⟨.loopbackV4, 49152⟩ ()
    (fun _ hTarget => Except.ok.inj hTarget ▸ hGrant) client
  obtain ⟨-, -, -, hHttp, -⟩ := hAll s hSmooth rfl
  obtain ⟨hObserved, -, -, hForward⟩ := hHttp hLead
  obtain ⟨hDisposal, -, hReaches, hRest, hSteps⟩ := hForward target rfl
  obtain ⟨-, -, hFinal⟩ := hSteps _ hReaches
  have hNone : Arrival.Smooth silent.arrivals := .nil
  obtain ⟨-, hShort, -, -, hLegacy, -⟩ := hAll silent hNone rfl
  obtain ⟨-, -, -, greeting, bytes, -, -, hWhole, -, hWritten⟩ := hLegacy (hShort (by decide))
  have hGreeting : greeting = kickoff :=
    hWhole (fun n => by simp [silent]) fun r hr => by cases hr; decide
  refine ⟨hSmooth, hGrant, ⟨_, hDisposal, (hFinal hRest).2, hObserved⟩, hNone, bytes, ?_⟩
  rw [hWritten, hGreeting]
  rfl

end Bytes

end Route

end SpeedTest
