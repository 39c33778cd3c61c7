import SpeedTest.Proofs.Session.Raw
import SpeedTest.Proofs.Session.Requests
import SpeedTest.Proofs.WebSocket.Delivery
import SpeedTest.Proofs.Wire.RoundTrip

/-! Sessions do not notice how their frames travel. A raw stream and a WebSocket that bring the same
frames answer a session and its tests alike, call by call, and the same frames go out on both. This
holds for tests that use the connection for nothing but frames: asked for its status, a connection
tells how its frames travel. -/

namespace SpeedTest

open Program (Answering)
open WebSocket (Link Spells Utters)

namespace Frame

/-- A frame whose body is not too long. -/
def IsEncodable (f : Frame) : Prop := f.body.length ≤ maxBodyLength

variable {f : Frame}

theorem IsEncodable.encode_eq (h : f.IsEncodable) : f.encode = .ok f.wire := by
  have hEncode : f.encode = .ok (header f.kind f.body.length ++ f.body) := if_pos h
  rw [wire, hEncode]

theorem encode_of_not (h : ¬ f.IsEncodable) : f.encode = .error (.frameTooLarge f.body.length) :=
  if_neg h

theorem IsEncodable.wire_eq (h : f.IsEncodable) :
    f.wire = f.kind.byte :: (Bytes.ofNat 2 f.body.length ++ f.body) :=
  (encode_eq_ok h.encode_eq).2

/-- The bytes of a frame are decoded as that frame. -/
theorem IsEncodable.decode_wire (h : f.IsEncodable) : decode f.wire = .ok f := by
  have hLength : Bytes.toNat (Bytes.ofNat 2 f.body.length) = f.body.length :=
    Bytes.toNat_ofNat_two h
  simp only [Bytes.ofNat] at hLength
  simp only [h.wire_eq, Bytes.ofNat, List.cons_append, List.nil_append, decode, Kind.ofByte?_byte,
    hLength, if_true]

/-- Every frame fits into one frame of a WebSocket. -/
theorem IsEncodable.length_wire_le (h : f.IsEncodable) :
    f.wire.length ≤ WebSocket.maxFrameSize := by
  have hLe : f.body.length ≤ 65535 := h
  simp only [h.wire_eq, Bytes.ofNat, List.length_append, List.length_cons, List.length_nil,
    WebSocket.maxFrameSize]
  omega

end Frame

/-- A raw stream that is going to bring the given frames, and that takes whatever is written. -/
def PeekStream.Offers (p : PeekStream) (frames : List Frame) : Prop :=
  ∃ trailing rest, p.Delivers (frames.flatMap Frame.wire ++ trailing) rest ∧ rest.TakesAll

namespace PeekStream.Offers

variable {p : PeekStream} {f : Frame} {frames : List Frame}

theorem readFrom (h : p.Offers (f :: frames)) (hFit : f.IsEncodable) :
    ∃ p', Frame.readFrom PeekStream.read p = (.done f, p') ∧ p'.Offers frames ∧
      p'.inner.written = p.inner.written := by
  obtain ⟨trailing, rest, hDelivers, hTakes⟩ := h
  have hSame := hDelivers.written_eq
  rw [List.flatMap_cons, List.append_assoc] at hDelivers
  obtain ⟨p', hFrame, hDelivers'⟩ := Frame.readFrom_encode hFit.encode_eq hDelivers
  exact ⟨p', hFrame, ⟨trailing, rest, hDelivers', hTakes⟩, hDelivers'.written_eq.trans hSame.symm⟩

theorem writeTo (h : p.Offers frames) (hFit : f.IsEncodable) :
    ∃ p', PeekStream.onInner f.writeTo p = (.done (), p') ∧ p'.Offers frames ∧
      p'.inner.written = p.inner.written ++ f.wire := by
  obtain ⟨trailing, rest, hDelivers, hTakes⟩ := h
  obtain ⟨hDone, hDelivers'⟩ := hDelivers.onInner (Outward.writeTo f)
  obtain ⟨writes, sent, hWrite, hSent⟩ :=
    Frame.writeTo_of_accepting hTakes.accepting hFit.encode_eq
  rw [hTakes.flushFault] at hWrite
  rw [hWrite] at hDone hDelivers'
  have hTakes' : Stream.TakesAll { rest with
      writes := writes
      sent := sent
      flushes := rest.flushes + 1 } :=
    ⟨⟨hTakes.accepting.room, hTakes.accepting.grant⟩, hTakes.flushFault⟩
  refine ⟨_, Prod.ext hDone rfl, ⟨trailing, _, hDelivers', hTakes'⟩, ?_⟩
  rw [hDelivers.written_eq, ← hSent]
  exact hDelivers'.written_eq

end PeekStream.Offers

/-- Two connections that are going to bring the given frames, one on each transport, and on which
the frames `sent` have gone out behind what was there at the start. -/
inductive Connection.Twins (start start' : Bytes) (frames sent : List Frame) :
    Connection → Connection → Prop
  | intro {p : PeekStream} {l : Link} {bytes : Bytes} (peer peer' : Option SocketAddress)
      (hRaw : p.Offers frames) (hLink : l.Hears (frames.map Frame.wire))
      (hWritten : p.inner.written = start ++ sent.flatMap Frame.wire)
      (hProduced : l.produced = start' ++ bytes) (hUtters : Utters (sent.map Frame.wire) bytes) :
      Twins start start' frames sent ⟨.raw p, peer, false⟩ ⟨.webSocket l, peer', false⟩

namespace Connection.Twins

variable {start start' : Bytes} {frames sent : List Frame} {f : Frame} {c d : Connection}

/-- The next frame is read on both sides. -/
theorem read (h : Twins start start' (f :: frames) sent c d) (hFit : f.IsEncodable) :
    ∃ c' d', Connection.read c = (.done f, c') ∧ Connection.read d = (.done f, d') ∧
      Twins start start' frames sent c' d' := by
  obtain ⟨peer, peer', hRaw, hLink, hWritten, hProduced, hUtters⟩ := h
  obtain ⟨p', hFrame, hRaw', hSame⟩ := hRaw.readFrom hFit
  obtain ⟨l', bytes', hEvents, hLink', hProduced', hUtters'⟩ := frameOfEvents_of_hears hLink
  rw [hFit.decode_wire] at hEvents
  rw [hProduced, List.append_assoc] at hProduced'
  have hUttered := hUtters.append hUtters'
  rw [List.append_nil] at hUttered
  refine ⟨⟨.raw p', peer, false⟩, ⟨.webSocket l', peer', false⟩, ?_, ?_,
    .intro peer peer' hRaw' hLink' (hSame.trans hWritten) hProduced' hUttered⟩
  · simp only [Connection.read, onOpen, Channel.read, hFrame, Bool.false_eq_true, if_false]
  · simp only [Connection.read, onOpen, Channel.read, hEvents, Action.ofExcept, Action.pure,
      Bool.false_eq_true, if_false]

/-- A frame goes out on both sides, if it has an encoding. -/
theorem write (h : Twins start start' frames sent c d) (hFit : f.IsEncodable) :
    ∃ c' d', Connection.write f c = (.done (), c') ∧ Connection.write f d = (.done (), d') ∧
      Twins start start' frames (sent ++ [f]) c' d' := by
  cases h with
  | @intro p l bytes peer peer' hRaw hLink hWritten hProduced hUtters =>
      obtain ⟨p', hWrite, hRaw', hWritten'⟩ := hRaw.writeTo hFit
      rw [hWritten, List.append_assoc, ← List.flatMap_singleton Frame.wire f,
        ← List.flatMap_append] at hWritten'
      obtain ⟨l', bytes', hSend, hLink', hProduced', hUtters'⟩ := Link.send_of_hears hLink f.wire
      have hSendFrame : Channel.sendFrame f l = (.done (), l') := by
        rw [Channel.sendFrame, hFit.encode_eq]
        show (Link.send f.wire).mapError ProtocolError.webSocket l = _
        rw [Action.mapError, hSend]
      rw [hProduced, List.append_assoc] at hProduced'
      have hUttered := hUtters.append hUtters'
      rw [← List.map_singleton, ← List.map_append] at hUttered
      refine ⟨⟨.raw p', peer, false⟩, ⟨.webSocket l', peer', false⟩, ?_, ?_,
        .intro peer peer' hRaw' hLink' hWritten' hProduced' hUttered⟩
      · simp only [Connection.write, onOpen, Channel.write, hWrite, Bool.false_eq_true, if_false]
      · simp only [Connection.write, onOpen, Channel.write, hSendFrame, Bool.false_eq_true,
          if_false]

/-- A frame that is too long fails on both sides and leaves nothing behind. -/
theorem write_of_not (h : Twins start start' frames sent c d) (hLong : ¬ f.IsEncodable) :
    Connection.write f c = (.failed (.frameTooLarge f.body.length), c) ∧
      Connection.write f d = (.failed (.frameTooLarge f.body.length), d) := by
  have hEncode := Frame.encode_of_not hLong
  obtain ⟨peer, peer', hRaw, hLink, hWritten, hProduced, hUtters⟩ := h
  constructor
  · simp only [Connection.write, onOpen, Channel.write, PeekStream.onInner, Action.focus,
      Frame.writeTo, hEncode, Bool.false_eq_true, if_false]
    rfl
  · simp only [Connection.write, onOpen, Channel.write, Channel.sendFrame, hEncode,
      Bool.false_eq_true, if_false]
    rfl

end Connection.Twins

/-- A test that uses its connection for frames alone may read and write, and do what does not
concern the connection. -/
def SubTest.Call.IsMessaging {X : Type} : SubTest.Call X → Prop
  | .close | .status => False
  | _ => True

namespace Session

variable {X : Type} {R : X → Type} {ξ α : Type}

/-- Effects that use the connection for frames alone. -/
def Effect.IsMessaging : Effect X → Prop
  | .call c => c.IsMessaging
  | .observe _ _ => True

/-- Effects that read a frame. -/
def Effect.isRead : Effect X → Bool
  | .call .read | .call .readInTime => true
  | _ => false

/-- How many frames exchanges have read or tried to read. -/
def readCount (exchanges : List ((e : Effect X) × Option (Response R e))) : Nat :=
  exchanges.countP fun x => x.1.isRead

/-- The frames that have been read, in order. -/
def receivedFrames (exchanges : List ((e : Effect X) × Option (Response R e))) : List Frame :=
  exchanges.filterMap fun
    | ⟨.call .read, some (.ok f)⟩ => some f
    | ⟨.call .readInTime, some (some (.ok f))⟩ => some f
    | _ => none

/-- The frames that have been written, in order. -/
def sentFrames (exchanges : List ((e : Effect X) × Option (Response R e))) : List Frame :=
  exchanges.filterMap fun
    | ⟨.call (.write f), some (.ok ())⟩ => some f
    | _ => none

section Counting

variable (x : (e : Effect X) × Option (Response R e))
  (exchanges exchanges' : List ((e : Effect X) × Option (Response R e)))

theorem readCount_append :
    readCount (exchanges ++ exchanges') = readCount exchanges + readCount exchanges' :=
  List.countP_append

theorem readCount_cons : readCount (x :: exchanges) = readCount [x] + readCount exchanges :=
  readCount_append [x] exchanges

theorem receivedFrames_cons :
    receivedFrames (x :: exchanges) = receivedFrames [x] ++ receivedFrames exchanges :=
  List.filterMap_append (l := [x])

theorem sentFrames_cons : sentFrames (x :: exchanges) = sentFrames [x] ++ sentFrames exchanges :=
  List.filterMap_append (l := [x])

end Counting

variable {start start' : Bytes} {frames sent : List Frame}

/-- Surroundings that only differ in how the frames of the connection travel. -/
inductive Surroundings.Twins (start start' : Bytes) (frames sent : List Frame) :
    Surroundings ξ → Surroundings ξ → Prop
  | intro {c d : Connection} (h : Connection.Twins start start' frames sent c d)
      (log : List Log.Entry) (observed : List (String × Binary64)) (outside : ξ) :
      Twins start start' frames sent ⟨c, log, observed, outside⟩ ⟨d, log, observed, outside⟩

open Surroundings (Twins)

/-- What is asked of twins is answered alike, as long as there is a frame for every read: a read is
answered with the next frame. -/
theorem twins_answer (world : Answering X R ξ) {e : Effect X} (hMessaging : e.IsMessaging)
    {s t : Surroundings ξ} (h : Twins start start' frames sent s t)
    (hFit : ∀ f ∈ frames, f.IsEncodable) (hEnough : e.isRead = true → frames ≠ []) :
    (answer world e s).1 = (answer world e t).1 ∧
      receivedFrames [⟨e, (answer world e s).1⟩] =
        frames.take (readCount [⟨e, (answer world e s).1⟩]) ∧
      Twins start start' (frames.drop (readCount [⟨e, (answer world e s).1⟩]))
        (sent ++ sentFrames [⟨e, (answer world e s).1⟩]) (answer world e s).2
        (answer world e t).2 := by
  cases h with
  | @intro c d hTwins log observed outside =>
      have hUnsent : sent = sent ++ [] := (List.append_nil sent).symm
      cases e with
      | observe label rate => exact ⟨rfl, rfl, hUnsent ▸ .intro hTwins _ _ _⟩
      | call c =>
          cases c with
          | read | readInTime =>
              obtain ⟨f, left, rfl⟩ := List.exists_cons_of_ne_nil (hEnough rfl)
              obtain ⟨c', d', hRaw, hLink, hNext⟩ := hTwins.read (hFit f List.mem_cons_self)
              simp only [answer, answerCall, Surroundings.onConnection, hRaw, hLink]
              exact ⟨trivial, rfl, hUnsent ▸ .intro hNext _ _ _⟩
          | write f =>
              by_cases hShort : f.IsEncodable
              · obtain ⟨c', d', hRaw, hLink, hNext⟩ := hTwins.write hShort
                simp only [answer, answerCall, Surroundings.onConnection, hRaw, hLink]
                exact ⟨trivial, rfl, .intro hNext _ _ _⟩
              · obtain ⟨hRaw, hLink⟩ := hTwins.write_of_not hShort
                simp only [answer, answerCall, Surroundings.onConnection, hRaw, hLink]
                exact ⟨trivial, rfl, hUnsent ▸ .intro hTwins _ _ _⟩
          | close | status => exact absurd hMessaging id
          | note entry | outside x => exact ⟨rfl, rfl, hUnsent ▸ .intro hTwins _ _ _⟩

/-- A program runs alike on twins, as long as there is a frame for every read. -/
theorem twins_run (world : Answering X R ξ) {p : Program (Effect X) (Response R) α}
    (hMessaging : p.All Effect.IsMessaging) {s t : Surroundings ξ}
    (h : Twins start start' frames sent s t) (hFit : ∀ f ∈ frames, f.IsEncodable)
    (hEnough : readCount (p.transcript (answer world) s) ≤ frames.length) :
    let exchanges := p.transcript (answer world) s
    (p.run (answer world) s).1 = (p.run (answer world) t).1 ∧
      p.transcript (answer world) t = exchanges ∧
      receivedFrames exchanges = frames.take (readCount exchanges) ∧
      Twins start start' (frames.drop (readCount exchanges)) (sent ++ sentFrames exchanges)
        (p.run (answer world) s).2 (p.run (answer world) t).2 := by
  induction p generalizing frames sent s t with
  | done a => exact ⟨rfl, rfl, rfl, (List.append_nil sent).symm ▸ h⟩
  | perform e next ih =>
      have hFrames : e.isRead = true → frames ≠ [] := by
        rintro hRead rfl
        obtain ⟨rest, hTranscript⟩ := Program.exists_transcript_eq (answer world) e next s
        rw [hTranscript, readCount, List.countP_cons, if_pos hRead] at hEnough
        exact absurd hEnough (Nat.not_succ_le_zero _)
      obtain ⟨hAnswer, hReceived, hNext⟩ := twins_answer world hMessaging.1 h hFit hFrames
      simp only [Program.run, Program.transcript] at hEnough ⊢
      generalize answer world e s = x at hAnswer hReceived hNext hEnough
      generalize answer world e t = y at hAnswer hNext
      obtain ⟨r, s'⟩ := x
      obtain ⟨r', t'⟩ := y
      obtain rfl : r = r' := hAnswer
      cases r with
      | none => exact ⟨rfl, rfl, hReceived, hNext⟩
      | some r =>
          dsimp only at hReceived hNext hEnough ⊢
          rw [readCount_cons] at hEnough
          obtain ⟨hSame, hRest, hReceived', hEnd⟩ := ih r (hMessaging.2 r) hNext
            (fun f hf => hFit f (List.mem_of_mem_drop hf)) (by rw [List.length_drop]; omega)
          rw [readCount_cons, receivedFrames_cons, sentFrames_cons, ← List.drop_drop,
            ← List.append_assoc, List.take_add, ← hReceived, ← hReceived']
          exact ⟨hSame, congrArg _ hRest, rfl, hEnd⟩

/-- A program that reads nothing has read nothing. -/
theorem readCount_of_all {answering : Answering (Effect X) (Response R) (Surroundings ξ)}
    {p : Program (Effect X) (Response R) α} (h : p.All fun e => e.isRead = false)
    (s : Surroundings ξ) : readCount (p.transcript answering s) = 0 := by
  induction p generalizing s with
  | done a => rfl
  | perform e next ih =>
      rw [Program.transcript]
      have hOne (a : Option (Response R e)) : readCount [⟨e, a⟩] = 0 := by
        rw [readCount, List.countP_singleton, h.1]
        rfl
      obtain ⟨r, s'⟩ := answering e s
      cases r with
      | none => exact hOne none
      | some r =>
          dsimp only
          rw [readCount_cons, hOne, ih r (h.2 r) s']

/-- Where the tests read nothing, a session reads its login and no more. -/
theorem readCount_run_le {tests : Tests R}
    (hTests : ∀ t, (tests.get t).course.All fun c => (Effect.call c).isRead = false)
    (world : Answering X R ξ) (s : Surroundings ξ) :
    readCount ((staged tests (run fun t => (tests.get t).name)).transcript (answer world) s) ≤
      1 := by
  obtain ⟨next, hRun, hNext⟩ :=
    exists_run_eq (fun _ hRead _ => hRead) fun t => (tests.get t).name
  have hStep (r : Request) (hRead : r ≠ .read) : (perform tests r).All fun e => e.isRead = false :=
    all_perform hTests (fun _ => rfl) (fun _ => rfl) (fun _ _ => rfl) (fun h => absurd h hRead)
      fun _ => rfl
  have hRest (reply : Except ProtocolError Frame) :
      (staged tests (next reply)).All fun e => e.isRead = false := (hNext reply).interpret hStep
  rw [hRun]
  show readCount (Program.transcript (answer world)
    (.perform (.call .read) fun reply => staged tests (next reply)) s) ≤ 1
  rw [Program.transcript]
  obtain ⟨r, s'⟩ := answer world (.call .read) s
  cases r with
  | none => exact Nat.le_refl 1
  | some r =>
      dsimp only
      rw [readCount_cons, readCount_of_all (hRest r)]
      exact Nat.le_refl 1

section Staged

variable {tests : Tests R} (hTests : ∀ t, (tests.get t).course.All SubTest.Call.IsMessaging)
include hTests

theorem all_perform_of_messaging {r : Request} (hRequest : r ≠ .close) :
    (perform tests r).All Effect.IsMessaging :=
  all_perform hTests (fun _ => trivial) (fun _ => trivial) (fun _ _ => trivial) (fun _ => trivial)
    fun h => absurd h hRequest

theorem all_staged {script : Script α} (hScript : script.All (· ≠ .close)) :
    (staged tests script).All Effect.IsMessaging :=
  hScript.interpret fun _ => all_perform_of_messaging hTests

/-- What a script asks of twins as its hosts is answered alike, tests included. -/
theorem twins_transcript (world : Answering X R ξ) {script : Script α}
    (hScript : script.All (· ≠ .close)) {s t : Surroundings ξ}
    (h : Twins start start' frames sent s t) (hFit : ∀ f ∈ frames, f.IsEncodable)
    (hEnough : readCount ((staged tests script).transcript (answer world) s) ≤ frames.length) :
    script.transcript (Host.onStage tests world).answering t =
      script.transcript (Host.onStage tests world).answering s := by
  induction script generalizing frames sent s t with
  | done a => rfl
  | perform r next ih =>
      rw [staged, Program.interpret, Program.transcript_bind, readCount_append] at hEnough
      have hFirst := twins_run world (all_perform_of_messaging hTests hScript.1) h hFit (by omega)
      obtain ⟨hAnswer, -, -, hNext⟩ := hFirst
      simp only [run_perform] at hAnswer hNext hEnough
      simp only [Program.transcript]
      generalize (Host.onStage tests world).answering r s = x at hAnswer hNext hEnough
      generalize (Host.onStage tests world).answering r t = y at hAnswer hNext
      obtain ⟨a, s'⟩ := x
      obtain ⟨a', t'⟩ := y
      obtain rfl : a = a' := hAnswer
      cases a with
      | none => rfl
      | some a =>
          refine congrArg _ (ih a (hScript.2 a) hNext
            (fun f hf => hFit f (List.mem_of_mem_drop hf)) ?_)
          rw [List.length_drop]
          exact Nat.le_sub_of_add_le' hEnough

end Staged

/-- Transports make no difference. A raw stream brings the encodings of frames without gaps, a
WebSocket brings each of them as one binary message, whole or in fragments, with pings and pongs
anywhere in between; both may arrive in any pieces, and what follows behind does not matter. Both
take all that is written. Then a session whose reads the frames suffice for comes to the same result
or the same error on both. It asks the same of the connection, the world, the log and the metrics,
its tests included, and gets the same answers: every read is answered with the next frame, and its
tests come to the same.

What is sent on either side is the same frames in the same order: without gaps on the raw stream,
and one binary message each on the WebSocket, with pongs in between. -/
theorem transports_agree {tests : Tests R}
    (hTests : ∀ t, (tests.get t).course.All SubTest.Call.IsMessaging) (world : Answering X R ξ)
    {frames : List Frame} (hFit : ∀ f ∈ frames, f.body.length ≤ 65535)
    {p : PeekStream} {trailing : Bytes} {rest : Stream}
    (hRaw : p.Delivers (frames.flatMap Frame.wire ++ trailing) rest) (hRawTakes : rest.TakesAll)
    {stream : Stream} {front behind : List Arrival} (hSmooth : Arrival.Smooth front)
    (hArrivals : stream.arrivals = front ++ behind)
    (hSpells : Spells none (frames.map Frame.wire) (Arrival.payload front))
    (hLinkTakes : stream.TakesAll) (peer peer' : Option SocketAddress) (log : List Log.Entry)
    (observed : List (String × Binary64)) (outside : ξ) :
    let script := run fun t => (tests.get t).name
    let s : Surroundings ξ := ⟨.ofPeekStream p peer, log, observed, outside⟩
    let t : Surroundings ξ := ⟨.ofLink (.ofStream stream) peer', log, observed, outside⟩
    let exchanges := (staged tests script).transcript (answer world) s
    readCount exchanges ≤ frames.length →
      (runOn tests world s).1 = (runOn tests world t).1 ∧
      (staged tests script).transcript (answer world) t = exchanges ∧
      receivedFrames exchanges = frames.take (readCount exchanges) ∧
      script.transcript (Host.onStage tests world).answering t =
        script.transcript (Host.onStage tests world).answering s ∧
      (runOn tests world s).2.observations = (runOn tests world t).2.observations ∧
      (runOn tests world s).2.entries = (runOn tests world t).2.entries ∧
      (runOn tests world s).2.outside = (runOn tests world t).2.outside ∧
      (runOn tests world s).2.connection.stream.written =
        p.inner.written ++ (sentFrames exchanges).flatMap Frame.wire ∧
      ∃ bytes, (runOn tests world t).2.connection.stream.written = stream.written ++ bytes ∧
        Utters ((sentFrames exchanges).map Frame.wire) bytes := by
  intro script s t exchanges hEnough
  have hHears : (Link.ofStream stream).Hears (frames.map Frame.wire) := by
    refine ⟨none, _, behind, ⟨rfl, rfl, hLinkTakes, rfl, fun a ha => ?_, .nothing⟩,
      ⟨front, hSmooth, rfl, hArrivals⟩, hSpells, fun m hm => ?_⟩
    · cases ha
    · obtain ⟨f, hf, rfl⟩ := List.mem_map.mp hm
      exact Frame.IsEncodable.length_wire_le (hFit f hf)
  have hConnections : Connection.Twins p.inner.written stream.written frames []
      s.connection t.connection :=
    .intro peer peer' ⟨trailing, rest, hRaw, hRawTakes⟩ hHears (List.append_nil _).symm rfl .nothing
  have hTwins : Twins p.inner.written stream.written frames [] s t :=
    .intro hConnections log observed outside
  have hScript := run_neverCloses fun t => (tests.get t).name
  obtain ⟨hSame, hExchanges, hReceived, hEnd⟩ :=
    twins_run world (all_staged hTests hScript) hTwins hFit hEnough
  have hRequests := twins_transcript hTests world hScript hTwins hFit hEnough
  change (runOn tests world s).1 = (runOn tests world t).1 at hSame
  change Twins _ _ _ _ (runOn tests world s).2 (runOn tests world t).2 at hEnd
  generalize runOn tests world s = x at hSame hEnd
  generalize runOn tests world t = y at hSame hEnd
  obtain ⟨r, s'⟩ := x
  obtain ⟨r', t'⟩ := y
  dsimp only at hEnd
  obtain ⟨⟨_, _, -, hLink, hWritten, hProduced, hUtters⟩, _, _, _⟩ := hEnd
  exact ⟨hSame, hExchanges, hReceived, hRequests, rfl, rfl, rfl, hWritten, _,
    hLink.written_eq.trans hProduced, hUtters⟩

/-- A login over a raw stream, and over a WebSocket behind a ping and in two fragments. -/
theorem transports_agree_of_fragmented_login :
    let login : Frame := .ofMessage .extendedLogin ⟨"v", some "22"⟩
    let tests : Tests fun _ : Empty => Unit :=
      ⟨⟨"upload", .done (.ok (.ofNat 8000))⟩, ⟨"download", .done (.ok .zero)⟩⟩
    let world : Answering Empty (fun _ => Unit) Unit := fun x _ => x.elim
    let key : Bytes := [1, 2, 3, 4]
    let ping := WebSocket.Frame.renderMasked key ⟨true, false, .ping, [7]⟩
    let first := WebSocket.Frame.renderMasked key ⟨false, false, .binary, login.wire.take 5⟩
    let last := WebSocket.Frame.renderMasked key ⟨true, false, .continuation, login.wire.drop 5⟩
    let s : Surroundings Unit :=
      ⟨.ofPeekStream (.ofStream (.ofArrivals [.chunk login.wire] .finished)) none, [], [], ()⟩
    let t : Surroundings Unit :=
      ⟨.ofLink (.ofStream (.ofArrivals [.chunk (ping ++ (first ++ (last ++ [])))] .silent)) none,
        [], [], ()⟩
    (runOn tests world s).1 = (runOn tests world t).1 ∧
      (runOn tests world s).2.observations = (runOn tests world t).2.observations := by
  intro login tests world key ping first last s t
  have hTests (t : Test) : (tests.get t).course.All SubTest.Call.IsMessaging := by
    cases t <;> trivial
  have hFit : ∀ f ∈ [login], f.body.length ≤ 65535 := by
    intro f hf
    rw [List.mem_singleton] at hf
    subst hf
    decide
  have hTakes (arrivals : List Arrival) (ending : Ending) :
      (Stream.ofArrivals arrivals ending).TakesAll :=
    ⟨⟨rfl, fun n h => by cases h⟩, fun n => rfl⟩
  have hRaw : (PeekStream.ofStream (.ofArrivals [.chunk login.wire] .finished)).Delivers
      ([login].flatMap Frame.wire ++ []) (.ofArrivals [] .finished) := by
    rw [List.append_nil]
    exact .ofStream (Arrival.Smooth.nil.cons : Arrival.Smooth [.chunk login.wire]) rfl
  have hSpells : Spells none ([login].map Frame.wire)
      (Arrival.payload [.chunk (ping ++ (first ++ (last ++ [])))]) := by
    have hLast : Spells (some (login.wire.take 5)) [login.wire.take 5 ++ login.wire.drop 5]
        (last ++ []) := .last rfl (.rest [])
    rw [List.take_append_drop] at hLast
    have hAll : Spells none [login.wire] (ping ++ (first ++ (last ++ []))) :=
      .aside (.inl rfl) rfl (by decide) (.first rfl hLast)
    rw [Arrival.payload_chunk]
    exact (List.append_nil _).symm ▸ hAll
  have hEnough : readCount ((staged tests (run fun t => (tests.get t).name)).transcript
      (answer world) s) ≤ [login].length := by
    refine readCount_run_le (fun t => ?_) world s
    cases t <;> trivial
  obtain ⟨hSame, -, -, -, hObserved, -⟩ := transports_agree hTests world hFit hRaw (hTakes _ _)
    Arrival.Smooth.nil.cons rfl hSpells (hTakes _ _) none none [] [] () hEnough
  exact ⟨hSame, hObserved⟩

end Session

end SpeedTest
