import SpeedTest.Proofs.Wire.Consumption
import SpeedTest.Proofs.Session.Closing
import SpeedTest.Proofs.Session.Rationing

/-! Where a session reads. Every frame is read where the one before it has ended, even if the
deadline for the report strikes in the middle of it: nothing is read behind that. -/

namespace SpeedTest

/-- What comes of a stream until its first `k` pieces have arrived. -/
def Stream.early (k : Nat) (s : Stream) : Stream :=
  { s with arrivals := s.arrivals.take k, ending := .silent }

/-- The stream `s` goes on behind what was left of its first `k` pieces. -/
def Stream.late (k : Nat) (s left : Stream) : Stream :=
  { left with arrivals := left.arrivals ++ s.arrivals.drop k, ending := s.ending }

def Channel.mapStream (f : Stream → Stream) : Channel → Channel
  | .raw p => .raw { p with inner := f p.inner }
  | .webSocket l => .webSocket { l with stream := f l.stream }

namespace Connection

/-- Read a frame until a deadline, before which `k` pieces arrive. A read that is given up has taken
what had come by then. -/
def readBefore (k : Nat) : Action Connection ProtocolError Frame := fun c =>
  match read { c with channel := c.channel.mapStream (Stream.early k) } with
  | (r, c') => (r, { c' with channel := c'.channel.mapStream (Stream.late k c.stream) })

variable {c c' : Connection} {q : PeekStream} {f : Frame}

theorem content_write (f : Frame) (h : c.channel = .raw q) :
    ∃ q', (c.write f).2.channel = .raw q' ∧ q'.content = q.content := by
  rw [write, onOpen]
  split
  · exact ⟨q, h, rfl⟩
  · rw [h]
    exact ⟨_, rfl, PeekStream.content_onInner (Outward.writeTo f) q⟩

theorem content_close (h : c.channel = .raw q) :
    ∃ q', c.close.2.channel = .raw q' ∧ q'.content = q.content := by
  have hContent : (PeekStream.shutdown q).2.content = q.content :=
    PeekStream.content_onInner Outward.shutdown q
  rw [close]
  split
  · exact ⟨q, h, rfl⟩
  · rw [h]
    dsimp only [Channel.close]
    generalize PeekStream.shutdown q = x at hContent
    obtain ⟨r, q'⟩ := x
    cases r <;> exact ⟨q', rfl, hContent⟩

/-- A frame that was read is taken off the front. -/
theorem content_read (h : c.channel = .raw q) (hRead : c.read = (.done f, c')) :
    ∃ q', c'.channel = .raw q' ∧ f.IsEncodable ∧ q.content = f.wire ++ q'.content := by
  rw [read, onOpen] at hRead
  split at hRead
  · cases hRead
  · rw [h] at hRead
    dsimp only [Channel.read] at hRead
    cases hFrame : Frame.readFrom PeekStream.read q with
    | mk r q' =>
        rw [hFrame] at hRead
        cases hRead
        obtain ⟨bytes, hEncode, hContent⟩ := Frame.content_of_readFrom hFrame
        exact ⟨q', rfl, (Frame.encode_eq_ok hEncode).1, by rw [hContent, Frame.wire, hEncode]⟩

theorem content_early (k : Nat) (q : PeekStream) :
    q.content = PeekStream.content { q with inner := q.inner.early k } ++
      Arrival.payload (q.inner.arrivals.drop k) := by
  rw [PeekStream.content, PeekStream.content, Stream.early, List.append_assoc, Arrival.payload,
    Arrival.payload, Arrival.payload, ← List.flatMap_append, List.take_append_drop]

theorem content_late (k : Nat) (s : Stream) (q : PeekStream) :
    PeekStream.content { q with inner := s.late k q.inner } =
      q.content ++ Arrival.payload (s.arrivals.drop k) := by
  rw [PeekStream.content, PeekStream.content, Stream.late, List.append_assoc, Arrival.payload,
    Arrival.payload, Arrival.payload, List.flatMap_append]

/-- A deadline that does not strike changes nothing in that. -/
theorem content_readBefore {k : Nat} (h : c.channel = .raw q)
    (hRead : c.readBefore k = (.done f, c')) :
    ∃ q', c'.channel = .raw q' ∧ f.IsEncodable ∧ q.content = f.wire ++ q'.content := by
  rw [readBefore] at hRead
  generalize hEarly : read { c with channel := c.channel.mapStream (Stream.early k) } = x at hRead
  obtain ⟨r, d⟩ := x
  cases hRead
  obtain ⟨q', hChannel, hFit, hContent⟩ :=
    content_read (q := { q with inner := q.inner.early k }) (by rw [h]; rfl) hEarly
  refine ⟨{ q' with inner := c.stream.late k q'.inner }, by rw [hChannel]; rfl, hFit, ?_⟩
  rw [content_early k q, hContent, content_late, stream, h, List.append_assoc]
  rfl

end Connection

namespace Session

open Program (Answering)
open SubTest (DataRequest DataReply builtIn)

variable {X : Type} {R : X → Type} {ξ : Type}

/-- Answer the effects of a session where the deadline for a report may strike: when it does, that
many pieces have arrived since the report was asked for. -/
def answerWithin (deadline : Option Nat) (world : Answering X R ξ) :
    Answering (Effect X) (Response R) (Surroundings ξ)
  | .call .readInTime, s =>
    match deadline with
    | none => answer world (.call .readInTime) s
    | some k =>
      match s.onConnection (Connection.readBefore k) with
      | (r, s') => (some r, s')
  | e, s => answer world e s

/-- Of the bytes `w` that a raw connection was to bring whole frames have been read. -/
def AtFrame (w : Bytes) (s : Surroundings ξ) : Prop :=
  ∃ (q : PeekStream) (frames : List Frame), s.connection.channel = .raw q ∧
    (∀ f ∈ frames, f.IsEncodable) ∧ w = frames.flatMap Frame.wire ++ q.content

variable {w : Bytes} {s s' : Surroundings ξ}

theorem AtFrame.of_same (h : AtFrame w s)
    (hSame : ∀ q, s.connection.channel = .raw q →
      ∃ q', s'.connection.channel = .raw q' ∧ q'.content = q.content) : AtFrame w s' := by
  obtain ⟨q, frames, hChannel, hFit, hContent⟩ := h
  obtain ⟨q', hChannel', hSame⟩ := hSame q hChannel
  exact ⟨q', frames, hChannel', hFit, by rw [hContent, hSame]⟩

theorem AtFrame.of_frame {f : Frame} (h : AtFrame w s)
    (hRead : ∀ q, s.connection.channel = .raw q →
      ∃ q', s'.connection.channel = .raw q' ∧ f.IsEncodable ∧
        q.content = f.wire ++ q'.content) : AtFrame w s' := by
  obtain ⟨q, frames, hChannel, hFit, hContent⟩ := h
  obtain ⟨q', hChannel', hFrame, hTaken⟩ := hRead q hChannel
  refine ⟨q', frames ++ [f], hChannel', ?_, ?_⟩
  · intro g hg
    rcases List.mem_append.mp hg with hg | hg
    · exact hFit g hg
    · rwa [List.mem_singleton.mp hg]
  · rw [hContent, hTaken, List.flatMap_append, List.flatMap_singleton, List.append_assoc]

theorem Surroundings.eq_done_of_onConnection {α : Type} {x : Action Connection ProtocolError α}
    {a : α} (h : (s.onConnection x).1 = some (.ok a)) :
    x s.connection = (.done a, (s.onConnection x).2.connection) := by
  rw [onConnection] at h ⊢
  generalize x s.connection = y at h ⊢
  obtain ⟨r, c⟩ := y
  cases r <;> cases h
  rfl

section Answers

variable (world : Answering X R ξ) (deadline : Option Nat)

theorem atFrame_of_idle {e : Effect X} (hIdle : e.isRead = false) (h : AtFrame w s) :
    AtFrame w (answerWithin deadline world e s).2 := by
  cases e with
  | observe label rate => exact h.of_same fun q hChannel => ⟨q, hChannel, rfl⟩
  | call c =>
      cases c with
      | read | readInTime => cases hIdle
      | write f => exact h.of_same fun q hChannel => Connection.content_write f hChannel
      | close =>
          refine h.of_same fun q hChannel => ?_
          simp only [answerWithin, answer, answerCall, Surroundings.connection_close]
          exact Connection.content_close hChannel
      | status | note entry | outside x => exact h.of_same fun q hChannel => ⟨q, hChannel, rfl⟩

theorem atFrame_of_delivers {e : Effect X} {r : Response R e} (h : AtFrame w s)
    (hAnswer : (answerWithin deadline world e s).1 = some r) (hDelivers : e.Delivers r) :
    AtFrame w (answerWithin deadline world e s).2 := by
  cases e with
  | observe label rate => cases hDelivers
  | call c =>
      cases c with
      | read =>
          obtain ⟨f, rfl⟩ := hDelivers
          have hRead := Surroundings.eq_done_of_onConnection hAnswer
          exact h.of_frame fun q hChannel => Connection.content_read hChannel hRead
      | readInTime =>
          obtain ⟨f, rfl⟩ := hDelivers
          cases deadline with
          | none =>
              have hFrame : (s.onConnection Connection.read).1 = some (.ok f) :=
                Option.some.inj hAnswer
              have hRead := Surroundings.eq_done_of_onConnection hFrame
              exact h.of_frame fun q hChannel => Connection.content_read hChannel hRead
          | some k =>
              have hFrame : (s.onConnection (Connection.readBefore k)).1 = some (.ok f) :=
                Option.some.inj hAnswer
              have hRead := Surroundings.eq_done_of_onConnection hFrame
              exact h.of_frame fun q hChannel => Connection.content_readBefore hChannel hRead
      | write f => cases hDelivers
      | close => cases hDelivers
      | status => cases hDelivers
      | note entry => cases hDelivers
      | outside x => cases hDelivers

end Answers

theorem not_delivers {e : Effect X} {r : Response R e} (h : receivedFrames [⟨e, some r⟩] = []) :
    ¬ e.Delivers r := by
  intro hDelivers
  cases e with
  | observe label rate => exact hDelivers
  | call c =>
      cases c with
      | read | readInTime =>
          obtain ⟨f, rfl⟩ := hDelivers
          cases h
      | write f | close | status | note entry | outside x => exact hDelivers

/-- Whatever is asked of a session, whoever the client is and whatever it sends, and wherever the
deadline for its report strikes, the session asks its connection for two frames at most, first the
login and then the report, and for none any more once a read has failed or was given up. On a raw
connection it has read nothing but whole frames wherever it asks for one, so that no byte from the
middle of a frame is taken for the start of another. -/
theorem reads_keep_to_frames (config : ServerConfig) (c : Connection) :
    (∀ {σ : Type} (answering : Answering (Effect DataRequest) (Response DataReply) σ) (s : σ),
      let done := (course (builtIn config) c).transcript answering s
      (done.map Sigma.fst).filter Effect.isRead <+: [.call .read, .call .readInTime] ∧
        ∀ before x after, done = before ++ x :: after → x.1.isRead = true →
          receivedFrames [x] = [] → readCount after = 0) ∧
      ∀ {ξ : Type} (world : Answering DataRequest DataReply ξ) (deadline : Option Nat)
        (s : Surroundings ξ) (p : PeekStream), s.connection.channel = .raw p →
        ∀ v ∈ (course (builtIn config) c).visits (answerWithin deadline world) s,
          v.1.isRead = true → AtFrame p.content v.2 := by
  have hPlan := readsBy_course config c
  refine ⟨fun answering s => ?_, fun world deadline s p hChannel => ?_⟩
  · have hCourse := Program.course_run answering (course (builtIn config) c) s
    refine ⟨hPlan.prefix_plan hCourse, fun before ⟨e, a⟩ after hDone hRead hNothing => ?_⟩
    have hBad (r : Response DataReply e) (hAnswer : a = some r) : ¬ e.Delivers r :=
      not_delivers (hAnswer ▸ hNothing)
    refine List.countP_eq_zero.mpr fun y hy => ?_
    simp [hPlan.none_behind hCourse hDone hRead hBad y hy]
  · have hStart : AtFrame p.content s := ⟨p, [], hChannel, by simp, by simp⟩
    exact hPlan.holds_at_visit (fun e s hIdle h => atFrame_of_idle world deadline hIdle h)
      (fun e s r _ h hAnswer hDelivers => atFrame_of_delivers world deadline h hAnswer hDelivers)
      hStart

/-- A deadline that strikes in the header of a report, the rest of which is never read. -/
example :
    let login : Frame := .ofMessage .extendedLogin ⟨"v3.7.0", some "20"⟩
    let client : Stream :=
      .ofArrivals [.chunk login.wire, .chunk [5, 0], .chunk [2, 49, 48]] .finished
    let s : Surroundings SubTest.Loopback :=
      ⟨.ofPeekStream (.ofStream client) none, [], [],
        .ofClient .default (.ok 4000) (some (.ofArrivals [] .silent))⟩
    let done := (course (builtIn .default) s.connection).transcript
      (answerWithin (some 1) SubTest.Loopback.answer) s
    readCount done = 2 ∧ receivedFrames done = [login] := by decide +kernel

end Session

end SpeedTest
