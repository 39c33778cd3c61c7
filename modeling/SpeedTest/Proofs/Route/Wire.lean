import SpeedTest.Proofs.Route.Greeting
import SpeedTest.Proofs.Route.Sniffing
import SpeedTest.Proofs.Session.Wire

/-! What a client receives that has not opened with a request: the greeting and the frames of its
session, as they were written and cut off at most once, at the end. -/

namespace SpeedTest.Route

open Session WebSocket
open Program (Answering)

variable {X : Type} {R : X → Type} {ξ : Type}

theorem lays_greet {p : PeekStream} (hSteady : p.inner.Steady) :
    p.inner.Lays kickoff (greet p).2.inner := by
  have hLays := Stream.lays_writeAll hSteady kickoff
  rw [greet_eq_onInner]
  simp only [PeekStream.onInner, Action.focus, Action.bind_apply]
  generalize Stream.writeAll kickoff p.inner = x at hLays
  obtain ⟨r, t⟩ := x
  cases r with
  | done u => exact hLays.flush
  | failed e | pending => exact hLays

/-- The wire carries whole frames. Where the stream takes what it likes of a write, but nothing any
more behind one that it has refused,

* a client on the raw stream receives a front part of the greeting and the frames that are written
  while the connection is open, in that order, and all of it if no write is refused. Whether writes
  and flushes have failed before, what the login was and what the tests write makes no difference;
* a frame that is too long is refused on either transport, and the connection is as it was;
* on a WebSocket, whatever the stream does, each frame that has an encoding is put out as one
  message, in order and with nothing but pongs and closes in between, as long as the link sends. A
  front part of that is written, and all of it if no write is refused.
-/
theorem wire_carries_whole_frames (tests : Tests R) (world : Answering X R ξ) (uplink : Uplink)
    (peer : SocketAddress) (outside : ξ) {s : Stream} {p : PeekStream} (hSteady : s.Steady)
    (hSniff : sniff (.ofStream s) = (.done .legacy, p)) :
    let client := (handle tests world uplink peer s outside).client
    let due := kickoff ++
      offeredBytes ((sessionWith tests peer).visits (answer world) (greeted peer p outside))
    ((∃ bytes, bytes <+: due ∧ client.written = s.written ++ bytes) ∧
      (client.refusals = s.refusals → client.written = s.written ++ due)) ∧
    (∀ (c : Connection) (f : Frame), c.isClosed = false → Frame.maxBodyLength < f.body.length →
      Connection.write f c = (.failed (.frameTooLarge f.body.length), c)) ∧
    ∀ {α : Type} (q : Program (Effect X) (Response R) α) (t : Surroundings ξ) (l : Link),
      t.connection.channel = .webSocket l →
      ∃ l' bytes, (q.run (answer world) t).2.connection.channel = .webSocket l' ∧
        Tells (messages (q.visits (answer world) t)) bytes ∧
        l'.stream.written <+: l.produced ++ bytes ∧
        (l'.stream.refusals = l.stream.refusals → l.output = [] →
          l'.stream.written = l.stream.written ++ bytes) := by
  intro client due
  refine ⟨?_, fun c f => Connection.write_of_tooLarge, ?_⟩
  · -- The look writes nothing, and the greeting stands before what the session writes.
    have hLays : s.Lays due client := by
      have hLook : s.Lays [] p.inner := by
        have hInner := inward_sniff.inner_eq (.ofStream s)
        rw [hSniff] at hInner
        rw [hInner]
        exact .of_idle hSteady _ _ _
      have hGreet := lays_greet hLook.steady
      have hSession := lays_run world (sessionWith tests peer) (s := greeted peer p outside) rfl
        hGreet.steady
      have hClient : client =
          ((sessionWith tests peer).run (answer world) (greeted peer p outside)).2.connection.stream
            := by
        simp only [client, handle, hSniff, converse_eq, serveOn_greeted, Handled.ofSession]
      rw [hClient]
      exact hLook.trans (hGreet.trans hSession)
    obtain ⟨bytes, hFront, hWritten, -⟩ := hLays.part
    exact ⟨⟨bytes, hFront, hWritten⟩, hLays.whole⟩
  · intro α q t l hLink
    obtain ⟨l', hLink', hSpeaks⟩ := speaks_run world q hLink
    obtain ⟨bytes, hTells, hProduced⟩ := hSpeaks.tells
    refine ⟨l', bytes, hLink', hTells, ?_, fun hSame hNone => ?_⟩
    · rw [← hProduced]
      exact List.prefix_append _ _
    · rw [Link.produced, Link.produced, hSpeaks.clear hSame hNone, hNone, List.append_nil,
        List.append_nil] at hProduced
      exact hProduced

/-- A client whose stream takes five bytes of a write and forty in all, so that it cuts a frame off,
and a test that writes a frame which is too long and then one that is not. -/
theorem wire_carries_whole_frames_of_oversized_upload :
    let login : Frame := .ofMessage .extendedLogin ⟨"v", some "22"⟩
    let stream : Stream := { Stream.ofArrivals [.chunk login.wire] .finished with
      room := some 40
      grant := fun _ => some 5 }
    let test : SubTest (X := Empty) (fun _ => Unit) :=
      ⟨"large", .perform (.write ⟨.testMessage, List.replicate 65536 0⟩) fun _ =>
        .perform (.write ⟨.testMessage, [1]⟩) fun _ => .done (.ok .zero)⟩
    let world : Answering Empty (fun _ => Unit) Unit := fun x _ => nomatch x
    let peer : SocketAddress := ⟨.loopbackV4, 49152⟩
    let client := (handle ⟨test, test⟩ world
      ⟨"localhost:3010", .error (.system .connectionRefused)⟩ peer stream ()).client
    stream.Steady ∧ ∃ p, sniff (.ofStream stream) = (.done .legacy, p) ∧
      client.written <+: kickoff ++ offeredBytes
        ((sessionWith ⟨test, test⟩ peer).visits (answer world) (greeted peer p ())) := by
  intro login stream test world peer client
  have hSteady : stream.Steady := fun m n _ _ hNone => by cases hNone
  have hEncode : login.encode = .ok login.wire := by rfl
  have hDelivers : (PeekStream.ofStream stream).Delivers (login.wire ++ [])
      { stream with arrivals := [] } :=
    .ofStream (Arrival.Smooth.nil.cons : Arrival.Smooth [.chunk login.wire]) rfl
  obtain ⟨p, hSniff, -⟩ := sniff_of_delivers hDelivers ⟨rfl, rfl⟩
  rw [if_neg (not_httpLead_of_encode hEncode [])] at hSniff
  obtain ⟨⟨⟨bytes, hFront, hWritten⟩, -⟩, -⟩ := wire_carries_whole_frames ⟨test, test⟩ world
    ⟨"localhost:3010", .error (.system .connectionRefused)⟩ peer () hSteady hSniff
  rw [show client.written = bytes from hWritten]
  exact ⟨hSteady, p, hSniff, hFront⟩

end SpeedTest.Route
