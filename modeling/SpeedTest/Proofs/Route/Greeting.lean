import SpeedTest.Route
import SpeedTest.Proofs.Session.Raw

/-! The greeting of a client on the raw stream. It takes nothing from the stream, and unless the
stream stops accepting it is written whole, whether or not it can be flushed. -/

namespace SpeedTest

/-- Two operations on the stream itself, one after the other. -/
theorem PeekStream.onInner_bind {ε α β : Type} (x : Action Stream ε α) (f : α → Action Stream ε β) :
    onInner (x >>= f) = onInner x >>= fun a => onInner (f a) := by
  funext p
  simp only [onInner, Action.focus, Action.bind_apply]
  obtain ⟨r, s⟩ := x p.inner
  cases r <;> rfl

namespace Route

open Session
open Program (Answering)

variable {X : Type} {R : X → Type} {ξ : Type}

/-- The greeting as an operation on the stream itself. -/
theorem greet_eq_onInner :
    greet = PeekStream.onInner (Stream.writeAll kickoff >>= fun _ => Stream.flush) := by
  rw [PeekStream.onInner_bind]
  rfl

theorem outward_greet : Outward (Stream.writeAll kickoff >>= fun _ => Stream.flush) :=
  (Outward.writeAll kickoff).bind fun _ => Outward.flush

/-- On a stream that accepts all writes the client is greeted in full. -/
theorem greet_of_accepting {p : PeekStream} (h : p.inner.Accepting) :
    ∃ writes sent, (greet p).2 = ⟨{ p.inner with
        writes := writes
        sent := sent
        flushes := p.inner.flushes + 1 }, p.buffered⟩ ∧
      sent.reverse.flatten = p.inner.written ++ kickoff := by
  obtain ⟨writes, sent, hWrite, hSent⟩ := h.writeAll kickoff
  refine ⟨writes, sent, ?_, hSent⟩
  rw [greet_eq_onInner, PeekStream.onInner, Action.focus, Action.bind_apply, hWrite]
  simp only [Stream.flush]
  cases p.inner.flushFault p.inner.flushes <;> rfl

/-- The surroundings of a session with a client that has been greeted, or could not be. -/
def greeted (peer : SocketAddress) (p : PeekStream) (outside : ξ) : Surroundings ξ :=
  ⟨.ofPeekStream (greet p).2 (some peer), greetingLog peer (greet p).1, [], outside⟩

/-- A connection after its session. -/
def Handled.ofSession (x : Option (Except SessionError SessionResult) × Surroundings ξ) :
    Handled ξ :=
  ⟨.session x.1, x.2.connection.stream, x.2.entries, x.2.observations, x.2.outside⟩

/-- Whatever becomes of the greeting, the session is run. -/
theorem converse_eq (tests : Tests R) (world : Answering X R ξ) (peer : SocketAddress)
    (p : PeekStream) (outside : ξ) :
    converse tests world peer p outside =
      .ofSession (serveOn tests world (greeted peer p outside)) := rfl

/-- The session of a client on the raw stream, with its tests. -/
def sessionWith (tests : Tests R) (peer : SocketAddress) :
    Program (Effect X) (Response R) (Except SessionError SessionResult) :=
  staged tests (serve (fun t => (tests.get t).name) (some peer) .raw)

theorem serveOn_greeted (tests : Tests R) (world : Answering X R ξ) (peer : SocketAddress)
    (p : PeekStream) (outside : ξ) :
    serveOn tests world (greeted peer p outside) =
      (sessionWith tests peer).run (answer world) (greeted peer p outside) := rfl

/-- What the session of a client and its tests ask for, and the answers they get. -/
def exchanges (tests : Tests R) (world : Answering X R ξ) (peer : SocketAddress) (p : PeekStream)
    (outside : ξ) : List ((e : Effect X) × Option (Response R e)) :=
  (sessionWith tests peer).transcript (answer world) (greeted peer p outside)

/-- A client that is greeted receives a front part of the greeting, all of it if that succeeds or if
the stream has room for it and grants every write something, and then what the session puts on the
stream. -/
theorem written_converse (tests : Tests R) (world : Answering X R ξ) (peer : SocketAddress)
    (p : PeekStream) (outside : ξ) :
    ∃ greeting bytes, greeting <+: kickoff ∧ ((greet p).1 = .done () → greeting = kickoff) ∧
      ((∀ n, p.inner.grant n ≠ some 0) → (∀ r, p.inner.room = some r → kickoff.length ≤ r) →
        greeting = kickoff) ∧
      Emits (exchanges tests world peer p outside) bytes ∧
      (converse tests world peer p outside).client.written =
        p.inner.written ++ greeting ++ bytes := by
  obtain ⟨greeting, hFront, hWritten, hAll⟩ := Stream.written_writeAll kickoff p.inner
  have hWhole (hGrant : ∀ n, p.inner.grant n ≠ some 0)
      (hRoom : ∀ r, p.inner.room = some r → kickoff.length ≤ r) : greeting = kickoff :=
    hAll (Stream.writeAll_of_granting hGrant hRoom)
  obtain ⟨bytes, hEmits, hSession⟩ := emits_of_run world (sessionWith tests peer)
    (s := greeted peer p outside) rfl
  have hGreet : (greet p).2.inner.written = p.inner.written ++ greeting ∧
      ((greet p).1 = .done () → greeting = kickoff) := by
    rw [greet_eq_onInner]
    simp only [PeekStream.onInner, Action.focus, Action.bind_apply]
    generalize Stream.writeAll kickoff p.inner = x at hWritten hAll ⊢
    obtain ⟨r, t⟩ := x
    cases r with
    | done u =>
        refine ⟨?_, fun _ => hAll rfl⟩
        dsimp only
        rw [Stream.written_flush]
        exact hWritten
    | failed e => exact ⟨hWritten, fun hDone => by cases hDone⟩
    | pending => exact ⟨hWritten, fun hDone => by cases hDone⟩
  refine ⟨greeting, bytes, hFront, hGreet.2, hWhole, hEmits, ?_⟩
  rw [← hGreet.1, converse_eq, serveOn_greeted]
  exact hSession

/-- Clients whose streams deliver the same bytes are alike once they have been greeted. -/
theorem greeted_same {p q : PeekStream} {w : Bytes} {rest : Stream} (hp : p.Delivers w rest)
    (hq : q.Delivers w rest) (hEnd : rest.AtEnd) (peer : SocketAddress) (outside : ξ) :
    Surroundings.Same (greeted peer p outside) (greeted peer q outside) := by
  obtain ⟨hDoneP, hp'⟩ := hp.onInner outward_greet
  obtain ⟨hDoneQ, hq'⟩ := hq.onInner outward_greet
  rw [← greet_eq_onInner] at hDoneP hp' hDoneQ hq'
  rw [greeted, greeted, hDoneP, hDoneQ]
  exact .intro (.intro _ _ hp' hq' (hEnd.outward outward_greet)) _ _ _

end Route

end SpeedTest
