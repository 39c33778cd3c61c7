import SpeedTest.Proofs.Program
import SpeedTest.Session.Stage

/-! Whoever answers the requests of a session. A host answers from a state of any type, so it stands
for every control connection and for every pair of tests that share the connection with the
session: they may fail, send, receive or close as they like, or never come back. -/

namespace SpeedTest.Session

open Program (Answering)

/-- The parties around a session. Each may change the state that they all share, and each answer may
fail or never come. The log and the metrics always take an entry. -/
structure Host (σ : Type) where
  read : σ → Option (Except ProtocolError Frame) × σ
  send : Kind → String → σ → Option (Except ProtocolError Unit) × σ
  measure : Test → σ → Option (Except Failure Binary64) × σ
  close : σ → Option (Except ProtocolError Channel.Closing) × σ
  note : Log.Entry → σ → σ
  observe : String → Binary64 → σ → σ

/-- The answers of a host, by request. -/
def Host.answering {σ : Type} (host : Host σ) : Answering Request Answer σ
  | .read, s => host.read s
  | .send kind text, s => host.send kind text s
  | .measure t, s => host.measure t s
  | .observe label rate, s => (some (), host.observe label rate s)
  | .note entry, s => (some (), host.note entry s)
  | .close, s => host.close s

variable {X : Type} {R : X → Type} {ξ α : Type}

/-- A control connection and two tests as a host. The tests run on the same connection. -/
def Host.onStage (tests : Tests R) (world : Answering X R ξ) : Host (Surroundings ξ) where
  read s := s.onConnection Connection.read
  send kind text s := s.onConnection (Connection.send kind text)
  measure t s := (tests.get t).course.run (answerCall world) s
  close s := s.close
  note entry s := s.note entry
  observe label rate s := { s with observed := (label, rate) :: s.observed }

/-- A single effect is answered by whoever answers it. -/
theorem run_ask {E : Type} {Ans : E → Type} {σ : Type} (answering : Answering E Ans σ) (e : E)
    (s : σ) :
    (Program.perform e .done : Program E Ans (Ans e)).run answering s = answering e s := by
  rw [Program.run]
  obtain ⟨r, s'⟩ := answering e s
  cases r <;> rfl

/-- The course of a test within a session runs as it does by itself. -/
theorem run_embed (world : Answering X R ξ) (course : SubTest.Course R α) (s : Surroundings ξ) :
    (embed course).run (answer world) s = course.run (answerCall world) s := by
  rw [embed, Program.run_interpret]
  congr 1
  funext c s
  exact run_ask (answer world) (.call c) s

theorem run_perform (tests : Tests R) (world : Answering X R ξ) (r : Request) (s : Surroundings ξ) :
    (perform tests r).run (answer world) s = (Host.onStage tests world).answering r s := by
  cases r with
  | measure t => exact run_embed world _ s
  | _ => exact run_ask (answer world) _ s

/-- A session on a connection is the session with this connection and these tests as its host. What
holds with every host holds on every connection. -/
theorem play_eq_run (tests : Tests R) (world : Answering X R ξ) (script : Script α)
    (s : Surroundings ξ) :
    play tests world script s = script.run (Host.onStage tests world).answering s := by
  rw [play, staged, Program.run_interpret]
  congr 1
  funext r s
  exact run_perform tests world r s

/-- A session and its tests on a connection, as one program. -/
def course (tests : Tests R) (c : Connection) :
    Program (Effect X) (Response R) (Except SessionError SessionResult) :=
  staged tests (serve (fun t => (tests.get t).name) c.peer c.transport)

/-- Whatever a session comes to, its connection is closed behind it, and closing does not change the
outcome. -/
theorem run_serve {σ : Type} (host : Host σ) (name : Test → String) (peer : Option SocketAddress)
    (transport : Transport) {s s' : σ} {outcome : Except SessionError SessionResult}
    (h : (run name).run host.answering s = (some outcome, s')) :
    (serve name peer transport).run host.answering s =
      match host.close (host.note (outcomeEntry peer transport outcome) s') with
      | (none, t) => (none, t)
      | (some (.ok _), t) => (some outcome, t)
      | (some (.error e), t) => (some outcome, host.note (closingEntry peer e) t) := by
  rw [serve, Program.run_bind, h]
  simp only [finish, Program.run, Host.answering]
  obtain ⟨r, t⟩ := host.close (host.note (outcomeEntry peer transport outcome) s')
  cases r with
  | none => rfl
  | some r => cases r <;> rfl

end SpeedTest.Session
