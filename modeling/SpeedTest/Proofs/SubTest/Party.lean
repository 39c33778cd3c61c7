import SpeedTest.Proofs.Program
import SpeedTest.SubTest.Loopback

/-! Whoever answers the calls of a throughput test. A party may let any message to the client fail
or wait for ever, and may change its state with every answer. What it cannot do is keep a test
waiting for the things that have a deadline, or come by an open data channel without the upgrade. -/

namespace SpeedTest.SubTest

open Program (Answering)
open Session (Surroundings answerCall)

/-- How a TLS connection is opened. -/
abbrev Secure := Tls.Credentials → Action Stream Failure Stream

variable {secure : Secure} {config : ServerConfig}

/-- What comes of a client that connects in time, that fails to, or that nobody hears of. Where the
upgrade does not come to its end before the deadline, nobody hears of the client either. -/
def opened (secure : Secure) (config : ServerConfig) :
    Option (Except IoError Stream) → Option (Except Failure Unit)
  | none => none
  | some (.error e) => some (.error (.ofIo e))
  | some (.ok client) =>
    match (DataChannel.acceptOver secure config client).1 with
    | .done _ => some (.ok ())
    | .failed e => some (.error e)
    | .pending => none

/-- The calls for which there is a deadline, or nothing to wait for. A message may wait for a client
that does not read, and so may the closing of a data channel. -/
def IsTimed : Call DataRequest → Prop
  | .readInTime | .status | .note _ => True
  | .outside r => r ≠ .close
  | .read | .write _ | .close => False

/-- The parties around a test with the given settings. -/
structure Party (config : ServerConfig) (σ : Type) where
  answering : Answering (Call DataRequest) (Reply DataReply) σ
  /-- How it opens TLS connections, of which nothing is assumed. -/
  secure : Secure
  /-- The client that connects to the data port before the deadline. -/
  client : σ → Option (Except IoError Stream)
  accept_eq : ∀ s, (answering (.outside .accept) s).1 = some (opened secure config (client s))
  isSome_of_isTimed : ∀ c s, IsTimed c → (answering c s).1.isSome

/-- The surroundings of a session under the given settings. -/
def within (config : ServerConfig) (s : Surroundings Loopback) : Surroundings Loopback :=
  { s with outside := { s.outside with config := config } }

/-- A control connection and a data channel in memory as a party. -/
def Party.onLoopback (config : ServerConfig) : Party config (Surroundings Loopback) where
  answering c s := answerCall Loopback.answer c (within config s)
  secure := Tls.accept
  client s := s.outside.arrival.map .ok
  accept_eq s := by
    simp only [answerCall, Loopback.answer, Loopback.accept, within]
    cases s.outside.arrival with
    | none => rfl
    | some client =>
        simp only [Option.map_some, opened, DataChannel.accept]
        obtain ⟨r, rest⟩ := DataChannel.acceptOver Tls.accept config client
        cases r <;> rfl
  isSome_of_isTimed c s h := by
    cases c with
    | outside r => cases r <;> rfl
    | readInTime | status | note => rfl
    | read | write | close => cases h

/-- No answer changes the settings. -/
theorem config_answerCall (c : Call DataRequest) (s : Surroundings Loopback) :
    (answerCall Loopback.answer c s).2.outside.config = s.outside.config := by
  cases c with
  | outside r =>
      cases r with
      | bind | close => rfl
      | accept =>
          simp only [answerCall, Loopback.answer, Loopback.accept]
          split
          · rfl
          · split <;> rfl
      | receive | transmit =>
          simp only [answerCall, Loopback.answer, Loopback.transfer]
          split <;> rfl
  | close =>
      simp only [answerCall, Surroundings.close]
      split
      · rename_i hClose
        exact congrArg (fun r => r.2.outside.config) hClose.symm
      · rfl
  | read | readInTime | write | status | note => rfl

/-- A test in memory meets this party. What holds with every party holds there. -/
theorem alike_onLoopback (config : ServerConfig) :
    Program.Alike (answerCall Loopback.answer) (Party.onLoopback config).answering
      (fun s t => s = t ∧ s.outside.config = config) := by
  rintro c s _ ⟨rfl, rfl⟩
  exact ⟨rfl, rfl, config_answerCall c s⟩

end SpeedTest.SubTest
