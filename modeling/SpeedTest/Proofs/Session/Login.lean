import SpeedTest.Proofs.Session.Host
import SpeedTest.Proofs.Session.Selection

/-! The login of a session. The checks are made in a fixed order, and the first that fails decides
what becomes of the client. A client that is refused is not told: the session does nothing else. -/

namespace SpeedTest.Session

/-- The first frame of a session is a login that is welcome: a message of the right kind, whose
selection is a number with the bit of the status capability. A missing selection is read as the
empty text. -/
inductive Admits : Except ProtocolError Frame → Message → Int64 → Prop
  | intro {body : Bytes} {m : Message} {bits : Int64} (hBody : Message.read body = .ok m)
      (hNumber : readInt64 (m.tests.getD "").toList = .ok bits.toInt)
      (hStatus : bits &&& 16 ≠ 0) :
      Admits (.ok ⟨.extendedLogin, body⟩) m bits

/-- Why a session ends at its first frame. Each check presupposes that those before it succeed. -/
inductive Refuses : Except ProtocolError Frame → SessionError → Prop
  | frame (e : ProtocolError) : Refuses (.error e) (.protocol e)
  | kind {f : Frame} (hKind : f.kind ≠ .extendedLogin) :
      Refuses (.ok f) (.protocol (.unexpectedKind .extendedLogin f.kind))
  | body {body : Bytes} {cause : Json.Error} (hBody : Message.read body = .error (.json cause)) :
      Refuses (.ok ⟨.extendedLogin, body⟩) (.protocol (.json cause))
  | number {body : Bytes} {m : Message} {fault : IntegerFault} (hBody : Message.read body = .ok m)
      (hNumber : readInt64 (m.tests.getD "").toList = .error fault) :
      Refuses (.ok ⟨.extendedLogin, body⟩) (.parse (m.tests.getD "") fault)
  | status {body : Bytes} {m : Message} {bits : Int64} (hBody : Message.read body = .ok m)
      (hNumber : readInt64 (m.tests.getD "").toList = .ok bits.toInt)
      (hStatus : bits &&& 16 = 0) :
      Refuses (.ok ⟨.extendedLogin, body⟩) (.rejected bits.toInt)

/-- A body that is no message is refused for its JSON text and for nothing else. -/
theorem json_of_read_error {body : Bytes} {e : ProtocolError} (h : Message.read body = .error e) :
    ∃ cause, e = .json cause := by
  unfold Message.read at h
  split at h
  · cases h
  · cases h
    exact ⟨_, rfl⟩

theorem toMessage_of_read {body : Bytes} {r : Except ProtocolError Message}
    (h : Message.read body = r) :
    Frame.toMessage ⟨.extendedLogin, body⟩ .extendedLogin = r := (if_pos rfl).trans h

theorem screenLogin_of_error {f : Frame} {e : ProtocolError}
    (h : f.toMessage .extendedLogin = .error e) : screenLogin f = .error (.protocol e) := by
  rw [screenLogin, h]
  rfl

/-- What remains to be checked of a frame that is a message of the right kind. -/
theorem screenLogin_of_message {f : Frame} {m : Message}
    (h : f.toMessage .extendedLogin = .ok m) :
    screenLogin f =
      match Selection.parse (m.tests.getD "") with
      | .error e => .error e
      | .ok s => if s.hasStatus then .ok (m.msg, s) else .error (.rejected s.bits) := by
  rw [screenLogin, h]
  show (Selection.parse (m.tests.getD "") >>= _) = _
  cases Selection.parse (m.tests.getD "") <;> rfl

theorem screenLogin_of_admits {f : Frame} {m : Message} {bits : Int64}
    (h : Admits (.ok f) m bits) : screenLogin f = .ok (m.msg, ⟨bits.toInt⟩) := by
  cases h with
  | intro hBody hNumber hStatus =>
      rw [screenLogin_of_message (toMessage_of_read hBody), Selection.parse, hNumber]
      exact if_pos ((Selection.hasStatus_iff bits).mpr hStatus)

theorem screenLogin_of_refuses {f : Frame} {e : SessionError} (h : Refuses (.ok f) e) :
    screenLogin f = .error e := by
  cases h with
  | kind hKind => exact screenLogin_of_error (if_neg hKind)
  | body hBody => exact screenLogin_of_error (toMessage_of_read hBody)
  | number hBody hNumber =>
      rw [screenLogin_of_message (toMessage_of_read hBody), Selection.parse, hNumber]
  | @status body m bits hBody hNumber hStatus =>
      rw [screenLogin_of_message (toMessage_of_read hBody), Selection.parse, hNumber]
      apply if_neg
      intro hSet
      exact (Selection.hasStatus_iff bits).mp hSet hStatus

/-- Every first reply is either a welcome login or the reason for a refusal. -/
theorem admits_or_refuses (reply : Except ProtocolError Frame) :
    (∃ m bits, Admits reply m bits) ∨ ∃ e, Refuses reply e := by
  obtain e | ⟨kind, body⟩ := reply
  · exact .inr ⟨_, .frame e⟩
  by_cases hKind : kind = .extendedLogin
  · subst hKind
    cases hBody : Message.read body with
    | error e =>
        obtain ⟨cause, rfl⟩ := json_of_read_error hBody
        exact .inr ⟨_, .body hBody⟩
    | ok m =>
        cases hNumber : readInt64 (m.tests.getD "").toList with
        | error fault => exact .inr ⟨_, .number hBody hNumber⟩
        | ok n =>
            rw [← toInt_ofInt_of_readInt64 hNumber] at hNumber
            by_cases hStatus : Int64.ofInt n &&& 16 = 0
            · exact .inr ⟨_, .status hBody hNumber hStatus⟩
            · exact .inl ⟨m, _, .intro hBody hNumber hStatus⟩
  · exact .inr ⟨_, .kind hKind⟩

/-- There is one reason for a refusal, that of the first check that fails. -/
theorem Refuses.unique {reply : Except ProtocolError Frame} {e e' : SessionError}
    (h : Refuses reply e) (h' : Refuses reply e') : e = e' := by
  obtain cause | f := reply
  · cases h
    cases h'
    rfl
  · have hError := screenLogin_of_refuses h
    rw [screenLogin_of_refuses h'] at hError
    exact (Except.error.inj hError).symm

/-- No reply is both welcome and refused. -/
theorem not_admits_of_refuses {reply : Except ProtocolError Frame} {e : SessionError}
    (h : Refuses reply e) : ¬ ∃ m bits, Admits reply m bits := by
  rintro ⟨m, bits, hAdmits⟩
  obtain e' | f := reply
  · cases hAdmits
  · have hError := screenLogin_of_refuses h
    rw [screenLogin_of_admits hAdmits] at hError
    cases hError

variable {σ : Type} (host : Host σ) (name : Test → String) {s s' : σ}

/-- A client that is refused is the last that anybody hears of the session. -/
theorem run_of_refuses {reply : Except ProtocolError Frame} {e : SessionError}
    (hRead : host.read s = (some reply, s')) (h : Refuses reply e) :
    (run name).run host.answering s = (some (.error e), s') ∧
      (run name).transcript host.answering s = [⟨.read, some reply⟩] := by
  obtain e' | f := reply
  · cases h
    simp [run, Program.run, Program.transcript, Host.answering, hRead]
  · have hScreen := screenLogin_of_refuses h
    simp [run, Program.run, Program.transcript, Host.answering, hRead, hScreen]

/-- A client that is welcome is served in a session with the selection of its login. -/
theorem run_of_screenLogin {f : Frame} {client : String} {selection : Selection}
    (hRead : host.read s = (some (.ok f), s')) (h : screenLogin f = .ok (client, selection)) :
    (run name).run host.answering s = (runAdmitted name client selection).run host.answering s' ∧
      (run name).transcript host.answering s =
        ⟨.read, some (.ok f)⟩ ::
          (runAdmitted name client selection).transcript host.answering s' := by
  simp [run, Program.run, Program.transcript, Host.answering, hRead, h]

/-- The first message is sent right behind a welcome login. -/
theorem sends_of_admits {reply : Except ProtocolError Frame} {m : Message} {bits : Int64}
    (hRead : host.read s = (some reply, s')) (h : Admits reply m bits) :
    ∃ a, ⟨.send .serverQueue "0", a⟩ ∈ (run name).transcript host.answering s := by
  obtain e | f := reply
  · cases h
  have hRun := (run_of_screenLogin host name hRead (screenLogin_of_admits h)).2
  rw [hRun]
  simp only [runAdmitted, opening, servedAtOnce, sendAll, Program.transcript, Host.answering]
  obtain ⟨a, s''⟩ := host.send .serverQueue "0" (host.note (admissionEntry m.msg ⟨bits.toInt⟩) s')
  cases a with
  | none => exact ⟨none, by simp⟩
  | some a => exact ⟨some a, by simp⟩

end SpeedTest.Session
