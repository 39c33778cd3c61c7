import SpeedTest.Proofs.Session.Login
import SpeedTest.Proofs.Wire.Message

/-! What a session does with a client it has admitted, whoever its host is. The main statement is
that it goes through its agenda from the front, and that nothing but a message of its own that
cannot be sent makes it stop. What the tests do does not matter. -/

namespace SpeedTest.Session

/-- A request of a session and its answer, or `none` where the answer never comes. -/
abbrev Exchange := (r : Request) × Option (Answer r)

/-- Entries into the log and the metrics are no deeds: neither the client nor a test notices
them. -/
def Request.isDeed : Request → Bool
  | .note _ | .observe _ _ => false
  | _ => true

/-- The exchanges that somebody outside the server notices. -/
def deeds (exchanges : List Exchange) : List Exchange := exchanges.filter fun x => x.1.isDeed

/-- The request to send a message. -/
def Request.ofMessage (message : Kind × String) : Request := .send message.1 message.2

/-- The line that announces tests: their codes, separated by single spaces. -/
def announcementLine (plan : List Test) : String :=
  " ".intercalate (plan.map fun
    | .upload => "2"
    | .download => "4")

/-- Everything that a session with the given plan is to do, where `rates` are those it reports. -/
def agenda (plan : List Test) (rates : SessionResult) : List Request :=
  [.send .serverQueue "0", .send .login "v5.0-NDTinGO", .send .login (announcementLine plan)]
    ++ plan.map Request.measure
    ++ [.send .results rates.summary, .send .logout ""]

/-- Enter the rate that an exchange yields, if it is that of a test which has succeeded. -/
def enterRate (r : SessionResult) : Exchange → SessionResult
  | ⟨.measure t, some (.ok rate)⟩ => r.record t rate
  | _ => r

/-- The rates of the tests that have succeeded. -/
def ratesOf (exchanges : List Exchange) : SessionResult := exchanges.foldl enterRate .empty

/-- A message is carried out when it has been sent, and a test when it has ended in any way. -/
def Exchange.IsCarriedOut : Exchange → Prop
  | ⟨.send _ _, a⟩ => a = some (.ok ())
  | ⟨_, a⟩ => a.isSome

/-- How deeds follow a list of requests, and how the session ends. It waits for ever where a request
is never answered, is cut where a message cannot be sent, and otherwise goes on. -/
inductive Follows : List Request → List Exchange → Option (Except SessionError SessionResult) → Prop
  | finished (r : SessionResult) : Follows [] [] (some (.ok r))
  | waiting (r : Request) (rest : List Request) : Follows (r :: rest) [⟨r, none⟩] none
  | cut (kind : Kind) (text : String) (e : ProtocolError) (rest : List Request) :
      Follows (.send kind text :: rest) [⟨.send kind text, some (.error e)⟩]
        (some (.error (.protocol e)))
  | sent {kind : Kind} {text : String} {rest : List Request} {done : List Exchange}
      {result : Option (Except SessionError SessionResult)} (next : Follows rest done result) :
      Follows (.send kind text :: rest) (⟨.send kind text, some (.ok ())⟩ :: done) result
  | measured {t : Test} (a : Except Failure Binary64) {rest : List Request} {done : List Exchange}
      {result : Option (Except SessionError SessionResult)} (next : Follows rest done result) :
      Follows (.measure t :: rest) (⟨.measure t, some a⟩ :: done) result

namespace Follows

variable {plan : List Request} {done : List Exchange}
  {result : Option (Except SessionError SessionResult)}

theorem requests_prefix (h : Follows plan done result) : done.map Sigma.fst <+: plan := by
  induction h with
  | finished r => exact List.prefix_refl _
  | waiting r rest => exact ⟨rest, rfl⟩
  | cut kind text e rest => exact ⟨rest, rfl⟩
  | sent next ih => exact (List.prefix_cons_inj _).mpr ih
  | measured a next ih => exact (List.prefix_cons_inj _).mpr ih

/-- A message that cannot be sent is the last deed, and its error is the result. -/
theorem stops_at_failure (h : Follows plan done result) {before after : List Exchange}
    {kind : Kind} {text : String} {e : ProtocolError}
    (hDone : done = before ++ ⟨.send kind text, some (.error e)⟩ :: after) :
    after = [] ∧ result = some (.error (.protocol e)) := by
  induction h generalizing before with
  | finished r => simp at hDone
  | waiting r rest =>
      cases before with
      | nil => simp only [List.nil_append, List.cons.injEq] at hDone; cases hDone.1
      | cons x before => simp at hDone
  | cut kind' text' e' rest =>
      cases before with
      | nil =>
          simp only [List.nil_append, List.cons.injEq] at hDone
          obtain ⟨hFirst, hRest⟩ := hDone
          cases hFirst
          exact ⟨hRest.symm, rfl⟩
      | cons x before => simp at hDone
  | sent next ih =>
      cases before with
      | nil => simp only [List.nil_append, List.cons.injEq] at hDone; cases hDone.1
      | cons x before => exact ih (List.cons.inj hDone).2
  | measured a next ih =>
      cases before with
      | nil => simp only [List.nil_append, List.cons.injEq] at hDone; cases hDone.1
      | cons x before => exact ih (List.cons.inj hDone).2

/-- A session that ends with an error has not been able to send its last message. -/
theorem failure_of_error (h : Follows plan done result) {e : SessionError}
    (hResult : result = some (.error e)) :
    ∃ before kind text cause, e = .protocol cause ∧
      done = before ++ [⟨.send kind text, some (.error cause)⟩] := by
  induction h with
  | finished r => cases hResult
  | waiting r rest => cases hResult
  | cut kind text cause rest => cases hResult; exact ⟨[], kind, text, cause, rfl, rfl⟩
  | @sent kind text _ _ _ next ih =>
      obtain ⟨before, kind', text', cause, hCause, hDone⟩ := ih hResult
      exact ⟨⟨.send kind text, some (.ok ())⟩ :: before, kind', text', cause, hCause,
        by rw [hDone, List.cons_append]⟩
  | @measured t a _ _ _ next ih =>
      obtain ⟨before, kind', text', cause, hCause, hDone⟩ := ih hResult
      exact ⟨⟨.measure t, some a⟩ :: before, kind', text', cause, hCause,
        by rw [hDone, List.cons_append]⟩

/-- A session is without a result while its last deed is not answered. -/
theorem waits_iff (h : Follows plan done result) :
    result = none ↔ ∃ before r, done = before ++ [⟨r, none⟩] := by
  have hLater {x : Exchange} {done : List Exchange} (hAnswer : x.2.isSome) :
      (∃ before r, x :: done = before ++ [⟨r, none⟩]) ↔
        ∃ before r, done = before ++ [⟨r, none⟩] := by
    constructor
    · rintro ⟨before, r, hEq⟩
      cases before with
      | nil => obtain ⟨rfl, _⟩ := List.cons.inj hEq; cases hAnswer
      | cons y before => exact ⟨before, r, (List.cons.inj hEq).2⟩
    · rintro ⟨before, r, rfl⟩
      exact ⟨x :: before, r, rfl⟩
  induction h with
  | finished r => simp
  | waiting r rest => exact iff_of_true rfl ⟨[], r, rfl⟩
  | cut kind text e rest => rw [hLater rfl]; simp
  | sent next ih => rw [hLater rfl]; exact ih
  | measured a next ih => rw [hLater rfl]; exact ih

/-- Success means that everything was carried out, tests that failed included. -/
theorem succeeds_iff (h : Follows plan done result) :
    (∃ r, result = some (.ok r)) ↔
      done.map Sigma.fst = plan ∧ ∀ x ∈ done, x.IsCarriedOut := by
  induction h with
  | finished r => simp
  | waiting r rest =>
      constructor
      · rintro ⟨_, hResult⟩
        cases hResult
      · rintro ⟨_, hAll⟩
        have hLast := hAll ⟨r, none⟩ List.mem_cons_self
        cases r <;> simp [Exchange.IsCarriedOut] at hLast
  | cut kind text e rest =>
      constructor
      · rintro ⟨_, hResult⟩
        cases hResult
      · rintro ⟨_, hAll⟩
        have hLast := hAll ⟨.send kind text, some (.error e)⟩ List.mem_cons_self
        simp [Exchange.IsCarriedOut] at hLast
  | sent next ih => simp [ih, Exchange.IsCarriedOut]
  | measured a next ih => simp [ih, Exchange.IsCarriedOut]

end Follows

/-- Whoever the host is, the deeds of a script follow a plan. The plan may depend on the rates that
the tests yield in the end; `r` holds those that were entered before the script. -/
def Keeps {σ : Type} (host : Host σ) (script : Script (Except SessionError SessionResult))
    (r : SessionResult) (plan : SessionResult → List Request) : Prop :=
  ∀ s, Follows (plan ((deeds (script.transcript host.answering s)).foldl enterRate r))
    (deeds (script.transcript host.answering s)) (script.run host.answering s).1

section Keeps

variable {σ : Type} {host : Host σ} {script : Script (Except SessionError SessionResult)}
  {r : SessionResult} {rest : SessionResult → List Request}

/-- An entry into the log is no deed. -/
theorem Keeps.note (h : Keeps host script r rest) (entry : Log.Entry) :
    Keeps host (.perform (.note entry) fun _ => script) r rest :=
  fun s => h (host.note entry s)

/-- An entry into the metrics is no deed either. -/
theorem Keeps.observe (h : Keeps host script r rest) (label : String) (rate : Binary64) :
    Keeps host (.perform (.observe label rate) fun _ => script) r rest :=
  fun s => h (host.observe label rate s)

theorem Keeps.sendAll (h : Keeps host script r rest) (messages : List (Kind × String)) :
    Keeps host (sendAll messages script) r
      (fun rates => messages.map Request.ofMessage ++ rest rates) := by
  induction messages with
  | nil => exact h
  | cons message messages ih =>
      intro s
      obtain ⟨kind, text⟩ := message
      simp only [Session.sendAll, Program.transcript, Program.run, Host.answering]
      obtain ⟨a, s'⟩ := host.send kind text s
      cases a with
      | none => exact .waiting _ _
      | some a =>
          cases a with
          | error e => exact .cut kind text e _
          | ok u => exact .sent (ih s')

/-- A test is measured once, and neither its failure nor its success keeps the next from being
measured. -/
theorem Keeps.measureAll {next : SessionResult → Script (Except SessionError SessionResult)}
    (h : ∀ r, Keeps host (next r) r rest) (name : Test → String) (r : SessionResult)
    (plan : List Test) :
    Keeps host (measureAll name r plan next) r
      (fun rates => plan.map Request.measure ++ rest rates) := by
  induction plan generalizing r with
  | nil => exact h r
  | cons t plan ih =>
      intro s
      simp only [Session.measureAll, Program.transcript, Program.run, Host.answering]
      obtain ⟨a, s'⟩ := host.measure t s
      cases a with
      | none => exact .waiting _ _
      | some a =>
          cases a with
          | error e => exact .measured (.error e) ((ih r).note (failureEntry name t e) s')
          | ok rate =>
              have hNext := (ih (r.record t rate)).observe t.label (toMegabits rate)
              exact .measured (.ok rate) (hNext s')

/-- Deeds that are no tests enter no rates. -/
theorem foldl_enterRate_eq_self {done : List Exchange} (h : ∀ x ∈ done, ∀ t, x.1 ≠ .measure t)
    (r : SessionResult) : done.foldl enterRate r = r := by
  induction done with
  | nil => rfl
  | cons x done ih =>
      have hFirst : enterRate r x = r := by
        obtain ⟨q, a⟩ := x
        cases q with
        | measure t => exact absurd rfl (h _ List.mem_cons_self t)
        | _ => rfl
      rw [List.foldl_cons, hFirst]
      exact ih fun y hy => h y (List.mem_cons_of_mem _ hy)

/-- The end of the agenda: the rates are reported as they stand. -/
theorem keeps_ending (host : Host σ) (r : SessionResult) :
    Keeps host (Session.sendAll (ending r) (.done (.ok r))) r
      (fun rates => (ending rates).map Request.ofMessage) := by
  have hDone : Keeps host (.done (.ok r)) r (fun _ => []) := fun _ => .finished r
  intro s
  have hFollows := hDone.sendAll (ending r) s
  -- The end of the agenda holds no test, so the rates are the same before and behind it.
  have hRates : (deeds ((Session.sendAll (ending r) (.done (.ok r))).transcript
      host.answering s)).foldl enterRate r = r := by
    apply foldl_enterRate_eq_self
    intro x hx t hTest
    have hMem := hFollows.requests_prefix.subset (List.mem_map_of_mem hx)
    simp [hTest, ending, Request.ofMessage] at hMem
  rw [hRates]
  simpa using hFollows

/-- The agenda as the session puts it together. -/
theorem agenda_eq (plan : List Test) (rates : SessionResult) :
    agenda plan rates =
      (opening plan).map Request.ofMessage
        ++ (plan.map Request.measure ++ (ending rates).map Request.ofMessage) := by
  have hLine : announcement plan = announcementLine plan := by
    unfold announcement announcementLine
    congr 1
    apply List.map_congr_left
    intro t _
    cases t <;> rfl
  simp [agenda, opening, ending, servedAtOnce, serverVersion, hLine, Request.ofMessage]

/-- Clients that have been admitted are served by the agenda. -/
theorem keeps_runAdmitted (host : Host σ) (name : Test → String) (client : String)
    (selection : Selection) :
    Keeps host (runAdmitted name client selection) .empty (agenda selection.plan) := by
  have hTests := Keeps.measureAll (fun r => (keeps_ending host r).note (resultEntry r)) name .empty
    selection.plan
  have hAll := (hTests.sendAll (opening selection.plan)).note (admissionEntry client selection)
  intro s
  rw [agenda_eq]
  exact hAll s

end Keeps

/-- A session that has admitted a client with the mask `bits` does what is on its agenda, in that
order and nothing else; it neither reads nor closes. A message that cannot be sent is its last deed,
and it ends with an error for no other reason. A test that fails is no such reason. The session is
without a result only as long as a deed is not answered, and it succeeds exactly when the whole
agenda has been carried out.

Nothing is assumed of the host. The mask is that of the login, which is a signed integer of 64
bits, so that the plan holds the tests whose codes are set in the two's complement. -/
theorem run_keeps_to_agenda {σ : Type} (host : Host σ) (name : Test → String) {s s' : σ}
    {reply : Except ProtocolError Frame} {m : Message} {bits : Int64}
    (hRead : host.read s = (some reply, s')) (hLogin : Admits reply m bits) :
    ∃ later, (run name).transcript host.answering s = ⟨.read, some reply⟩ :: later ∧
      let done := deeds later
      let plan := agenda (Selection.testsOfMask bits) (ratesOf done)
      let result := ((run name).run host.answering s).1
      done.map Sigma.fst <+: plan ∧
      (∀ before after kind text e,
        done = before ++ ⟨.send kind text, some (.error e)⟩ :: after →
          after = [] ∧ result = some (.error (.protocol e))) ∧
      (∀ e, result = some (.error e) →
        ∃ before kind text cause, e = .protocol cause ∧
          done = before ++ [⟨.send kind text, some (.error cause)⟩]) ∧
      (result = none ↔ ∃ before r, done = before ++ [⟨r, none⟩]) ∧
      ((∃ r, result = some (.ok r)) ↔
        done.map Sigma.fst = plan ∧ ∀ x ∈ done, x.IsCarriedOut) := by
  obtain e | f := reply
  · cases hLogin
  obtain ⟨hRun, hTranscript⟩ := run_of_screenLogin host name hRead (screenLogin_of_admits hLogin)
  have hFollows := keeps_runAdmitted host name m.msg ⟨bits.toInt⟩ s'
  rw [Selection.plan_eq_testsOfMask, ← hRun] at hFollows
  exact ⟨_, hTranscript, hFollows.requests_prefix, fun _ _ _ _ _ => hFollows.stops_at_failure,
    fun _ => hFollows.failure_of_error, hFollows.waits_iff, hFollows.succeeds_iff⟩

/-- A negative mask that asks for everything, on a connection where both tests fail. -/
theorem keeps_to_agenda_of_negative_mask :
    let login : Frame := .ofMessage .extendedLogin ⟨"v", some "-10"⟩
    let host : Host Unit := {
      read s := (some (.ok login), s)
      send _ _ s := (some (.ok ()), s)
      measure _ s := (some (.error (.ofMessage "no data connection")), s)
      close s := (some (.ok .released), s)
      note _ s := s
      observe _ _ s := s }
    Admits (.ok login) ⟨"v", some "-10"⟩ (-10) ∧
      ∃ later, (run Test.name).transcript host.answering () = ⟨.read, some (.ok login)⟩ :: later ∧
        (deeds later).map Sigma.fst <+:
          agenda (Selection.testsOfMask (-10)) (ratesOf (deeds later)) := by
  intro login host
  have hNumber : readInt64 "-10".toList = .ok (-10 : Int64).toInt := by rfl
  have hLogin : Admits (.ok login) ⟨"v", some "-10"⟩ (-10) :=
    .intro (Message.read_render ⟨"v", some "-10"⟩) hNumber (by decide)
  obtain ⟨later, hTranscript, hPrefix, _⟩ := run_keeps_to_agenda host Test.name (s := ()) rfl hLogin
  exact ⟨hLogin, later, hTranscript, hPrefix⟩

end SpeedTest.Session
