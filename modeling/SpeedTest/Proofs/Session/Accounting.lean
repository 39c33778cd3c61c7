import Mathlib.Data.List.Nodup
import SpeedTest.Proofs.Session.Agenda
import SpeedTest.Proofs.Session.Raw

/-! The books of a session. What the tests come to is told three times: in the result, in the line
that is sent to the client, and in the metrics. The main statement is that the three agree, whoever
the host is and whatever the tests do. -/

namespace SpeedTest.Session

open Program (Answering)

/-- The tests that have come to an end, in order, each with what it came to. -/
def endings (exchanges : List Exchange) : List (Test × Except Failure Binary64) :=
  exchanges.filterMap fun
    | ⟨.measure t, some a⟩ => some (t, a)
    | _ => none

/-- The entries into the metrics, in order. -/
def observations (exchanges : List Exchange) : List (String × Binary64) :=
  exchanges.filterMap fun
    | ⟨.observe label rate, _⟩ => some (label, rate)
    | _ => none

/-- The lines with results that the session has tried to send, and what became of them. -/
def reports (exchanges : List Exchange) : List (String × Option (Except ProtocolError Unit)) :=
  exchanges.filterMap fun
    | ⟨.send .results text, a⟩ => some (text, a)
    | _ => none

/-- The entry that a test deserves: one thousandth of its rate, if it has succeeded. -/
def metric? : Test × Except Failure Binary64 → Option (String × Binary64)
  | (.upload, .ok rate) => some ("c2s", rate.div (.ofNat 1000))
  | (.download, .ok rate) => some ("s2c", rate.div (.ofNat 1000))
  | (_, .error _) => none

@[simp] theorem metric?_ok (t : Test) (rate : Binary64) :
    metric? (t, .ok rate) = some (t.label, toMegabits rate) := by
  cases t <;> rfl

@[simp] theorem metric?_error (t : Test) (e : Failure) : metric? (t, .error e) = none := by
  cases t <;> rfl

/-- The rate of a test, which is zero if it has failed or was not run. -/
def rateIn (ended : List (Test × Except Failure Binary64)) (t : Test) : Binary64 :=
  match ended.lookup t with
  | some (.ok rate) => rate
  | _ => .zero

/-- The rate that a result holds for a test. -/
def resultRate (r : SessionResult) : Test → Binary64
  | .upload => r.upload
  | .download => r.download

theorem resultRate_record (r : SessionResult) (t t' : Test) (rate : Binary64) :
    resultRate (r.record t rate) t' = if t' = t then rate else resultRate r t' := by
  cases t <;> cases t' <;> rfl

/-- Enter what a test has come to. -/
def enterEnding (r : SessionResult) : Test × Except Failure Binary64 → SessionResult
  | (t, .ok rate) => r.record t rate
  | (_, .error _) => r

theorem foldl_enterRate (exchanges : List Exchange) (r : SessionResult) :
    exchanges.foldl enterRate r = (endings exchanges).foldl enterEnding r := by
  induction exchanges generalizing r with
  | nil => rfl
  | cons x rest ih =>
      rw [List.foldl_cons, ih]
      obtain ⟨q, a⟩ := x
      cases q with
      | measure t =>
          rcases a with _ | e | rate <;> rfl
      | _ => rfl

/-- Where no test has ended twice, a test has the rate that it came to, or the one from before. -/
theorem resultRate_foldl {ended : List (Test × Except Failure Binary64)}
    (h : (ended.map Prod.fst).Nodup) (r : SessionResult) (t : Test) :
    resultRate (ended.foldl enterEnding r) t =
      match ended.lookup t with
      | some (.ok rate) => rate
      | _ => resultRate r t := by
  induction ended generalizing r with
  | nil => rfl
  | cons x rest ih =>
      obtain ⟨t', a⟩ := x
      rw [List.map_cons, List.nodup_cons] at h
      rw [List.foldl_cons, ih h.2]
      by_cases hTest : t = t'
      · subst hTest
        have hOnce : rest.lookup t = none := by
          rw [List.lookup_eq_none_iff]
          intro y hy
          refine bne_iff_ne.mpr fun hSame => h.1 ?_
          exact List.mem_map.mpr ⟨y, hy, hSame.symm⟩
        rw [hOnce]
        cases a with
        | error e => simp [enterEnding]
        | ok rate => simp [enterEnding, resultRate_record]
      · rw [List.lookup_cons]
        have hOther : (t == t') = false := by simpa using hTest
        rw [hOther]
        cases a with
        | error e => rfl
        | ok rate => simp [enterEnding, resultRate_record, hTest]

/-- Whoever the host is, a script enters into the metrics what its tests deserve, and a result of it
holds their rates on top of `r`. -/
def Accounts {σ : Type} (host : Host σ) (script : Script (Except SessionError SessionResult))
    (r : SessionResult) : Prop :=
  ∀ s, observations (script.transcript host.answering s) =
      (endings (script.transcript host.answering s)).filterMap metric? ∧
    ∀ r', (script.run host.answering s).1 = some (.ok r') →
      r' = (endings (script.transcript host.answering s)).foldl enterEnding r

section Accounts

variable {σ : Type} {host : Host σ} {script : Script (Except SessionError SessionResult)}
  {r : SessionResult}

theorem Accounts.note (h : Accounts host script r) (entry : Log.Entry) :
    Accounts host (.perform (.note entry) fun _ => script) r :=
  fun s => h (host.note entry s)

theorem Accounts.sendAll (h : Accounts host script r) (messages : List (Kind × String)) :
    Accounts host (sendAll messages script) r := by
  induction messages with
  | nil => exact h
  | cons message messages ih =>
      intro s
      obtain ⟨kind, text⟩ := message
      simp only [Session.sendAll, Program.transcript, Program.run, Host.answering]
      obtain ⟨a, s'⟩ := host.send kind text s
      rcases a with _ | e | u
      · exact ⟨rfl, fun r' hResult => by cases hResult⟩
      · exact ⟨rfl, fun r' hResult => by cases hResult⟩
      · exact ih s'

/-- A test that succeeds is entered right behind it, and one that fails is not. -/
theorem Accounts.measureAll {next : SessionResult → Script (Except SessionError SessionResult)}
    (h : ∀ r, Accounts host (next r) r) (name : Test → String) (r : SessionResult)
    (plan : List Test) : Accounts host (measureAll name r plan next) r := by
  induction plan generalizing r with
  | nil => exact h r
  | cons t plan ih =>
      intro s
      simp only [Session.measureAll, Program.transcript, Program.run, Host.answering]
      obtain ⟨a, s'⟩ := host.measure t s
      rcases a with _ | e | rate
      · exact ⟨rfl, fun r' hResult => by cases hResult⟩
      · obtain ⟨hBooks, hResult⟩ := (ih r).note (failureEntry name t e) s'
        refine ⟨?_, hResult⟩
        simpa [observations, endings] using hBooks
      · obtain ⟨hBooks, hResult⟩ := ih (r.record t rate) (host.observe t.label (toMegabits rate) s')
        refine ⟨?_, hResult⟩
        simpa [observations, endings, Program.transcript, Host.answering] using hBooks

theorem accounts_runAdmitted (host : Host σ) (name : Test → String) (client : String)
    (selection : Selection) : Accounts host (runAdmitted name client selection) .empty := by
  have hDone (r : SessionResult) : Accounts host (.done (.ok r)) r :=
    fun s => ⟨rfl, fun r' hResult => (Except.ok.inj (Option.some.inj hResult)).symm⟩
  have hEnding (r : SessionResult) := ((hDone r).sendAll (ending r)).note (resultEntry r)
  have hTests := Accounts.measureAll hEnding name .empty selection.plan
  exact (hTests.sendAll (opening selection.plan)).note (admissionEntry client selection)

end Accounts

/-- The line of a request to send results. -/
def resultLine? : Request → Option String
  | .send .results text => some text
  | _ => none

/-- The test of a request to measure. -/
def measured? : Request → Option Test
  | .measure t => some t
  | _ => none

/-- An agenda holds the tests of its plan. -/
theorem tests_agenda (plan : List Test) (rates : SessionResult) :
    (agenda plan rates).filterMap measured? = plan := by
  have hPlan : (plan.map Request.measure).filterMap measured? = plan := by
    rw [List.filterMap_map]
    exact List.filterMap_some
  simp only [agenda, List.filterMap_append, hPlan]
  exact List.append_nil plan

/-- An agenda holds one line with results. -/
theorem lines_agenda (plan : List Test) (rates : SessionResult) :
    (agenda plan rates).filterMap resultLine? = [rates.summary] := by
  have hPlan : (plan.map Request.measure).filterMap resultLine? = [] := by
    rw [List.filterMap_map, List.filterMap_eq_nil_iff]
    exact fun _ _ => rfl
  simp only [agenda, List.filterMap_append, hPlan]
  rfl

namespace Follows

variable {plan : List Request} {done : List Exchange}
  {result : Option (Except SessionError SessionResult)}

/-- The tests that have ended are the first of the plan, and all of it behind a success. -/
theorem endings_prefix (h : Follows plan done result) :
    (endings done).map Prod.fst <+: plan.filterMap measured? ∧
      ∀ r, result = some (.ok r) → (endings done).map Prod.fst = plan.filterMap measured? := by
  induction h with
  | finished r => exact ⟨List.prefix_refl _, fun _ _ => rfl⟩
  | waiting r rest =>
      refine ⟨?_, fun r hResult => by cases hResult⟩
      cases r <;> exact List.nil_prefix
  | cut kind text e rest => exact ⟨List.nil_prefix, fun r hResult => by cases hResult⟩
  | sent next ih => exact ih
  | measured a next ih =>
      exact ⟨(List.prefix_cons_inj _).mpr ih.1, fun r hResult => congrArg _ (ih.2 r hResult)⟩

/-- Behind a success every line of the plan has been sent. -/
theorem reports_of_ok (h : Follows plan done result) {r : SessionResult}
    (hResult : result = some (.ok r)) :
    reports done = (plan.filterMap resultLine?).map fun text => (text, some (.ok ())) := by
  induction h with
  | finished r => rfl
  | waiting r rest => cases hResult
  | cut kind text e rest => cases hResult
  | @sent kind text rest done result next ih =>
      have hRest := ih hResult
      cases kind with
      | results => exact congrArg _ hRest
      | _ => exact hRest
  | measured a next ih => exact ih hResult

end Follows

/-- What entries into the log and the metrics do not tell can be read off the deeds alone. -/
theorem filterMap_deeds {β : Type} {g : Exchange → Option β}
    (h : ∀ x, x.1.isDeed = false → g x = none) (exchanges : List Exchange) :
    (deeds exchanges).filterMap g = exchanges.filterMap g := by
  rw [deeds, List.filterMap_filter]
  congr 1
  funext x
  cases hDeed : x.1.isDeed with
  | false => rw [h x hDeed]; rfl
  | true => rfl

theorem endings_deeds (exchanges : List Exchange) :
    endings (deeds exchanges) = endings exchanges := by
  refine filterMap_deeds ?_ exchanges
  rintro ⟨q, a⟩ hDeed
  cases q <;> trivial

theorem reports_deeds (exchanges : List Exchange) :
    reports (deeds exchanges) = reports exchanges := by
  refine filterMap_deeds ?_ exchanges
  rintro ⟨q, a⟩ hDeed
  cases q <;> trivial

theorem nodup_testsOfMask (bits : Int64) : (Selection.testsOfMask bits).Nodup := by
  unfold Selection.testsOfMask
  split <;> split <;> decide

/-- A result that was put together test by test holds the rate of each. -/
theorem eq_of_enterEndings {ended : List (Test × Except Failure Binary64)}
    (h : (ended.map Prod.fst).Nodup) :
    ended.foldl enterEnding .empty = ⟨rateIn ended .upload, rateIn ended .download⟩ := by
  have hUpload : (ended.foldl enterEnding .empty).upload = rateIn ended .upload :=
    resultRate_foldl h .empty .upload
  have hDownload : (ended.foldl enterEnding .empty).download = rateIn ended .download :=
    resultRate_foldl h .empty .download
  rw [← hUpload, ← hDownload]

/-- A test that has failed leaves no rate and no entry. -/
theorem metrics_of_error {ended : List (Test × Except Failure Binary64)}
    (h : (ended.map Prod.fst).Nodup) {t : Test} {e : Failure} (hError : (t, .error e) ∈ ended) :
    rateIn ended t = .zero ∧ t.label ∉ (ended.filterMap metric?).map Prod.fst := by
  have hOnly {a : Except Failure Binary64} (ha : (t, a) ∈ ended) : a = .error e :=
    congrArg Prod.snd (List.inj_on_of_nodup_map h ha hError rfl)
  constructor
  · unfold rateIn
    split
    · rename_i rate hLookup
      obtain ⟨before, after, rfl, -⟩ := List.lookup_eq_some_iff.mp hLookup
      cases hOnly (List.mem_append_right before List.mem_cons_self)
    · rfl
  · intro hLabel
    obtain ⟨⟨label, rate⟩, hEntry, rfl⟩ := List.mem_map.mp hLabel
    obtain ⟨⟨t', a⟩, hEnded, hMetric⟩ := List.mem_filterMap.mp hEntry
    cases a with
    | error e' => simp at hMetric
    | ok rate' =>
        simp only [metric?_ok, Option.some.injEq, Prod.mk.injEq] at hMetric
        have hTest : t' = t := by
          cases t <;> cases t' <;> simp [Test.label] at hMetric ⊢
        subst hTest
        cases hOnly hEnded

/-- What the books of a session hold, whoever the host is. -/
theorem books_of_admits {σ : Type} (host : Host σ) (name : Test → String) {s s' : σ}
    {reply : Except ProtocolError Frame} {m : Message} {bits : Int64}
    (hRead : host.read s = (some reply, s')) (hLogin : Admits reply m bits)
    {exchanges : List Exchange} (hExchanges : (run name).transcript host.answering s = exchanges) :
    (endings exchanges).map Prod.fst <+: Selection.testsOfMask bits ∧
      observations exchanges = (endings exchanges).filterMap metric? ∧
      ∀ r, ((run name).run host.answering s).1 = some (.ok r) →
        (endings exchanges).map Prod.fst = Selection.testsOfMask bits ∧
          r = ⟨rateIn (endings exchanges) .upload, rateIn (endings exchanges) .download⟩ ∧
          reports exchanges = [(r.summary, some (.ok ()))] := by
  obtain e | f := reply
  · cases hLogin
  obtain ⟨hRun, hTranscript⟩ := run_of_screenLogin host name hRead (screenLogin_of_admits hLogin)
  have hFollows := keeps_runAdmitted host name m.msg ⟨bits.toInt⟩ s'
  obtain ⟨hBooks, hResult⟩ := accounts_runAdmitted host name m.msg ⟨bits.toInt⟩ s'
  rw [Selection.plan_eq_testsOfMask, foldl_enterRate, endings_deeds] at hFollows
  rw [← hExchanges, hTranscript, hRun]
  generalize (runAdmitted name m.msg ⟨bits.toInt⟩).transcript host.answering s' = later at *
  generalize ((runAdmitted name m.msg ⟨bits.toInt⟩).run host.answering s').1 = result at *
  -- The books of the later exchanges are those of all, since the login is no entry.
  show (endings later).map Prod.fst <+: _ ∧ observations later = (endings later).filterMap metric? ∧
    ∀ r, result = some (.ok r) → (endings later).map Prod.fst = _ ∧
      r = ⟨rateIn (endings later) .upload, rateIn (endings later) .download⟩ ∧
      reports later = [(r.summary, some (.ok ()))]
  obtain ⟨hPrefix, hAll⟩ := hFollows.endings_prefix
  rw [endings_deeds, tests_agenda] at hPrefix hAll
  have hNodup : ((endings later).map Prod.fst).Nodup :=
    hPrefix.sublist.nodup (nodup_testsOfMask bits)
  refine ⟨hPrefix, hBooks, fun r hOk => ?_⟩
  have hRates := hResult r hOk
  have hReports := hFollows.reports_of_ok hOk
  rw [reports_deeds, lines_agenda, ← hRates] at hReports
  exact ⟨hAll r hOk, hRates.trans (eq_of_enterEndings hNodup), hReports⟩

section Stage

variable {X : Type} {R : X → Type} {ξ α : Type} (world : Answering X R ξ)

/-- A test cannot reach the metrics. -/
theorem observed_answerCall (c : SubTest.Call X) (s : Surroundings ξ) :
    (answerCall world c s).2.observed = s.observed := by
  cases c with
  | close =>
      simp only [answerCall, Surroundings.close]
      split
      · rename_i hClose
        exact congrArg (fun x => x.2.observed) hClose.symm
      · rfl
  | _ => rfl

theorem observed_course (course : SubTest.Course R α) (s : Surroundings ξ) :
    (course.run (answerCall world) s).2.observed = s.observed := by
  induction course generalizing s with
  | done a => rfl
  | perform c next ih =>
      have hCall := observed_answerCall world c s
      rw [Program.run]
      generalize answerCall world c s = x at hCall ⊢
      obtain ⟨r, s'⟩ := x
      cases r with
      | none => exact hCall
      | some r => exact (ih r s').trans hCall

theorem observations_answering (tests : Tests R) (q : Request) (s : Surroundings ξ)
    (a : Option (Answer q)) :
    ((Host.onStage tests world).answering q s).2.observations =
      s.observations ++ observations [⟨q, a⟩] := by
  cases q with
  | observe label rate => exact List.reverse_cons
  | measure t =>
      have hObserved := observed_course world (tests.get t).course s
      exact (congrArg List.reverse hObserved).trans (List.append_nil _).symm
  | close =>
      have hObserved := observed_answerCall world .close s
      exact (congrArg List.reverse hObserved).trans (List.append_nil _).symm
  | _ => exact (List.append_nil _).symm

/-- On a connection the metrics hold the entries of the session and no others. -/
theorem observations_run (tests : Tests R) (script : Script α) (s : Surroundings ξ) :
    (script.run (Host.onStage tests world).answering s).2.observations =
      s.observations ++
        observations (script.transcript (Host.onStage tests world).answering s) := by
  induction script generalizing s with
  | done a => exact (List.append_nil _).symm
  | perform q next ih =>
      have hStep := observations_answering world tests q s
      simp only [Program.run, Program.transcript]
      generalize (Host.onStage tests world).answering q s = x at hStep ⊢
      obtain ⟨r, s'⟩ := x
      cases r with
      | none => exact hStep none
      | some r =>
          rw [ih r s', hStep (some r), List.append_assoc, observations, observations,
            ← List.filterMap_append]
          rfl

end Stage

/-- The books of a session on a connection whose first frame is a welcome login with the mask
`bits`. The tests and the world are arbitrary, so the tests may fail, wait for ever, or use the
connection in any way.

Of the tests that the mask asks for, those that have ended are the first, in that order. The
metrics hold what each of them deserves and nothing else: one entry, with its label and a thousandth
of its rate, if it has succeeded, and none if it has failed or was not asked for. This holds however
the session ends, and also while it waits.

A session that succeeds has run the whole plan. Its result holds for each test the rate that the
test has yielded, or zero if it has failed or was not asked for, and one line with results has been
sent, which tells that result. -/
theorem run_accounts {X : Type} {R : X → Type} {ξ : Type} (tests : Tests R)
    (world : Answering X R ξ) {s : Surroundings ξ} {c : Connection} {login : Frame} {m : Message}
    {bits : Int64} (hRead : Connection.read s.connection = (.done login, c))
    (hLogin : Admits (.ok login) m bits) :
    let exchanges := (run fun t => (tests.get t).name).transcript
      (Host.onStage tests world).answering s
    let ended := endings exchanges
    let outcome := runOn tests world s
    ended.map Prod.fst <+: Selection.testsOfMask bits ∧
      outcome.2.observations = s.observations ++ ended.filterMap metric? ∧
      (∀ t e, (t, .error e) ∈ ended →
        rateIn ended t = .zero ∧ t.label ∉ (ended.filterMap metric?).map Prod.fst) ∧
      ∀ r, outcome.1 = some (.ok r) →
        ended.map Prod.fst = Selection.testsOfMask bits ∧
          r = ⟨rateIn ended .upload, rateIn ended .download⟩ ∧
          reports exchanges = [(r.summary, some (.ok ()))] := by
  intro exchanges ended outcome
  have hReply : (Host.onStage tests world).read s =
      (some (.ok login), { s with connection := c }) := by
    simp only [Host.onStage, Surroundings.onConnection, hRead]
    rfl
  obtain ⟨hPrefix, hBooks, hRates⟩ :=
    books_of_admits (Host.onStage tests world) _ hReply hLogin (rfl : _ = exchanges)
  have hNodup : (ended.map Prod.fst).Nodup := hPrefix.sublist.nodup (nodup_testsOfMask bits)
  have hPlay : outcome =
      (run fun t => (tests.get t).name).run (Host.onStage tests world).answering s :=
    play_eq_run tests world _ s
  have hObserved : outcome.2.observations = s.observations ++ observations exchanges :=
    hPlay ▸ observations_run world tests _ s
  rw [← hPlay] at hRates
  exact ⟨hPrefix, hBooks ▸ hObserved, fun t e => metrics_of_error hNodup, hRates⟩

/-- A client whose login asks for both tests, of which the second fails. -/
theorem run_accounts_of_failing_download :
    let login : Frame := .ofMessage .extendedLogin ⟨"v", some "22"⟩
    let tests : Tests fun _ : Empty => Unit :=
      ⟨⟨"upload", .done (.ok (.ofNat 8000))⟩,
        ⟨"download", .done (.error (.ofMessage "no data connection"))⟩⟩
    let world : Answering Empty (fun _ => Unit) Unit := fun x _ => x.elim
    let stream : Stream := .ofArrivals [.chunk login.wire] .finished
    let s : Surroundings Unit := ⟨.ofPeekStream (.ofStream stream) none, [], [], ()⟩
    let ended := endings ((run fun t => (tests.get t).name).transcript
      (Host.onStage tests world).answering s)
    (∃ c, Connection.read s.connection = (.done login, c)) ∧
      Admits (.ok login) ⟨"v", some "22"⟩ 22 ∧
      ended.map Prod.fst <+: [.upload, .download] ∧
      (runOn tests world s).2.observations = ended.filterMap metric? := by
  intro login tests world stream s ended
  have hEncode : login.encode = .ok login.wire := by rfl
  have hSmooth : Arrival.Smooth [.chunk login.wire] := by
    intro a ha e hFailure
    simp [hFailure] at ha
  have hDelivers : (PeekStream.ofStream stream).Delivers (login.wire ++ [])
      (.ofArrivals [] .finished) := .ofStream hSmooth rfl
  obtain ⟨p, hFrame, -⟩ := Frame.readFrom_encode hEncode hDelivers
  have hRead : Connection.read s.connection = (.done login, ⟨.raw p, none, false⟩) := by
    simp only [s, Connection.read, Connection.onOpen, Connection.ofPeekStream, Channel.read, hFrame,
      Bool.false_eq_true, if_false]
  have hNumber : readInt64 "22".toList = .ok (22 : Int64).toInt := by rfl
  have hLogin : Admits (.ok login) ⟨"v", some "22"⟩ 22 :=
    .intro (Message.read_render ⟨"v", some "22"⟩) hNumber (by decide)
  obtain ⟨hPrefix, hObserved, -⟩ := run_accounts tests world hRead hLogin
  exact ⟨⟨_, hRead⟩, hLogin, hPrefix, hObserved⟩

end SpeedTest.Session
