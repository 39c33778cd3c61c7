import SpeedTest.Proofs.Number.Decimal
import SpeedTest.Proofs.Session.Accounting
import SpeedTest.Proofs.SubTest.Report

/-! What a client is told of its download. The line with results holds the rate that was chosen
between the client's report and the server's own measurement, to four places. It is a plain decimal
figure, save that a report of minus zero keeps its sign. -/

namespace SpeedTest.Session

open Program (Answering)
open SubTest (DataRequest DataReply Loopback builtIn Chosen)

theorem mem_of_mem_reports {exchanges : List Exchange} {text : String}
    {a : Option (Except ProtocolError Unit)} (h : (text, a) ∈ reports exchanges) :
    ⟨.send .results text, a⟩ ∈ exchanges := by
  obtain ⟨x, hMem, hReport⟩ := List.mem_filterMap.mp h
  split at hReport
  · cases hReport
    exact hMem
  · cases hReport

theorem mem_of_mem_endings {exchanges : List Exchange} {t : Test} {a : Except Failure Binary64}
    (h : (t, a) ∈ endings exchanges) : ⟨.measure t, some a⟩ ∈ exchanges := by
  obtain ⟨x, hMem, hEnding⟩ := List.mem_filterMap.mp h
  split at hEnding
  · cases hEnding
    exact hMem
  · cases hEnding

/-- A line with results tells what the tests have come to by then. -/
theorem summary_of_mem_reports {σ : Type} (host : Host σ) (name : Test → String) (s : σ)
    {exchanges : List Exchange} (hExchanges : (run name).transcript host.answering s = exchanges)
    {text : String} {a : Option (Except ProtocolError Unit)}
    (hReport : (text, a) ∈ reports exchanges) :
    text = SessionResult.summary
      ⟨rateIn (endings exchanges) .upload, rateIn (endings exchanges) .download⟩ := by
  subst hExchanges
  cases hRead : host.read s with
  | mk reply s' =>
      obtain _ | reply := reply
      · simp [run, Program.transcript, Host.answering, hRead, reports] at hReport
      obtain ⟨m, bits, hLogin⟩ | ⟨e, hRefused⟩ := admits_or_refuses reply
      · obtain e | f := reply
        · cases hLogin
        have hTranscript :=
          (run_of_screenLogin host name hRead (screenLogin_of_admits hLogin)).2
        have hFollows := keeps_runAdmitted host name m.msg ⟨bits.toInt⟩ s'
        rw [Selection.plan_eq_testsOfMask, foldl_enterRate, endings_deeds] at hFollows
        rw [hTranscript] at hReport ⊢
        generalize (runAdmitted name m.msg ⟨bits.toInt⟩).transcript host.answering s' = later at *
        have hPlan := hFollows.endings_prefix.1
        rw [endings_deeds, tests_agenda] at hPlan
        have hNodup : ((endings later).map Prod.fst).Nodup :=
          hPlan.sublist.nodup (nodup_testsOfMask bits)
        have hLater : (text, a) ∈ reports (deeds later) := by
          rw [reports_deeds]
          exact hReport
        have hAgenda := hFollows.requests_prefix.subset
          (List.mem_map_of_mem (mem_of_mem_reports hLater))
        have hLine := List.mem_filterMap.mpr ⟨_, hAgenda, (rfl : resultLine? _ = some text)⟩
        rw [lines_agenda, eq_of_enterEndings hNodup] at hLine
        exact List.mem_singleton.mp hLine
      · rw [(run_of_refuses host name hRead hRefused).2] at hReport
        cases hReport

/-- The rate of a test is that of one which has succeeded, or zero. -/
theorem rateIn_cases (ended : List (Test × Except Failure Binary64)) (t : Test) :
    (t, .ok (rateIn ended t)) ∈ ended ∨ rateIn ended t = .zero := by
  unfold rateIn
  split
  · rename_i rate hLookup
    obtain ⟨before, after, rfl, -⟩ := List.lookup_eq_some_iff.mp hLookup
    exact .inl (List.mem_append_right before List.mem_cons_self)
  · exact .inr rfl

section Stage

variable {ξ : Type} (config : ServerConfig) (world : Answering DataRequest DataReply ξ)

/-- A download that has ended well in a session has chosen its rate between what it has transferred
and what it has heard, on the connection as it was then. -/
theorem chosen_of_ended {α : Type} (script : Script α) (s : Surroundings ξ) {r : Binary64}
    (hEnded : (.download, .ok r) ∈
      endings (script.transcript (Host.onStage (builtIn config) world).answering s)) :
    ∃ s' x f m,
      (.measure .download, s') ∈
        script.visits (Host.onStage (builtIn config) world).answering s ∧
      ⟨.outside .transmit, some x⟩ ∈
        (SubTest.downloadCourse config).transcript (answerCall world) s' ∧
      ⟨.readInTime, some (some (.ok f))⟩ ∈
        (SubTest.downloadCourse config).transcript (answerCall world) s' ∧
      f.toMessage .testMessage = .ok m ∧ Chosen m.msg x.rate r := by
  obtain ⟨s', hVisit, hAnswer⟩ :=
    Program.exists_visit_of_mem_transcript _ script s (mem_of_mem_endings hEnded)
  have hCourse := Program.course_run (answerCall world) (SubTest.downloadCourse config) s'
  have hResult : ((SubTest.downloadCourse config).run (answerCall world) s').1 = some (.ok r) :=
    hAnswer
  rw [hResult] at hCourse
  obtain ⟨x, f, m, hMoved, hHeard, hMessage, hChosen⟩ := SubTest.chosen_of_download hCourse
  exact ⟨s', x, f, m, hVisit, hMoved, hHeard, hMessage, hChosen⟩

/-- A line with results tells the rate of the download to four places. If the download has ended
well, that is the number that the client has reported, as long as it is finite and not below zero,
and the server's own measurement otherwise, which is always finite and without a sign. The figure
has digits, a point and four more digits, and a minus sign where the client has reported minus zero
and nowhere else. -/
theorem results_tell_chosen_rate (s : Surroundings ξ) :
    let script := run fun t => ((builtIn config).get t).name
    let host := Host.onStage (builtIn config) world
    let exchanges := script.transcript host.answering s
    let rate := rateIn (endings exchanges) .download
    (∀ text a, (text, a) ∈ reports exchanges →
      text = "You uploaded at " ++ (rateIn (endings exchanges) .upload).fixed 4
        ++ " and downloaded at " ++ rate.fixed 4) ∧
    (∀ r, (.download, .ok r) ∈ endings exchanges →
      ∃ s' x f m, (.measure .download, s') ∈ script.visits host.answering s ∧
        ⟨.outside .transmit, some x⟩ ∈
          (SubTest.downloadCourse config).transcript (answerCall world) s' ∧
        ⟨.readInTime, some (some (.ok f))⟩ ∈
          (SubTest.downloadCourse config).transcript (answerCall world) s' ∧
        f.toMessage .testMessage = .ok m ∧ Chosen m.msg x.rate r ∧
        x.rate.isFinite = true ∧ x.rate.negative = false) ∧
    IsFigure rate.negative 4 (rate.fixed 4) ∧
    (rate.negative = true →
      rate.isZero = true ∧ (.download, .ok rate) ∈ endings exchanges) := by
  intro script host exchanges rate
  have hChosen (r : Binary64) (hEnded : (.download, .ok r) ∈ endings exchanges) :=
    chosen_of_ended config world script s hEnded
  have hRate : rate.isFinite = true ∧ (rate.negative = true →
      rate.isZero = true ∧ (.download, .ok rate) ∈ endings exchanges) := by
    rcases rateIn_cases (endings exchanges) .download with hEnded | hZero
    · obtain ⟨s', x, f, m, -, -, -, -, hRate⟩ := hChosen rate hEnded
      obtain ⟨hFinite, hSign⟩ := rate_isFinite x.bytes x.elapsed
      obtain ⟨hFinite', hSensible⟩ := hRate.sensible hFinite hSign
      exact ⟨hFinite', fun hNegative => ⟨hSensible hNegative, hEnded⟩⟩
    · have hSame : rate = .zero := hZero
      rw [hSame]
      exact ⟨by decide, fun hNegative => by cases hNegative⟩
  refine ⟨fun text a hReport => ?_, fun r hEnded => ?_, ?_, hRate.2⟩
  · rw [summary_of_mem_reports host _ s (rfl : _ = exchanges) hReport]
    show "You " ++ ("uploaded at " ++ _ ++ " and downloaded at " ++ rate.fixed 4) = _
    simp only [← String.append_assoc]
    rfl
  · obtain ⟨s', x, f, m, hVisit, hMoved, hHeard, hMessage, hChoice⟩ := hChosen r hEnded
    exact ⟨s', x, f, m, hVisit, hMoved, hHeard, hMessage, hChoice,
      rate_isFinite x.bytes x.elapsed⟩
  · exact Binary64.isFigure_fixed hRate.1 (by decide)

end Stage

/-- A client that reports minus zero, or a number below zero that is read as minus zero, is told of
a download with a minus sign. -/
theorem results_tell_minus_zero :
    let login : Frame := .ofMessage .extendedLogin ⟨"v", some "20"⟩
    let data : Stream := .ofArrivals [] .silent
    let client (text : String) : Stream :=
      .ofArrivals [.chunk login.wire, .chunk (Frame.ofMessage .testMessage (.ofText text)).wire]
        .silent
    let s (text : String) : Surroundings Loopback :=
      ⟨.ofPeekStream (.ofStream (client text)) none, [], [],
        .ofClient .default (.ok 4000) (some data)⟩
    let exchanges (text : String) := (run fun t => ((builtIn .default).get t).name).transcript
      (Host.onStage (builtIn .default) Loopback.answer).answering (s text)
    (∀ text ∈ ["-0", "-1e-400"], (reports (exchanges text)).map Prod.fst =
      ["You uploaded at 0.0000 and downloaded at -0.0000"]) ∧ ¬ IsFigure false 4 "-0.0000" := by
  intro login data client s exchanges
  refine ⟨by decide +kernel, ?_⟩
  rintro ⟨whole, fraction, hWhole, -, hDigits, hText⟩
  obtain ⟨c, whole, rfl⟩ := List.exists_cons_of_ne_nil hWhole
  obtain rfl : '-' = c := (List.cons.inj hText).1
  exact absurd (hDigits '-' List.mem_cons_self) (by decide)

end SpeedTest.Session
