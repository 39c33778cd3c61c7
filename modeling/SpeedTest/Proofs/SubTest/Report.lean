import SpeedTest.Proofs.Number.Magnitude
import SpeedTest.Proofs.SubTest.Agenda

/-! The rate of a download. The client's report counts if it is a finite number that is not below
zero, which minus zero is not, and otherwise the server's own measurement does. -/

namespace SpeedTest.SubTest

open Binary64

/-- A text reports a rate: without the blanks around it, it reads as that number, which is finite
and not below zero. A zero may have a sign. -/
structure Reports (text : String) (rate : Binary64) : Prop where
  reads : Binary64.read? (Text.trim text) = some rate
  finite : rate.isFinite = true
  sensible : rate.negative = true → rate.isZero = true

/-- The rate of a download whose client has reported a text: the one that the text reports, and the
server's own where it reports none. -/
inductive Chosen (text : String) (own : Binary64) : Binary64 → Prop
  | client {rate : Binary64} (h : Reports text rate) : Chosen text own rate
  | server (h : ∀ rate, ¬ Reports text rate) : Chosen text own own

/-- The numbers that are not below zero are those without a sign and both zeros. -/
theorem zero_le_iff {x : Binary64} (hFinite : x.isFinite = true) :
    Binary64.zero.le x = true ↔ (x.negative = true → x.isZero = true) := by
  have hNaN : Binary64.zero.isNaN = false := by decide
  have hKey : Binary64.zero.orderKey = 0 := by decide
  rw [Binary64.le, hNaN, hKey, isNaN_of_isFinite hFinite, orderKey, isZero]
  simp only [Bool.not_false, Bool.true_and, decide_eq_true_eq]
  by_cases hSign : x.negative = true
  · rw [if_pos hSign, forall_prop_of_true hSign]
    omega
  · rw [if_neg hSign]
    exact iff_of_true (Int.natCast_nonneg _) fun h => absurd h hSign

theorem reportedRate?_eq_some_iff (text : String) (rate : Binary64) :
    reportedRate? text = some rate ↔ Reports text rate := by
  unfold reportedRate?
  cases hRead : Binary64.read? (Text.trim text) with
  | none => exact iff_of_false nofun fun h => nomatch hRead.symm.trans h.reads
  | some x =>
      dsimp only
      constructor
      · intro h
        split at h
        · rename_i hSensible
          cases h
          obtain ⟨hFinite, hLe⟩ := (Bool.and_eq_true _ _).mp hSensible
          exact ⟨hRead, hFinite, (zero_le_iff hFinite).mp hLe⟩
        · cases h
      · intro h
        obtain rfl : x = rate := Option.some.inj (hRead.symm.trans h.reads)
        rw [h.finite, (zero_le_iff h.finite).mpr h.sensible]
        rfl

theorem chosen_getD (text : String) (own : Binary64) :
    Chosen text own ((reportedRate? text).getD own) := by
  cases hText : reportedRate? text with
  | some rate => exact .client ((reportedRate?_eq_some_iff text rate).mp hText)
  | none =>
      apply Chosen.server
      intro rate h
      rw [(reportedRate?_eq_some_iff text rate).mpr h] at hText
      cases hText

/-- A chosen rate is finite, and has a sign only if it is zero. -/
theorem Chosen.sensible {text : String} {own rate : Binary64} (h : Chosen text own rate)
    (hFinite : own.isFinite = true) (hSign : own.negative = false) :
    rate.isFinite = true ∧ (rate.negative = true → rate.isZero = true) := by
  cases h with
  | client h => exact ⟨h.finite, h.sensible⟩
  | server h => exact ⟨hFinite, fun hNegative => by rw [hSign] at hNegative; cases hNegative⟩

section Course

variable {next : Measurement} {done : List Exchange} {rate : Binary64}

theorem not_course_failed {e : Failure} : ¬ (failed e).Course done (some (.ok rate)) := by
  intro h
  cases h

/-- A test that succeeds has had an answer to its first call. -/
theorem exists_answer {c : Call DataRequest} {next : Reply DataReply c → Measurement}
    (h : (Program.perform c next).Course done (some (.ok rate))) :
    ∃ a rest, done = ⟨c, some a⟩ :: rest ∧ (next a).Course rest (some (.ok rate)) := by
  cases h with
  | answered a hNext => exact ⟨a, _, rfl, hNext⟩

theorem course_of_say {kind : Kind} {text : String}
    (h : (say kind text next).Course done (some (.ok rate))) :
    ∃ rest, rest <:+ done ∧ next.Course rest (some (.ok rate)) := by
  obtain ⟨a, rest, rfl, hNext⟩ := exists_answer h
  cases a with
  | error e => exact (not_course_failed hNext).elim
  | ok u => exact ⟨rest, List.suffix_cons _ _, hNext⟩

theorem course_of_settle {x : Transfer} (h : (settle x next).Course done (some (.ok rate))) :
    ∃ rest, rest <:+ done ∧ next.Course rest (some (.ok rate)) := by
  obtain ⟨a, rest, rfl, hNext⟩ := exists_answer h
  cases hOutcome : x.outcome with
  | error e =>
      rw [hOutcome] at hNext
      exact (not_course_failed hNext).elim
  | ok u =>
      rw [hOutcome] at hNext
      exact ⟨rest, List.suffix_cons _ _, hNext⟩

theorem course_of_openChannel {source : Log.Source} {label : String} {config : ServerConfig}
    (h : (openChannel source label config next).Course done (some (.ok rate))) :
    ∃ rest, rest <:+ done ∧ next.Course rest (some (.ok rate)) := by
  obtain ⟨bound, afterBind, rfl, hBind⟩ := exists_answer h
  cases bound with
  | error e => exact (not_course_failed hBind).elim
  | ok port =>
      obtain ⟨_, afterNote, rfl, hNote⟩ := exists_answer hBind
      obtain ⟨afterPrepare, hPrepare, hSaid⟩ := course_of_say hNote
      obtain ⟨accepted, afterAccept, rfl, hAccept⟩ := exists_answer hSaid
      obtain _ | e | u := accepted
      · exact (not_course_failed hAccept).elim
      · exact (not_course_failed hAccept).elim
      · obtain ⟨rest, hStart, hNext⟩ := course_of_say hAccept
        refine ⟨rest, ?_, hNext⟩
        exact hStart.trans ((List.suffix_cons _ _).trans
          (hPrepare.trans ((List.suffix_cons _ _).trans (List.suffix_cons _ _))))

/-- A report that is heard is the message of a frame that came in time. -/
theorem course_of_awaitReport {next : String → Measurement}
    (h : (awaitReport next).Course done (some (.ok rate))) :
    ∃ f m rest, ⟨.readInTime, some (some (.ok f))⟩ :: rest = done ∧
      f.toMessage .testMessage = .ok m ∧ (next m.msg).Course rest (some (.ok rate)) := by
  obtain ⟨a, rest, rfl, hNext⟩ := exists_answer h
  obtain _ | e | f := a
  · exact (not_course_failed hNext).elim
  · exact (not_course_failed hNext).elim
  · cases hMessage : f.toMessage .testMessage with
    | error e =>
        simp only [hMessage] at hNext
        exact (not_course_failed hNext).elim
    | ok m =>
        simp only [hMessage] at hNext
        exact ⟨f, m, rest, rfl, hMessage, hNext⟩

theorem course_of_chooseRate {text : String} {own : Binary64} {next : Binary64 → Measurement}
    (h : (chooseRate text own next).Course done (some (.ok rate))) :
    ∃ chosen rest, Chosen text own chosen ∧ (next chosen).Course rest (some (.ok rate)) := by
  have hChosen := chosen_getD text own
  unfold chooseRate at h
  cases hText : reportedRate? text with
  | some x =>
      rw [hText] at h hChosen
      exact ⟨x, done, hChosen, h⟩
  | none =>
      rw [hText] at h hChosen
      obtain ⟨_, rest, -, hNext⟩ := exists_answer h
      exact ⟨own, rest, hChosen, hNext⟩

/-- A download that succeeds has transferred something and heard a report, and its rate is chosen
between the two. -/
theorem chosen_of_download {config : ServerConfig}
    (h : (downloadCourse config).Course done (some (.ok rate))) :
    ∃ x f m, ⟨.outside .transmit, some x⟩ ∈ done ∧ ⟨.readInTime, some (some (.ok f))⟩ ∈ done ∧
      f.toMessage .testMessage = .ok m ∧ Chosen m.msg x.rate rate := by
  obtain ⟨afterOpen, hOpen, hOpened⟩ := course_of_openChannel h
  obtain ⟨x, afterMove, rfl, hMove⟩ := exists_answer hOpened
  obtain ⟨afterClose, hClose, hClosed⟩ := course_of_settle hMove
  obtain ⟨afterSay, hSay, hSaid⟩ := course_of_say hClosed
  obtain ⟨f, m, afterHear, rfl, hMessage, hHeard⟩ := course_of_awaitReport hSaid
  obtain ⟨chosen, afterChoice, hChosen, hChose⟩ := course_of_chooseRate hHeard
  obtain ⟨afterEnd, -, hEnd⟩ := course_of_say hChose
  obtain ⟨_, rest, -, hDone⟩ := exists_answer hEnd
  have hHears : ⟨.readInTime, some (some (.ok f))⟩ ∈ afterMove :=
    hClose.subset (hSay.subset List.mem_cons_self)
  refine ⟨x, f, m, hOpen.subset List.mem_cons_self, hOpen.subset (List.mem_cons_of_mem _ hHears),
    hMessage, ?_⟩
  cases hDone
  exact hChosen

end Course

end SpeedTest.SubTest
