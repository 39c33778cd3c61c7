import SpeedTest.Proofs.Rations
import SpeedTest.Proofs.Session.Transport
import SpeedTest.SubTest.Loopback

/-! How often a session reads with the built-in tests: its login, and the report of the download in
time. Nothing is read behind a read that brought no frame. -/

namespace SpeedTest.Session

section Plans

variable {X : Type} {R : X → Type} {α : Type}

/-- A read has brought a frame. -/
def Effect.Delivers : (e : Effect X) → Response R e → Prop
  | .call .read, r => ∃ f, r = .ok f
  | .call .readInTime, r => ∃ f, r = some (.ok f)
  | _, _ => False

/-- A program reads as a plan says, and not behind a read that has brought no frame. -/
abbrev ReadsBy (plan : List (Effect X)) (p : Program (Effect X) (Response R) α) : Prop :=
  p.Rations Effect.isRead Effect.Delivers plan

end Plans

end SpeedTest.Session

namespace SpeedTest.SubTest

open Session (Effect ReadsBy embed)

section Courses

variable {X : Type} {R : X → Type} {α : Type}

/-- A part of a test reads as a plan says. -/
abbrev CourseReadsBy (plan : List (Call X)) (p : Course R α) : Prop :=
  p.Rations (fun c => (Effect.call c).isRead) (fun c r => (Effect.call c).Delivers r) plan

theorem readsBy_embed {plan : List (Call X)} {course : Course R α}
    (h : CourseReadsBy plan course) : ReadsBy (plan.map .call) (embed course) := by
  induction h with
  | done plan a => exact .done _ a
  | idle hCounts _ ih => exact .idle hCounts ih
  | spend hCounts _ _ ihGood ihBad => exact .spend hCounts ihGood ihBad

end Courses

variable {plan : List (Call DataRequest)} {next : Measurement}

theorem readsBy_say (kind : Kind) (text : String) (h : CourseReadsBy plan next) :
    CourseReadsBy plan (say kind text next) := by
  refine .idle rfl fun r => ?_
  cases r with
  | error e => exact .done plan _
  | ok _ => exact h

theorem readsBy_openChannel (source : Log.Source) (label : String) (config : ServerConfig)
    (h : CourseReadsBy plan next) : CourseReadsBy plan (openChannel source label config next) := by
  refine .idle rfl fun port => ?_
  cases port with
  | error e => exact .done plan _
  | ok port =>
      refine .idle rfl fun _ => readsBy_say _ _ (.idle rfl fun client => ?_)
      rcases client with _ | e | _
      · exact .done plan _
      · exact .done plan _
      · exact readsBy_say _ _ h

theorem readsBy_settle (t : Transfer) (h : CourseReadsBy plan next) :
    CourseReadsBy plan (settle t next) := by
  refine .idle rfl fun _ => ?_
  cases t.outcome with
  | error e => exact .done plan _
  | ok _ => exact h

theorem readsBy_upload (config : ServerConfig) : CourseReadsBy [] (uploadCourse config) := by
  refine readsBy_openChannel _ _ _ (.idle rfl fun t => readsBy_settle t (.idle rfl fun _ => ?_))
  exact readsBy_say _ _ (readsBy_say _ _ (.done [] _))

theorem readsBy_chooseRate (text : String) (own : Binary64) {next : Binary64 → Measurement}
    (h : ∀ rate, CourseReadsBy plan (next rate)) :
    CourseReadsBy plan (chooseRate text own next) := by
  unfold chooseRate
  split
  · exact h _
  · exact .idle rfl fun _ => h _

/-- Whatever comes of the report, nothing is read behind it. -/
theorem readsBy_awaitReport {next : String → Measurement}
    (h : ∀ text, CourseReadsBy [] (next text)) :
    CourseReadsBy [.readInTime] (awaitReport next) := by
  refine .spend rfl (fun r _ => ?_) fun r _ => ?_
  all_goals
    rcases r with _ | e | f
    · exact .done [] _
    · exact .done [] _
    · dsimp only
      cases f.toMessage .testMessage with
      | error e => exact .done [] _
      | ok m => exact h m.msg

theorem readsBy_download (config : ServerConfig) :
    CourseReadsBy [.readInTime] (downloadCourse config) := by
  refine readsBy_openChannel _ _ _ (.idle rfl fun t => readsBy_settle t (readsBy_say _ _ ?_))
  refine readsBy_awaitReport fun text => readsBy_chooseRate _ _ fun rate => ?_
  exact readsBy_say _ _ (.idle rfl fun _ => .done [] _)

end SpeedTest.SubTest

namespace SpeedTest.Session

open SubTest (DataRequest DataReply builtIn)
open Program (Rations)

section BuiltIn

variable {α : Type} {plan : List (Effect DataRequest)} {config : ServerConfig}

theorem readsBy_sendAll {next : Script (Except SessionError α)}
    (h : ReadsBy plan (staged (builtIn config) next)) (messages : List (Kind × String)) :
    ReadsBy plan (staged (builtIn config) (sendAll messages next)) := by
  induction messages with
  | nil => exact h
  | cons message messages ih =>
      refine .idle rfl fun r => ?_
      cases r with
      | error e => exact .done plan _
      | ok _ => exact ih

section Tests

variable {name : Test → String} {next : SessionResult → Script α} {t : Test} {rest : List Test}

/-- The plan is for the tests behind the first one. -/
theorem readsBy_measureAll_rest (hTest : ReadsBy [] (embed ((builtIn config).get t).course))
    (hRest : ∀ r, ReadsBy plan (staged (builtIn config) (measureAll name r rest next)))
    (r : SessionResult) :
    ReadsBy plan (staged (builtIn config) (measureAll name r (t :: rest) next)) := by
  refine Rations.bind_right hTest fun outcome => ?_
  cases outcome with
  | ok rate => exact .idle rfl fun _ => hRest _
  | error e => exact .idle rfl fun _ => hRest r

/-- The plan is for the first test. -/
theorem readsBy_measureAll_first (hTest : ReadsBy plan (embed ((builtIn config).get t).course))
    (hRest : ∀ r, ReadsBy [] (staged (builtIn config) (measureAll name r rest next)))
    (r : SessionResult) :
    ReadsBy plan (staged (builtIn config) (measureAll name r (t :: rest) next)) := by
  refine Rations.bind_left hTest fun outcome => ?_
  cases outcome with
  | ok rate => exact .idle rfl fun _ => hRest _
  | error e => exact .idle rfl fun _ => hRest r

theorem readsBy_upload (config : ServerConfig) :
    ReadsBy [] (embed ((builtIn config).get .upload).course) :=
  SubTest.readsBy_embed (SubTest.readsBy_upload config)

theorem readsBy_download (config : ServerConfig) :
    ReadsBy [.call .readInTime] (embed ((builtIn config).get .download).course) :=
  SubTest.readsBy_embed (SubTest.readsBy_download config)

theorem readsBy_measureAll_of_not_mem
    (h : ∀ r, ReadsBy [] (staged (builtIn config) (next r))) {tests : List Test}
    (hTests : .download ∉ tests) (r : SessionResult) :
    ReadsBy [] (staged (builtIn config) (measureAll name r tests next)) := by
  induction tests generalizing r with
  | nil => exact h r
  | cons t rest ih =>
      have hRest : .download ∉ rest := fun h => hTests (List.mem_cons_of_mem t h)
      cases t with
      | download => exact absurd List.mem_cons_self hTests
      | upload => exact readsBy_measureAll_rest (readsBy_upload config) (ih hRest) r

/-- The download is the only test that reads, and there is no second one. -/
theorem readsBy_measureAll (h : ∀ r, ReadsBy [] (staged (builtIn config) (next r)))
    {tests : List Test} (hTests : tests.Nodup) (r : SessionResult) :
    ReadsBy [.call .readInTime] (staged (builtIn config) (measureAll name r tests next)) := by
  induction tests generalizing r with
  | nil => exact (h r).of_nil _
  | cons t rest ih =>
      obtain ⟨hFirst, hRest⟩ := List.nodup_cons.mp hTests
      cases t with
      | upload => exact readsBy_measureAll_rest (readsBy_upload config) (ih hRest) r
      | download =>
          exact readsBy_measureAll_first (readsBy_download config)
            (readsBy_measureAll_of_not_mem h hFirst) r

end Tests

theorem readsBy_runAdmitted (name : Test → String) (client : String) (selection : Selection) :
    ReadsBy [.call .readInTime]
      (staged (builtIn config) (runAdmitted name client selection)) := by
  have hNodup : selection.plan.Nodup := List.filter_sublist.nodup (by decide)
  refine .idle rfl fun _ => readsBy_sendAll (readsBy_measureAll (fun r => ?_) hNodup .empty) _
  exact .idle rfl fun _ => readsBy_sendAll (.done [] _) _

theorem readsBy_run (name : Test → String) :
    ReadsBy [.call .read, .call .readInTime] (staged (builtIn config) (run name)) := by
  refine .spend rfl (fun r _ => ?_) fun r hBad => ?_
  · cases r with
    | error e => exact .done _ _
    | ok f =>
        simp only [Program.bind]
        cases screenLogin f with
        | error e => exact .done _ _
        | ok login => exact readsBy_runAdmitted name login.1 login.2
  · cases r with
    | error e => exact .done _ _
    | ok f => exact absurd ⟨f, rfl⟩ hBad

/-- A session with its closing reads its login, and the report of the download. -/
theorem readsBy_course (config : ServerConfig) (c : Connection) :
    ReadsBy [.call .read, .call .readInTime] (course (builtIn config) c) := by
  rw [course, serve, staged, Program.interpret_bind]
  refine Rations.bind_left (readsBy_run _) fun outcome => ?_
  refine .idle rfl fun _ => .idle rfl fun closing => ?_
  cases closing with
  | ok _ => exact .done [] _
  | error e => exact .idle rfl fun _ => .done [] _

end BuiltIn

end SpeedTest.Session
