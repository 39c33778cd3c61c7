import SpeedTest.Proofs.Program
import SpeedTest.Session.Stage

/-! What a session asks for, whatever the answers are: it reads once, at its start, and leaves
closing to whoever serves it. -/

namespace SpeedTest.Session

variable {X : Type} {R : X → Type} {α : Type}

section Scripts

variable {P : Request → Prop} (hP : ∀ r, r ≠ .read → r ≠ .close → P r)
include hP

theorem all_sendAll {next : Script (Except SessionError α)} (h : next.All P)
    (messages : List (Kind × String)) : (sendAll messages next).All P := by
  induction messages with
  | nil => exact h
  | cons message messages ih =>
      refine ⟨hP _ nofun nofun, fun a => ?_⟩
      cases a with
      | error e => trivial
      | ok u => exact ih

theorem all_measureAll {next : SessionResult → Script α} (h : ∀ r, (next r).All P)
    (name : Test → String) (r : SessionResult) (plan : List Test) :
    (measureAll name r plan next).All P := by
  induction plan generalizing r with
  | nil => exact h r
  | cons t plan ih =>
      refine ⟨hP _ nofun nofun, fun a => ?_⟩
      cases a with
      | error e => exact ⟨hP _ nofun nofun, fun _ => ih r⟩
      | ok rate =>
          exact ⟨hP _ nofun nofun, fun _ => ih (r.record t rate)⟩

/-- Behind the login a session neither reads nor closes. -/
theorem all_runAdmitted (name : Test → String) (client : String) (selection : Selection) :
    (runAdmitted name client selection).All P := by
  have hNote (entry : Log.Entry) : P (.note entry) := hP _ nofun nofun
  have hDone (r : SessionResult) :
      (.done (.ok r) : Script (Except SessionError SessionResult)).All P := trivial
  have hEnding (r : SessionResult) : (Program.perform (.note (resultEntry r)) fun _ =>
      sendAll (ending r) (.done (.ok r)) : Script (Except SessionError SessionResult)).All P :=
    ⟨hNote _, fun _ => all_sendAll hP (hDone r) (ending r)⟩
  have hTests := all_measureAll hP hEnding name .empty selection.plan
  exact ⟨hNote _, fun _ => all_sendAll hP hTests (opening selection.plan)⟩

/-- Whatever a session goes on with behind its first reply neither reads nor closes. -/
theorem exists_run_eq (name : Test → String) :
    ∃ next, run name = .perform .read next ∧ ∀ reply, (next reply).All P := by
  refine ⟨_, rfl, fun reply => ?_⟩
  cases reply with
  | error e => trivial
  | ok f =>
      dsimp only
      cases screenLogin f with
      | error e => trivial
      | ok login => exact all_runAdmitted hP name login.1 login.2

end Scripts

/-- A session leaves closing to others. -/
theorem run_neverCloses (name : Test → String) : (run name).All (· ≠ .close) := by
  obtain ⟨next, hRun, hNext⟩ := exists_run_eq (fun _ _ hClose => hClose) name
  rw [hRun]
  exact ⟨nofun, hNext⟩

/-- A request is carried out by effects with the property `Q`, if the tests ask for no others and
it is not itself of another kind. -/
theorem all_perform {tests : Tests R} {Q : Effect X → Prop}
    (hTests : ∀ t, (tests.get t).course.All fun c => Q (.call c))
    (hWrite : ∀ f, Q (.call (.write f))) (hNote : ∀ entry, Q (.call (.note entry)))
    (hObserve : ∀ label rate, Q (.observe label rate)) {r : Request}
    (hRead : r = .read → Q (.call .read)) (hClose : r = .close → Q (.call .close)) :
    (perform tests r).All Q := by
  cases r with
  | read => exact ⟨hRead rfl, fun _ => trivial⟩
  | send kind text => exact ⟨hWrite _, fun _ => trivial⟩
  | measure t =>
      have hCall (c : SubTest.Call X) (h : Q (.call c)) :
          (.perform (.call c) .done : Program (Effect X) (Response R) _).All Q :=
        ⟨h, fun _ => trivial⟩
      exact (hTests t).interpret hCall
  | observe label rate => exact ⟨hObserve _ _, fun _ => trivial⟩
  | note entry => exact ⟨hNote _, fun _ => trivial⟩
  | close => exact ⟨hClose rfl, fun _ => trivial⟩

end SpeedTest.Session
