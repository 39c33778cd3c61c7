import SpeedTest.CommandLine.Plan
import SpeedTest.CommandLine.Reading
import SpeedTest.Proofs.Duration.Scanning

/-! The test durations that are given to the program, on the command line, in the environment and in
the configuration file. Each is either the exact sum of what is written or a fault that is told,
unless the sum leaves the range with its last carry: over this, and over no other value, does the
program break down. -/

namespace SpeedTest

namespace CommandLine

variable {α β : Type}

/-- A reading breaks down over nothing but a test duration for which its reader has no answer. -/
def Holds (x : Except Halt α) : Prop :=
  ∀ s value, x = .error (.broken s value) →
    s = .testDuration ∧ Duration.read value = .error .overflow

namespace Holds

variable {x : Except Halt α}

theorem ok (a : α) : Holds (.ok a) := nofun

theorem refused (why : Refusal) : Holds (.error (.refused why) : Except Halt α) := nofun

theorem help (page : HelpPage) : Holds (.error (.help page) : Except Halt α) := nofun

/-- What stands in the way is passed on. -/
theorem error {halt : Halt} (h : Holds x) (hError : x = .error halt) :
    Holds (.error halt : Except Halt β) := by
  subst hError
  intro s value hBroken
  exact h s value (congrArg Except.error (Except.error.inj hBroken))

theorem bind {f : α → Except Halt β} (h : Holds x) (hNext : ∀ a, Holds (f a)) :
    Holds (x >>= f) := by
  cases x with
  | ok a => exact hNext a
  | error halt => exact h.error rfl

theorem map {f : α → β} (h : Holds x) : Holds (x.map f) := by
  cases x with
  | ok a => exact .ok (f a)
  | error halt => exact h.error rfl

end Holds

theorem readPath_ne_overflow (value : String) : readPath value ≠ .error .overflow := by
  unfold readPath
  split <;> simp

theorem readPort_ne_overflow (value : String) : readPort value ≠ .error .overflow := by
  unfold readPort
  split
  · simp
  · split <;> simp
  · simp

theorem read_of_readDuration {value : String} (h : readDuration value = .error .overflow) :
    Duration.read value = .error .overflow := by
  unfold readDuration at h
  split at h <;> cases h
  assumption

theorem read_of_give {o : Options} {value : String} {s : Setting}
    (h : o.give value s = .error .overflow) :
    s = .testDuration ∧ Duration.read value = .error .overflow := by
  cases s <;> simp only [Options.give, reduceCtorEq, Duration.map_eq_error_iff] at h
  case cert | key => exact absurd h (readPath_ne_overflow value)
  case testDuration => exact ⟨rfl, read_of_readDuration h⟩
  case prometheus => exact absurd h (readPort_ne_overflow value)

theorem holds_give (o : Options) (s : Setting) (value : String) : Holds (give o s value) := by
  intro s' value' hBroken
  unfold give at hBroken
  split at hBroken <;> cases hBroken
  exact read_of_give ‹_›

theorem holds_giveOnce (o : Options) (s : Setting) (value : String) :
    Holds (giveOnce o s value) := by
  unfold giveOnce
  split
  · exact .refused _
  · exact holds_give o s value

theorem holds_settle (r : Reading) : Holds r.settle := by
  unfold Reading.settle
  split
  · exact .ok _
  · exact .refused _
  · exact holds_giveOnce _ _ _

theorem holds_halt (r : Reading) (page : HelpPage) :
    Holds (r.halt (.help page) : Except Halt α) := by
  unfold Reading.halt
  split
  · exact .help page
  · exact (holds_settle r).error ‹_›

theorem holds_long (r : Reading) (name : String) (value : Option String) :
    Holds (r.long name value) := by
  unfold Reading.long
  split
  · exact (holds_settle r).bind fun o => (holds_giveOnce o _ _).bind fun o' => .ok _
  · exact (holds_settle r).map
  · split
    · split
      · exact .refused _
      · exact holds_halt r _
    · exact .refused _

theorem holds_word (r : Reading) (w : Word) : Holds (r.word w) := by
  unfold Reading.word
  split
  · exact .ok r
  · exact holds_long r _ _
  · split
    · exact holds_halt r _
    · exact .refused _
  · split
    · exact .ok _
    · exact .refused _

theorem holds_readWords (r : Reading) (words : List String) : Holds (readWords r words) := by
  induction words generalizing r with
  | nil => exact holds_settle r
  | cons w rest ih =>
      unfold readWords
      split
      · exact holds_settle r
      · exact .refused _
      · split
        · exact (holds_word r _).error ‹_›
        · exact ih _

theorem holds_addEnvironment (env : Environment) (o : Options) (settings : List Setting) :
    Holds (addEnvironment env o settings) := by
  induction settings generalizing o with
  | nil => exact .ok o
  | cons s rest ih =>
      unfold addEnvironment
      split
      · exact ih o
      · split
        · exact (holds_give o s _).error ‹_›
        · exact ih _

theorem holds_readHelp (words : List String) :
    Holds (.error (readHelp words) : Except Halt α) := by
  unfold readHelp
  split
  · exact .help _
  · split
    · exact .help _
    · split
      · exact .help _
      · exact .refused _
  · exact .refused _

theorem holds_readCommand (env : Environment) (w : String) (rest : List String) :
    Holds (readCommand env w rest) := by
  unfold readCommand
  split
  · exact (holds_readWords _ rest).bind fun o => holds_addEnvironment env o _
  · split
    · exact holds_readHelp rest
    · exact .refused _

theorem holds_readDivided (words : List String) :
    Holds (.error (readDivided words) : Except Halt α) := by
  unfold readDivided
  split
  · exact .refused _
  · split <;> exact .refused _

theorem holds_readLong (name : String) (value : Option String) :
    Holds (.error (readLong name value) : Except Halt α) := by
  unfold readLong
  split
  · split
    · exact .refused _
    · split
      · exact .help _
      · exact nofun
  · exact .refused _

theorem holds_readShort (c : Char) : Holds (.error (readShort c) : Except Halt α) := by
  unfold readShort
  split
  · exact .help _
  · split
    · exact nofun
    · exact .refused _

/-- Whatever the command line and the environment say, nothing but a test duration breaks the
program down. -/
theorem holds_read (env : Environment) (words : List String) : Holds (read env words) := by
  unfold read
  split
  · exact .refused _
  · split
    · exact holds_readDivided _
    · exact holds_readLong _ _
    · exact holds_readShort _
    · exact holds_readCommand env _ _

theorem fileDuration_eq_broken_iff {f : FileSettings} {text : String} :
    fileDuration f = .error (.broken text) ↔
      f.testDuration = some text ∧ Duration.read text = .error .overflow := by
  constructor
  · intro h
    unfold fileDuration at h
    split at h
    · cases h
    · split at h <;> cases h
      exact ⟨‹_›, ‹_›⟩
  · rintro ⟨hText, hRead⟩
    simp [fileDuration, hText, hRead]

/-- A text that is given as a test duration is read as the exact sum of its items, or refused with a
fault, or else begins with items that reach exactly the first length of time that is too long. Only
over a text of the last kind does the program break down, wherever the text was given. Without
fractions this takes an item in nanoseconds, microseconds or milliseconds that completes the second
behind the longest length of time in whole seconds. Below five hundred years every text of such
items is read. -/
theorem test_duration_adds_up (text : String) :
    (∀ d, Duration.read text = .ok d →
      text = "0" ∧ d = .zero ∨ ∃ items, items ≠ [] ∧ Duration.Spells text.toList items) ∧
    (∀ items d, Duration.Spells text.toList items → Duration.read text = .ok d →
      Duration.IsSum items d) ∧
    (Duration.read text = .error .overflow ↔ Duration.IsOverfull text.toList) ∧
    (Duration.IsOverfull text.toList →
      ∃ front rest items i lengths ns, text.toList = front ++ rest ∧
        Duration.Spells front (items ++ [i]) ∧ List.Forall₂ Duration.Item.Lasts items lengths ∧
        i.Reaches ns ∧ lengths.sum + ns = Duration.tooLong) ∧
    (∀ items, items ≠ [] → Duration.Spells text.toList items → (∀ i ∈ items, i.part = none) →
      (Duration.read text = .error .overflow ↔
        ∃ before i after d u, items = before ++ i :: after ∧
          Duration.total .zero before = .ok d ∧ Duration.TimeUnit.ofName? i.name = some u ∧
          u.isWholeSeconds = false ∧ d.secs = Duration.maxCount ∧
          d.nanos + i.count * u.nanos = nanosPerSecond) ∧
      ∀ lengths, List.Forall₂ Duration.Item.Lasts items lengths →
        lengths.sum ≤ Duration.maxCount → ∃ d, Duration.read text = .ok d) ∧
    (∀ env words s, read env words = .error (.broken s text) →
      s = .testDuration ∧ Duration.IsOverfull text.toList) ∧
    (∀ f, fileDuration f = .error (.broken text) ↔
      f.testDuration = some text ∧ Duration.IsOverfull text.toList) := by
  have hStart : Duration.zero.toNanos = 0 := rfl
  refine ⟨fun d => Duration.spells_of_read, ?_, Duration.read_eq_overflow_iff,
    Duration.IsOverfull.reaches, ?_, ?_, ?_⟩
  · intro items d hSpells hRead
    rw [Duration.read_of_spells hSpells (Duration.ne_nil_of_read hSpells hRead)] at hRead
    exact Duration.isSum_of_total hRead
  · intro items hItems hSpells hWhole
    rw [Duration.read_of_spells hSpells hItems]
    refine ⟨Duration.total_eq_overflow_iff_of_whole hWhole, fun lengths hLengths hSum => ?_⟩
    exact Duration.total_of_le hWhole hLengths (by rwa [hStart, Nat.zero_add])
  · intro env words s hBroken
    obtain ⟨hSetting, hRead⟩ := holds_read env words s text hBroken
    exact ⟨hSetting, Duration.read_eq_overflow_iff.mp hRead⟩
  · intro f
    rw [fileDuration_eq_broken_iff, Duration.read_eq_overflow_iff]

/-- The last carry is not limited: the nanoseconds of one second are too much behind as many seconds
as 64 bits can count. -/
theorem breaks_over_last_second :
    (¬ ∀ text, (∃ d, Duration.read text = .ok d) ∨
      ∃ fault, Duration.read text = .error (.fault fault)) ∧
    read (fun _ => none) ["serve", "--test-duration", "18446744073709551615s 1000000000ns"] =
      .error (.broken .testDuration "18446744073709551615s 1000000000ns") := by
  have hRead : Duration.read "18446744073709551615s 1000000000ns" = .error .overflow := rfl
  refine ⟨fun h => ?_, rfl⟩
  obtain ⟨d, hOk⟩ | ⟨fault, hFault⟩ := h "18446744073709551615s 1000000000ns"
  · rw [hRead] at hOk
    cases hOk
  · rw [hRead] at hFault
    cases hFault

end CommandLine

end SpeedTest
