import SpeedTest.CommandLine.Plan

/-! What a configuration file can change where settings were given on the command line or in the
environment. What was given comes before the file, and the file before what is built in. A setting
of the file that is overridden in this way means nothing, with one exception: its test duration is
read in any case, and one that cannot be read ends the program. -/

namespace SpeedTest

open CommandLine (Setting)

/-- How a configuration file writes a setting. -/
abbrev CommandLine.Setting.Entry : Setting → Type
  | .prometheus => Nat
  | _ => String

/-- The values of a setting. -/
abbrev CommandLine.Setting.Value : Setting → Type
  | .testDuration => Duration
  | .prometheus => Nat
  | _ => String

/-- What holds if nobody says anything about a setting. -/
def CommandLine.Setting.builtIn? : (s : Setting) → Option s.Value
  | .legacyAddr => some ":3001"
  | .httpAddr => some "127.0.0.1:3002"
  | .testDuration => some (.ofSecs 10)
  | .logLevel => some "info"
  | .tlsAddr | .cert | .key | .prometheus | .logFile => none

/-- What was given for a setting. -/
def CommandLine.Options.value? (o : CommandLine.Options) : (s : Setting) → Option s.Value
  | .legacyAddr => o.legacyAddr
  | .httpAddr => o.httpAddr
  | .tlsAddr => o.tlsAddr
  | .cert => o.cert
  | .key => o.key
  | .testDuration => o.testDuration
  | .prometheus => o.prometheus
  | .logFile => o.logFile
  | .logLevel => o.logLevel

namespace FileSettings

/-- What stands in a file about a setting. -/
def entry? (f : FileSettings) : (s : Setting) → Option s.Entry
  | .legacyAddr => f.legacyAddr
  | .httpAddr => f.httpAddr
  | .tlsAddr => f.tlsAddr
  | .cert => f.cert
  | .key => f.key
  | .testDuration => f.testDuration
  | .prometheus => f.prometheusPort
  | .logFile => f.logFile
  | .logLevel => f.logLevel

/-- The test duration of a file, if it has one, is a length of time. -/
def IsReadable (f : FileSettings) : Prop :=
  ∀ text, f.testDuration = some text → ∃ d, Duration.read text = .ok d

/-- The values that a file sets. -/
def value? (f : FileSettings) : (s : Setting) → Option s.Value
  | .legacyAddr => f.legacyAddr
  | .httpAddr => f.httpAddr
  | .tlsAddr => f.tlsAddr
  | .cert => f.cert
  | .key => f.key
  | .testDuration => f.testDuration.bind fun text => (Duration.read text).toOption
  | .prometheus => f.prometheusPort
  | .logFile => f.logFile
  | .logLevel => f.logLevel

end FileSettings

namespace CommandLine

/-- The value of a setting: the one that was given, or else that of the file, or else the one that
is built in. -/
def effective? (o : Options) (f : FileSettings) (s : Setting) : Option s.Value :=
  match o.value? s, f.value? s with
  | some v, _ => some v
  | none, some v => some v
  | none, none => s.builtIn?

/-- A log and a plan that come of the given values. -/
structure CarriesOut (rules : String) (value? : (s : Setting) → Option s.Value) (j : Journal)
    (p : Plan) : Prop where
  legacyAddr : value? .legacyAddr = some p.listen.legacyAddr
  httpAddr : value? .httpAddr = some p.listen.httpAddr
  tlsAddr : value? .tlsAddr = p.listen.tlsAddr
  prometheus : value? .prometheus = p.listen.prometheusPort
  cert : value? .cert = p.config.certPath
  key : value? .key = p.config.keyPath
  testDuration : value? .testDuration = some p.config.testDuration
  logFile : value? .logFile = j.file
  logLevel : ∃ level, value? .logLevel = some level ∧ Log.Filter.read rules level = .ok j.filter

/-- What the start comes to: what the program sets out with, or what ends it. -/
def Startup.outcome (s : Startup) : Except Obstacle (Journal × Plan) :=
  match s.journal with
  | .error e => .error (.failure e)
  | .ok j => s.plan.map fun p => (j, p)

variable {o : Options} {f g : FileSettings}

theorem or_congr_of_given {α : Type} {given first second : Option α}
    (h : given = none → first = second) : given.or first = given.or second := by
  cases given with
  | none => simpa using h rfl
  | some v => rfl

theorem fileDuration_of_isReadable (h : f.IsReadable) :
    fileDuration f = .ok (f.value? .testDuration) := by
  unfold fileDuration FileSettings.value?
  cases hText : f.testDuration with
  | none => rfl
  | some text =>
      obtain ⟨d, hRead⟩ := h text hText
      simp [hRead, Except.toOption]

theorem isReadable_of_fileDuration {d : Option Duration} (h : fileDuration f = .ok d) :
    f.IsReadable := by
  intro text hText
  rw [fileDuration, hText] at h
  cases hRead : Duration.read text with
  | ok d => exact ⟨d, rfl⟩
  | error stop => cases stop <;> simp [hRead] at h

/-- Nothing but the test duration of the file stands in the way of a plan. -/
theorem plan_eq_error_iff {e : Obstacle} : plan o f = .error e ↔ fileDuration f = .error e := by
  unfold plan
  cases fileDuration f <;> simp [Except.map]

theorem plan_of_isReadable (h : f.IsReadable) :
    plan o f = .ok ⟨listenFor o f, configFor o f (f.value? .testDuration)⟩ := by
  rw [plan, fileDuration_of_isReadable h]
  rfl

section Same

variable (hSame : ∀ s, o.value? s = none → f.entry? s = g.entry? s)
include hSame

theorem journalFor_eq (rules : String) : journalFor rules o f = journalFor rules o g := by
  have hLevel : o.logLevel.or f.logLevel = o.logLevel.or g.logLevel :=
    or_congr_of_given (hSame .logLevel)
  have hFile : o.logFile.or f.logFile = o.logFile.or g.logFile :=
    or_congr_of_given (hSame .logFile)
  rw [journalFor, journalFor, hLevel, hFile]

theorem listenFor_eq : listenFor o f = listenFor o g := by
  have hLegacy : o.legacyAddr.or f.legacyAddr = o.legacyAddr.or g.legacyAddr :=
    or_congr_of_given (hSame .legacyAddr)
  have hHttp : o.httpAddr.or f.httpAddr = o.httpAddr.or g.httpAddr :=
    or_congr_of_given (hSame .httpAddr)
  have hTls : o.tlsAddr.or f.tlsAddr = o.tlsAddr.or g.tlsAddr := or_congr_of_given (hSame .tlsAddr)
  have hPort : o.prometheus.or f.prometheusPort = o.prometheus.or g.prometheusPort :=
    or_congr_of_given (hSame .prometheus)
  simp only [listenFor, hLegacy, hHttp, hTls, hPort]

theorem configFor_eq {d d' : Option Duration} (hDuration : o.testDuration = none → d = d') :
    configFor o f d = configFor o g d' := by
  have hCert : o.cert.or f.cert = o.cert.or g.cert := or_congr_of_given (hSame .cert)
  have hKey : o.key.or f.key = o.key.or g.key := or_congr_of_given (hSame .key)
  simp only [configFor, hCert, hKey, or_congr_of_given hDuration]

theorem plan_eq_of_isReadable (hf : f.IsReadable) (hg : g.IsReadable) : plan o f = plan o g := by
  have hDuration (hNone : o.testDuration = none) :
      f.value? .testDuration = g.value? .testDuration := by
    have hText : f.testDuration = g.testDuration := hSame .testDuration hNone
    simp only [FileSettings.value?, hText]
  rw [plan_of_isReadable hf, plan_of_isReadable hg, listenFor_eq hSame,
    configFor_eq hSame hDuration]

/-- Where no test duration was given the files have the same one, readable or not. -/
theorem plan_eq_of_none (hNone : o.testDuration = none) : plan o f = plan o g := by
  have hText : f.testDuration = g.testDuration := hSame .testDuration hNone
  have hDuration : fileDuration f = fileDuration g := by rw [fileDuration, fileDuration, hText]
  have hPlan (d : Option Duration) :
      (⟨listenFor o f, configFor o f d⟩ : Plan) = ⟨listenFor o g, configFor o g d⟩ := by
    rw [listenFor_eq hSame, configFor_eq hSame fun _ => rfl]
  simp only [plan, hDuration, hPlan]

end Same

theorem effective?_of_builtIn {s : Setting} {b : s.Value} (h : s.builtIn? = some b) :
    effective? o f s = some (((o.value? s).or (f.value? s)).getD b) := by
  unfold effective?
  cases o.value? s <;> cases f.value? s <;> simp [h]

theorem effective?_of_none {s : Setting} (h : s.builtIn? = none) :
    effective? o f s = (o.value? s).or (f.value? s) := by
  unfold effective?
  cases o.value? s <;> cases f.value? s <;> simp [h]

theorem isReadable_of_plan {p : Plan} (h : plan o f = .ok p) : f.IsReadable := by
  cases hDuration : fileDuration f with
  | ok d => exact isReadable_of_fileDuration hDuration
  | error e => simp [plan_eq_error_iff.mpr hDuration] at h

theorem carriesOut_effective {rules : String} {j : Journal} {p : Plan}
    (hJournal : journalFor rules o f = .ok j) (hPlan : plan o f = .ok p) :
    CarriesOut rules (effective? o f) j p := by
  rw [plan_of_isReadable (isReadable_of_plan hPlan)] at hPlan
  cases hPlan
  unfold journalFor at hJournal
  split at hJournal
  · cases hJournal
  · rename_i filter hRead
    cases hJournal
    exact {
      legacyAddr := effective?_of_builtIn rfl
      httpAddr := effective?_of_builtIn rfl
      tlsAddr := effective?_of_none rfl
      prometheus := effective?_of_none rfl
      cert := effective?_of_none rfl
      key := effective?_of_none rfl
      testDuration := effective?_of_builtIn rfl
      logFile := effective?_of_none rfl
      logLevel := ⟨_, effective?_of_builtIn rfl, hRead⟩ }

theorem outcome_eq_ok_iff {a : Except Failure Journal} {b : Except Obstacle Plan} {j : Journal}
    {p : Plan} : (Startup.mk a b).outcome = .ok (j, p) ↔ a = .ok j ∧ b = .ok p := by
  unfold Startup.outcome
  cases a <;> cases b <;> simp [Except.map]

/-- Two files that say the same about all settings that were not given lead to the same log, and to
the same plan unless a test duration was given and one of the files has an unreadable one. What
stands in the way of a plan is the test duration of the file alone, and what the program sets out
with are the effective values. -/
theorem startup_prefers_given (rules : String) (o : Options) (f g : FileSettings)
    (hSame : ∀ s, o.value? s = none → f.entry? s = g.entry? s) :
    (startup rules o f).journal = (startup rules o g).journal ∧
    (o.testDuration = none ∨ (f.IsReadable ∧ g.IsReadable) →
      startup rules o f = startup rules o g) ∧
    (∀ e, (startup rules o f).plan = .error e ↔ fileDuration f = .error e) ∧
    (f.IsReadable → ∃ p, (startup rules o f).plan = .ok p) ∧
    ∀ j p, (startup rules o f).outcome = .ok (j, p) → CarriesOut rules (effective? o f) j p := by
  have hJournal : journalFor rules o f = journalFor rules o g := journalFor_eq hSame rules
  simp only [startup]
  refine ⟨hJournal, ?_, fun e => plan_eq_error_iff, ?_, ?_⟩
  · intro hDuration
    have hPlan : plan o f = plan o g := by
      obtain hNone | ⟨hf, hg⟩ := hDuration
      · exact plan_eq_of_none hSame hNone
      · exact plan_eq_of_isReadable hSame hf hg
    rw [hJournal, hPlan]
  · intro hReadable
    exact ⟨_, plan_of_isReadable hReadable⟩
  · intro j p hOutcome
    obtain ⟨hOk, hPlan⟩ := outcome_eq_ok_iff.mp hOutcome
    exact carriesOut_effective hOk hPlan

/-- Given a level of the log and a test duration, those of the file do not count. -/
theorem startup_prefers_given_level_and_duration :
    let o : Options := { Options.empty with
      testDuration := some (.ofSecs 1), logLevel := some "debug" }
    let f : FileSettings := { FileSettings.empty with
      httpAddr := some ":80", testDuration := some "5s", logLevel := some "=" }
    let g : FileSettings := { FileSettings.empty with
      httpAddr := some ":80", testDuration := some "7s" }
    f ≠ g ∧ startup "" o f = startup "" o g := by
  intro o f g
  have hSame : ∀ s, o.value? s = none → f.entry? s = g.entry? s := by
    intro s hNone
    cases s
    case testDuration | logLevel => simp [o, Options.value?] at hNone
    all_goals rfl
  have hf : f.IsReadable := by
    rintro _ ⟨⟩
    exact ⟨.ofSecs 5, rfl⟩
  have hg : g.IsReadable := by
    rintro _ ⟨⟩
    exact ⟨.ofSecs 7, rfl⟩
  exact ⟨by decide, (startup_prefers_given "" o f g hSame).2.1 (.inr ⟨hf, hg⟩)⟩

/-- A test duration was given, and yet one in the file that is no length of time ends the
program. -/
theorem overridden_duration_counts :
    ¬ ∀ (rules : String) (o : Options) (f g : FileSettings),
      (∀ s, o.value? s = none → f.entry? s = g.entry? s) →
        (startup rules o f).outcome = (startup rules o g).outcome := by
  intro h
  let o : Options := { Options.empty with testDuration := some (.ofSecs 1) }
  let f : FileSettings := { FileSettings.empty with testDuration := some "soon" }
  have hOutcome : (startup "" o f).outcome = (startup "" o .empty).outcome := by
    apply h
    intro s hNone
    cases s
    case testDuration => simp [o, Options.value?] at hNone
    all_goals rfl
  have hEnds : (startup "" o f).outcome.isOk = false := by decide
  have hGoesOn : (startup "" o .empty).outcome.isOk = true := by decide
  simp [hOutcome, hGoesOn] at hEnds

end CommandLine

end SpeedTest
