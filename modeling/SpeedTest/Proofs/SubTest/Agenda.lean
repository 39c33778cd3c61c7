import Mathlib.Data.List.Forall2
import SpeedTest.Proofs.SubTest.Party

/-! What a throughput test is to do, step by step. A test follows its agenda up to the first step
that does not pass, whoever answers it. -/

namespace SpeedTest.SubTest

/-- A call of a test and its answer, or `none` where the answer never comes. -/
abbrev Exchange := (c : Call DataRequest) × Option (Reply DataReply c)

def isDeed : Exchange → Bool
  | ⟨.note _, _⟩ => false
  | _ => true

/-- The exchanges that somebody outside the server notices, so all but the entries into the log. -/
def deeds (exchanges : List Exchange) : List Exchange := exchanges.filter isDeed

def frame? : Call DataRequest → Option Frame
  | .write f => some f
  | _ => none

/-- The messages that some calls try to send. -/
def messages (calls : List (Call DataRequest)) : List Frame := calls.filterMap frame?

def sent? : Exchange → Option Frame
  | ⟨.write f, some (.ok ())⟩ => some f
  | _ => none

/-- The messages that have been sent. -/
def sent (done : List Exchange) : List Frame := done.filterMap sent?

def isClosing : Call DataRequest → Bool
  | .outside .close => true
  | _ => false

def prepare (port : Nat) : Frame := .ofMessage .testPrepare (.ofText (toString port))

def start : Frame := .ofMessage .testStart (.ofText "")

/-- The server's own measurement, to four places. -/
def report (x : Transfer) : Frame := .ofMessage .testMessage (.ofText (x.rate.fixed 4))

def finalize : Frame := .ofMessage .testFinalize (.ofText "")

/-- The transfer of a test as an exchange. -/
def transferred : Test → Transfer → Exchange
  | .upload, x => ⟨.outside .receive, some x⟩
  | .download, x => ⟨.outside .transmit, some x⟩

/-- What a test has still to do. -/
inductive Step where
  | bind (port : Nat)
  | say (f : Frame)
  | accept
  | move (t : Test) (x : Transfer)
  /-- Close the data channel behind a transfer. -/
  | close (x : Transfer)
  /-- Wait for the client's report. -/
  | hear (m : Message)

namespace Step

def call : Step → Call DataRequest
  | bind _ => .outside .bind
  | say f => .write f
  | accept => .outside .accept
  | move t x => (transferred t x).1
  | close _ => .outside .close
  | hear _ => .readInTime

/-- What must come of a step if the test is to go on. A transfer that has failed is noticed when the
channel has been closed behind it. -/
def Passes : Step → Exchange → Prop
  | bind port, e => e = ⟨.outside .bind, some (.ok port)⟩
  | say f, e => e = ⟨.write f, some (.ok ())⟩
  | accept, e => e = ⟨.outside .accept, some (some (.ok ()))⟩
  | move t x, e => e = transferred t x
  | close x, e => e = ⟨.outside .close, some ()⟩ ∧ x.outcome = .ok ()
  | hear m, e => ∃ f : Frame, e = ⟨.readInTime, some (some (.ok f))⟩ ∧
      f.kind = .testMessage ∧ Message.read f.body = .ok m

/-- A transfer always comes to an end, so no test stops at it. -/
def IsSure : Step → Prop
  | move _ _ => True
  | _ => False

variable {step : Step} {e : Exchange} {f : Frame}

theorem exists_answer_of_passes (h : step.Passes e) : ∃ a, e = ⟨step.call, some a⟩ := by
  cases step with
  | close x => exact ⟨(), h.1⟩
  | hear m =>
      obtain ⟨f, rfl, _⟩ := h
      exact ⟨some (.ok f), rfl⟩
  | move t x => cases t <;> exact ⟨x, h⟩
  | _ => exact ⟨_, h⟩

theorem call_of_passes (h : step.Passes e) : e.1 = step.call := by
  obtain ⟨a, rfl⟩ := exists_answer_of_passes h
  rfl

theorem isSome_of_passes (h : step.Passes e) : e.2.isSome := by
  obtain ⟨a, rfl⟩ := exists_answer_of_passes h
  rfl

theorem sent?_eq_some : sent? e = some f ↔ e = ⟨.write f, some (.ok ())⟩ := by
  constructor
  · intro h
    unfold sent? at h
    split at h
    · cases h
      rfl
    · cases h
  · rintro rfl
    rfl

theorem passes_of_sent? (hCall : e.1 = step.call) (h : sent? e = some f) : step.Passes e := by
  obtain rfl := sent?_eq_some.mp h
  cases step with
  | say g => cases hCall; rfl
  | move t x => cases t <;> cases hCall
  | _ => cases hCall

theorem sent?_of_passes (h : step.Passes e) : sent? e = frame? step.call := by
  cases step with
  | close x => rw [h.1]; rfl
  | hear m =>
      obtain ⟨f, rfl, _⟩ := h
      rfl
  | move t x => cases t <;> · rw [h]; rfl
  | _ => rw [h]; rfl

theorem sent_of_forall₂ {plan : List Step} {done : List Exchange}
    (h : List.Forall₂ Passes plan done) : sent done = messages (plan.map call) := by
  induction h with
  | nil => rfl
  | @cons step e plan done hPasses _ ih =>
      simp only [sent, messages, List.map_cons, List.filterMap_cons, sent?_of_passes hPasses]
      cases frame? step.call with
      | none => exact ih
      | some f => exact congrArg (f :: ·) ih

theorem calls_of_forall₂ {plan : List Step} {done : List Exchange}
    (h : List.Forall₂ Passes plan done) : done.map Sigma.fst = plan.map call := by
  induction h with
  | nil => rfl
  | cons hPasses _ ih => simp only [List.map_cons, call_of_passes hPasses, ih]

theorem exists_passes {plan : List Step} {done : List Exchange}
    (h : List.Forall₂ Passes plan done) (hStep : step ∈ plan) : ∃ e ∈ done, step.Passes e := by
  induction h with
  | nil => cases hStep
  | cons hPasses _ ih =>
      obtain _ | ⟨_, hRest⟩ := hStep
      · exact ⟨_, List.mem_cons_self, hPasses⟩
      · obtain ⟨e, hMem, hPasses⟩ := ih hRest
        exact ⟨e, List.mem_cons_of_mem _ hMem, hPasses⟩

end Step

/-- How deeds follow a plan, and how the test ends. It stops at the first step that does not pass,
with an error if this step was answered. With nothing left to do it yields the rate. -/
inductive Follows (rate : Binary64) :
    List Step → List Exchange → Option (Except Failure Binary64) → Prop
  | finished : Follows rate [] [] (some (.ok rate))
  | stopped {step : Step} (rest : List Step) {e : Exchange} (cause : Failure)
      (hCall : e.1 = step.call) (hSure : ¬ step.IsSure) (hFails : ¬ step.Passes e) :
      Follows rate (step :: rest) [e] (e.2.map fun _ => .error cause)
  | passed {step : Step} {rest : List Step} {e : Exchange} {done : List Exchange}
      {result : Option (Except Failure Binary64)} (hPasses : step.Passes e)
      (next : Follows rate rest done result) : Follows rate (step :: rest) (e :: done) result

namespace Follows

variable {rate : Binary64} {plan front rest : List Step} {step : Step} {e : Exchange}
  {done before after : List Exchange} {result : Option (Except Failure Binary64)}

theorem calls_prefix (h : Follows rate plan done result) :
    done.map Sigma.fst <+: plan.map Step.call := by
  induction h with
  | finished => exact List.prefix_refl _
  | stopped rest cause hCall _ _ => exact ⟨rest.map Step.call, by simp [hCall]⟩
  | passed hPasses next ih =>
      simp only [List.map_cons, Step.call_of_passes hPasses]
      exact (List.prefix_cons_inj _).mpr ih

theorem sent_prefix (h : Follows rate plan done result) :
    sent done <+: messages (plan.map Step.call) := by
  induction h with
  | finished => exact List.prefix_refl _
  | @stopped step rest e cause hCall hSure hFails =>
      have hSent : sent? e = none := by
        apply Option.eq_none_iff_forall_ne_some.mpr
        intro f hf
        exact hFails (Step.passes_of_sent? hCall hf)
      simp [sent, hSent]
  | @passed step rest e done result hPasses next ih =>
      simp only [sent, messages, List.map_cons, List.filterMap_cons,
        Step.sent?_of_passes hPasses]
      cases frame? step.call with
      | none => exact ih
      | some f => exact (List.prefix_cons_inj f).mpr ih

theorem waits_iff (h : Follows rate plan done result) :
    result = none ↔ ∃ before c, done = before ++ [⟨c, none⟩] := by
  induction h with
  | finished => simp
  | @stopped step rest e cause _ _ _ =>
      obtain ⟨c, a⟩ := e
      cases a with
      | none => exact iff_of_true rfl ⟨[], c, rfl⟩
      | some a =>
          apply iff_of_false (by simp)
          rintro ⟨before, c', hEq⟩
          cases before with
          | nil => cases hEq
          | cons b before => simp at hEq
  | @passed step rest e done result hPasses next ih =>
      rw [ih]
      constructor
      · rintro ⟨before, c, rfl⟩
        exact ⟨e :: before, c, rfl⟩
      · rintro ⟨before, c, hEq⟩
        cases before with
        | nil =>
            obtain ⟨rfl, _⟩ := List.cons.inj hEq
            cases Step.isSome_of_passes hPasses
        | cons b before => exact ⟨before, c, (List.cons.inj hEq).2⟩

theorem of_result_ok (h : Follows rate plan done result) {r : Binary64}
    (hResult : result = some (.ok r)) : r = rate ∧ List.Forall₂ Step.Passes plan done := by
  induction h with
  | finished => cases hResult; exact ⟨rfl, .nil⟩
  | @stopped step rest e cause _ _ _ =>
      obtain ⟨c, a⟩ := e
      cases a <;> cases hResult
  | passed hPasses next ih =>
      obtain ⟨hRate, hRest⟩ := ih hResult
      exact ⟨hRate, .cons hPasses hRest⟩

/-- Where no step calls twice, everything in front of a call has passed. Behind it the test goes on
with the rest of the plan. -/
theorem around (h : Follows rate (front ++ step :: rest) done result)
    (hNodup : ((front ++ step :: rest).map Step.call).Nodup) (hDone : done = before ++ e :: after)
    (hCall : e.1 = step.call) :
    List.Forall₂ Step.Passes front before ∧ (step.IsSure → step.Passes e) ∧
      (step.Passes e → Follows rate rest after result) := by
  induction front generalizing done before with
  | nil =>
      cases h with
      | stopped rest cause _ hSure hFails =>
          cases before with
          | nil =>
              obtain ⟨rfl, rfl⟩ := List.cons.inj hDone
              exact ⟨.nil, fun h => absurd h hSure, fun h => absurd h hFails⟩
          | cons b before => simp at hDone
      | passed hPasses next =>
          cases before with
          | nil =>
              obtain ⟨rfl, rfl⟩ := List.cons.inj hDone
              exact ⟨.nil, fun _ => hPasses, fun _ => next⟩
          | cons b before =>
              have hMem : e.1 ∈ rest.map Step.call := by
                apply next.calls_prefix.subset
                rw [(List.cons.inj hDone).2]
                simp
              rw [hCall] at hMem
              exact absurd hMem (List.nodup_cons.mp hNodup).1
  | cons first front ih =>
      obtain ⟨hFirst, hNodup⟩ := List.nodup_cons.mp hNodup
      -- The call does not stand first, since the plan has it further behind.
      have hLater {d : Exchange} (hd : d.1 = first.call) : d ≠ e := by
        rintro rfl
        apply hFirst
        rw [← hd, hCall]
        simp
      cases h with
      | stopped rest cause hStop _ _ =>
          cases before with
          | nil => exact absurd (List.cons.inj hDone).1 (hLater hStop)
          | cons b before => simp at hDone
      | passed hPasses next =>
          cases before with
          | nil => exact absurd (List.cons.inj hDone).1 (hLater (Step.call_of_passes hPasses))
          | cons b before =>
              obtain ⟨rfl, hRest⟩ := List.cons.inj hDone
              obtain ⟨hFront, hAfter⟩ := ih next hNodup hRest
              exact ⟨.cons hPasses hFront, hAfter⟩

end Follows

/-- Up to the start signal. -/
def opening (port : Nat) : List Step :=
  [.bind port, .say (prepare port), .accept, .say start]

/-- Up to the report of the server's own measurement. -/
def measuring (t : Test) (x : Transfer) : List Step := [.move t x, .close x, .say (report x)]

def ending (m : Message) : Test → List Step
  | .upload => [.say finalize]
  | .download => [.hear m, .say finalize]

/-- Everything that a test is to do, where `port` is the one that it opens, `x` what it transfers
and `m` what the client reports. -/
def agenda (t : Test) (port : Nat) (x : Transfer) (m : Message) : List Step :=
  opening port ++ measuring t x ++ ending m t

/-- The rate of a test: after a download that of the client, if it is sensible. -/
def finalRate (x : Transfer) (m : Message) : Test → Binary64
  | .upload => x.rate
  | .download => (reportedRate? m.msg).getD x.rate

/-- Whatever the answers are, the deeds of a course follow one of some plans, each with its rate. -/
def Keeps {ι σ : Type} {config : ServerConfig} (party : Party config σ) (course : Measurement)
    (rate : ι → Binary64) (plan : ι → List Step) : Prop :=
  ∀ s, ∃ i, Follows (rate i) (plan i) (deeds (course.transcript party.answering s))
    (course.run party.answering s).1

instance : Nonempty Transfer := ⟨.ok (), 0, .ofSecs 0⟩

instance : Nonempty Message := ⟨.ofText ""⟩

section Keeps

variable {ι σ : Type} [Nonempty ι] {config : ServerConfig} {party : Party config σ}
  {next : Measurement} {rate : ι → Binary64} {plan : ι → List Step}

theorem isDeed_of_call {e : Exchange} {step : Step} (h : e.1 = step.call) : isDeed e = true := by
  obtain ⟨c, a⟩ := e
  cases h
  cases step with
  | move t x => cases t <;> rfl
  | _ => rfl

theorem keeps_done (party : Party config σ) (r : Binary64) :
    Keeps party (.done (.ok r)) (fun _ : ι => r) (fun _ => []) :=
  fun _ => ⟨Classical.arbitrary ι, .finished⟩

omit [Nonempty ι] in
theorem Keeps.note (h : Keeps party next rate plan) (entry : Log.Entry) :
    Keeps party (.perform (.note entry) fun _ => next) rate plan := by
  intro s
  have hSome := party.isSome_of_isTimed (.note entry) s trivial
  simp only [Program.transcript, Program.run]
  generalize party.answering (.note entry) s = r at hSome
  obtain ⟨_ | a, s'⟩ := r
  · cases hSome
  · exact h s'

/-- The first step of a test. Every answer either ends the test or lets it go on. -/
theorem Keeps.perform {c : Call DataRequest} {next : Reply DataReply c → Measurement}
    (step : ι → Step) (hCall : ∀ i, c = (step i).call)
    (hSure : IsTimed c ∨ ∀ i, ¬ (step i).IsSure)
    (h : ∀ a,
      (∃ cause, next a = failed cause ∧
        ∀ i, ¬ (step i).IsSure ∧ ¬ (step i).Passes ⟨c, some a⟩) ∨
      ∀ s, ∃ i, (step i).Passes ⟨c, some a⟩ ∧
        Follows (rate i) (plan i) (deeds ((next a).transcript party.answering s))
          ((next a).run party.answering s).1) :
    Keeps party (.perform c next) rate (fun i => step i :: plan i) := by
  intro s
  -- A test that ends here follows all the plans alike.
  let i₀ := Classical.arbitrary ι
  have hDeed (a : Option (Reply DataReply c)) : isDeed ⟨c, a⟩ = true := isDeed_of_call (hCall i₀)
  have hTimed := party.isSome_of_isTimed c s
  simp only [Program.transcript, Program.run]
  generalize party.answering c s = r at hTimed
  obtain ⟨_ | a, s'⟩ := r
  · have hStop : ¬ (step i₀).IsSure := by
      obtain hTime | hStop := hSure
      · cases hTimed hTime
      · exact hStop i₀
    have hFails : ¬ (step i₀).Passes ⟨c, none⟩ := by
      intro hPasses
      cases Step.isSome_of_passes hPasses
    refine ⟨i₀, ?_⟩
    simp only [deeds, List.filter_cons, hDeed, List.filter_nil]
    exact .stopped (plan i₀) noReport (hCall i₀) hStop hFails
  · simp only [deeds, List.filter_cons, hDeed]
    obtain ⟨cause, hNext, hStop⟩ | hNext := h a
    · refine ⟨i₀, ?_⟩
      rw [hNext]
      exact .stopped (plan i₀) cause (hCall i₀) (hStop i₀).1 (hStop i₀).2
    · obtain ⟨i, hPasses, hFollows⟩ := hNext s'
      exact ⟨i, .passed hPasses hFollows⟩

/-- A step that is the same in all plans. -/
theorem Keeps.step {c : Call DataRequest} {next : Reply DataReply c → Measurement} (step : Step)
    (hCall : c = step.call) (hSure : ¬ step.IsSure)
    (h : ∀ a, (∃ cause, next a = failed cause ∧ ¬ step.Passes ⟨c, some a⟩) ∨
      step.Passes ⟨c, some a⟩ ∧ Keeps party (next a) rate plan) :
    Keeps party (.perform c next) rate (fun i => step :: plan i) := by
  apply Keeps.perform (fun _ => step) (fun _ => hCall) (.inr fun _ => hSure)
  intro a
  obtain ⟨cause, hNext, hFails⟩ | ⟨hPasses, hNext⟩ := h a
  · exact .inl ⟨cause, hNext, fun _ => ⟨hSure, hFails⟩⟩
  · right
    intro s
    obtain ⟨i, hFollows⟩ := hNext s
    exact ⟨i, hPasses, hFollows⟩

theorem Keeps.say (h : Keeps party next rate plan) (kind : Kind) (text : String) :
    Keeps party (say kind text next) rate
      (fun i => .say (.ofMessage kind (.ofText text)) :: plan i) := by
  apply Keeps.step (.say (.ofMessage kind (.ofText text))) rfl id
  intro a
  cases a with
  | error e => exact .inl ⟨.ofProtocol e, rfl, nofun⟩
  | ok u => exact .inr ⟨rfl, h⟩

theorem Keeps.accept (h : Keeps party next rate plan) :
    Keeps party
      (.perform (.outside .accept) fun
        | none => failed (noChannel config)
        | some (.error e) => failed e
        | some (.ok ()) => next)
      rate (fun i => .accept :: plan i) := by
  apply Keeps.step .accept rfl id
  intro a
  obtain _ | e | u := a
  · exact .inl ⟨noChannel config, rfl, nofun⟩
  · exact .inl ⟨e, rfl, nofun⟩
  · exact .inr ⟨rfl, h⟩

theorem Keeps.settle (h : Keeps party next rate plan) (x : Transfer) :
    Keeps party (settle x next) rate (fun i => .close x :: plan i) := by
  apply Keeps.step (.close x) rfl id
  intro a
  cases hOutcome : x.outcome with
  | error e =>
      refine .inl ⟨e, rfl, fun hPasses => ?_⟩
      cases hOutcome.symm.trans hPasses.2
  | ok u => exact .inr ⟨⟨rfl, hOutcome⟩, h⟩

theorem Keeps.openChannel (h : Keeps party next rate plan) (source : Log.Source) (label : String) :
    Keeps party (openChannel source label config next) (fun i : Nat × ι => rate i.2)
      (fun i =>
        .bind i.1 :: .say (prepare i.1) :: .accept :: .say start :: plan i.2) := by
  apply Keeps.perform (fun i : Nat × ι => .bind i.1) (fun _ => rfl) (.inr fun _ => id)
  intro a
  cases a with
  | error e => exact .inl ⟨noPort e, rfl, fun _ => ⟨id, nofun⟩⟩
  | ok port =>
      right
      intro s
      have hNext := (h.say .testStart "").accept.say .testPrepare (toString port)
      obtain ⟨i, hFollows⟩ := hNext.note (source.debug (label ++ " data port " ++ toString port)) s
      exact ⟨(port, i), rfl, hFollows⟩

theorem keeps_transfer {c : Call DataRequest} {next : Reply DataReply c → Measurement} {t : Test}
    {rate : Transfer → ι → Binary64} {plan : Transfer → ι → List Step} (hTimed : IsTimed c)
    (hCall : ∀ x, c = (transferred t x).1)
    (h : ∀ a, ∃ x, ⟨c, some a⟩ = transferred t x ∧ Keeps party (next a) (rate x) (plan x)) :
    Keeps party (.perform c next) (fun i : Transfer × ι => rate i.1 i.2)
      (fun i => .move t i.1 :: plan i.1 i.2) := by
  apply Keeps.perform (fun i : Transfer × ι => .move t i.1) (fun i => hCall i.1) (.inl hTimed)
  intro a
  right
  intro s
  obtain ⟨x, hEq, hNext⟩ := h a
  obtain ⟨i, hFollows⟩ := hNext s
  exact ⟨(x, i), hEq, hFollows⟩

theorem toMessage_eq_ok_iff {f : Frame} {kind : Kind} {m : Message} :
    f.toMessage kind = .ok m ↔ f.kind = kind ∧ Message.read f.body = .ok m := by
  unfold Frame.toMessage
  split <;> simp [*]

theorem keeps_awaitReport {next : String → Measurement} {rate : Message → Binary64}
    {plan : Message → List Step}
    (h : ∀ m, Keeps party (next m.msg) (fun _ : Unit => rate m) (fun _ => plan m)) :
    Keeps party (awaitReport next) rate (fun m => .hear m :: plan m) := by
  apply Keeps.perform (fun m => .hear m) (fun _ => rfl) (.inr fun _ => id)
  intro a
  obtain _ | e | f := a
  · exact .inl ⟨noReport, rfl, fun _ => ⟨id, fun ⟨_, hEq, _⟩ => by cases hEq⟩⟩
  · exact .inl ⟨.ofProtocol e, rfl, fun _ => ⟨id, fun ⟨_, hEq, _⟩ => by cases hEq⟩⟩
  cases hMessage : f.toMessage .testMessage with
  | error e =>
      refine .inl ⟨.ofProtocol e, by simp only [hMessage], fun m => ⟨id, ?_⟩⟩
      rintro ⟨_, hEq, hReport⟩
      cases hEq
      cases hMessage.symm.trans (toMessage_eq_ok_iff.mpr hReport)
  | ok m =>
      right
      intro s
      obtain ⟨_, hFollows⟩ := h m s
      simp only [hMessage]
      exact ⟨m, ⟨f, rfl, toMessage_eq_ok_iff.mp hMessage⟩, hFollows⟩

omit [Nonempty ι] in
theorem Keeps.chooseRate {text : String} {own : Binary64} {next : Binary64 → Measurement}
    (h : Keeps party (next ((reportedRate? text).getD own)) rate plan) :
    Keeps party (chooseRate text own next) rate plan := by
  unfold SubTest.chooseRate
  cases hText : reportedRate? text with
  | none =>
      rw [hText] at h
      exact h.note (unusableEntry text)
  | some r =>
      rw [hText] at h
      exact h

/-- Whoever the party is, a test keeps to its agenda. -/
theorem keeps_agenda (party : Party config σ) (t : Test) :
    Keeps party ((builtIn config).get t).course
      (fun i : Nat × Transfer × Message => finalRate i.2.1 i.2.2 t)
      (fun i => agenda t i.1 i.2.1 i.2.2) := by
  cases t with
  | upload =>
      have hTail (x : Transfer) : Keeps party
          (.perform (.note (uploadEntry x)) fun _ =>
            say .testMessage (showRate x.rate) (say .testFinalize "" (.done (.ok x.rate))))
          (fun m : Message => finalRate x m .upload)
          (fun m => .say (report x) :: ending m .upload) := by
        apply Keeps.note
        apply Keeps.say
        apply Keeps.say
        exact keeps_done party x.rate
      have hMove := keeps_transfer (c := .outside .receive) (t := .upload) nofun (fun _ => rfl)
        fun x => ⟨x, rfl, (hTail x).settle x⟩
      exact hMove.openChannel .upload "C2S"
  | download =>
      have hTail (x : Transfer) : Keeps party
          (say .testMessage (showRate x.rate) <| awaitReport fun text =>
            chooseRate text x.rate fun rate =>
              say .testFinalize "" <|
                .perform (.note (downloadEntry x rate)) fun _ => .done (.ok rate))
          (fun m : Message => finalRate x m .download)
          (fun m => .say (report x) :: ending m .download) := by
        apply Keeps.say
        apply keeps_awaitReport
        intro m
        apply Keeps.chooseRate
        apply Keeps.say
        apply Keeps.note
        exact keeps_done party (finalRate x m .download)
      have hMove := keeps_transfer (c := .outside .transmit) (t := .download) nofun (fun _ => rfl)
        fun x => ⟨x, rfl, (hTail x).settle x⟩
      exact hMove.openChannel .download "S2C"

end Keeps

end SpeedTest.SubTest
