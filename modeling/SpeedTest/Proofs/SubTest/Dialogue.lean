import SpeedTest.Proofs.SubTest.Agenda

/-! The dialogue of a throughput test with its client: four messages in a fixed order, each of which
waits for what has to come before it. Wherever a test ends, what it has sent by then is the
beginning of this dialogue, and it succeeds only at its end. -/

namespace SpeedTest.SubTest

/-- The messages of a test in full. -/
def dialogue (port : Nat) (x : Transfer) : List Frame := [prepare port, start, report x, finalize]

/-- The deeds of a test and its result keep to the dialogue, where `port` is the one that it opens
and `x` what it transfers. A deed that is asked about stands between those `before` it and those
`after` it. -/
structure KeepsToDialogue (t : Test) (port : Nat) (x : Transfer) (done : List Exchange)
    (result : Option (Except Failure Binary64)) : Prop where
  attempts : messages (done.map Sigma.fst) <+: dialogue port x
  sends : sent done <+: dialogue port x
  succeeds_iff : (∃ r, result = some (.ok r)) ↔ sent done = dialogue port x
  waits_iff : result = none ↔ ∃ before c, done = before ++ [⟨c, none⟩]
  port_is_open : ∀ before a after, done = before ++ ⟨.write (prepare port), a⟩ :: after →
    ⟨.outside .bind, some (.ok port)⟩ ∈ before
  channel_is_open : ∀ before a after, done = before ++ ⟨.write start, a⟩ :: after →
    ⟨.outside .accept, some (some (.ok ()))⟩ ∈ before
  /-- The measurement is that of a transfer which has succeeded, and whose channel is closed. -/
  transfer_is_over : ∀ before a after, done = before ++ ⟨.write (report x), a⟩ :: after →
    transferred t x ∈ before ∧ x.outcome = .ok () ∧ ⟨.outside .close, some ()⟩ ∈ before
  silent_behind_failure : ∀ y cause, transferred t y ∈ done → y.outcome = .error cause →
    messages (done.map Sigma.fst) = [prepare port, start]
  closes : (done.map Sigma.fst).countP isClosing = if start ∈ sent done then 1 else 0
  /-- The client's own measurement is heard between the last two messages of a download. -/
  client_is_heard : t = .download →
    ∀ before a after, done = before ++ ⟨.write finalize, a⟩ :: after →
      ∃ earlier later f m, before = earlier ++ ⟨.readInTime, some (some (.ok f))⟩ :: later ∧
        f.kind = .testMessage ∧ Message.read f.body = .ok m ∧
        sent earlier = [prepare port, start, report x]
  upload_rate : t = .upload → ∀ r, result = some (.ok r) → r = x.rate

section Follows

variable {t : Test} {port : Nat} {x : Transfer} {m : Message} {rate : Binary64}
  {done before after : List Exchange} {e : Exchange} {result : Option (Except Failure Binary64)}

theorem agenda_nodup (t : Test) (port : Nat) (x : Transfer) (m : Message) :
    ((agenda t port x m).map Step.call).Nodup := by
  cases t <;>
    simp [agenda, opening, measuring, ending, Step.call, transferred, prepare, start, report,
      finalize, Frame.ofMessage]

theorem messages_agenda (t : Test) (port : Nat) (x : Transfer) (m : Message) :
    messages ((agenda t port x m).map Step.call) = dialogue port x := by
  cases t <;> rfl

theorem mem_sent_iff {f : Frame} : f ∈ sent done ↔ ⟨.write f, some (.ok ())⟩ ∈ done := by
  simp only [sent, List.mem_filterMap, Step.sent?_eq_some, exists_eq_right]

variable (h : Follows rate (agenda t port x m) done result)
include h

/-- What stands around a step of the agenda. -/
theorem around_step {front rest : List Step} {step : Step}
    (hAgenda : agenda t port x m = front ++ step :: rest) (hDone : done = before ++ e :: after)
    (hCall : e.1 = step.call) :
    List.Forall₂ Step.Passes front before ∧ (step.IsSure → step.Passes e) ∧
      (step.Passes e → Follows rate rest after result) := by
  have hNodup := agenda_nodup t port x m
  rw [hAgenda] at h hNodup
  exact h.around hNodup hDone hCall

theorem port_is_open {a : Option (Except ProtocolError Unit)}
    (hDone : done = before ++ ⟨.write (prepare port), a⟩ :: after) :
    ⟨.outside .bind, some (.ok port)⟩ ∈ before := by
  have hAgenda : agenda t port x m = [.bind port] ++ .say (prepare port) :: _ := rfl
  obtain ⟨hFront, -, -⟩ := around_step h hAgenda hDone rfl
  obtain ⟨_, hMem, rfl⟩ := Step.exists_passes hFront (List.mem_singleton_self _)
  exact hMem

theorem channel_is_open {a : Option (Except ProtocolError Unit)}
    (hDone : done = before ++ ⟨.write start, a⟩ :: after) :
    ⟨.outside .accept, some (some (.ok ()))⟩ ∈ before := by
  have hAgenda : agenda t port x m =
      [.bind port, .say (prepare port), .accept] ++ .say start :: _ := rfl
  obtain ⟨hFront, -, -⟩ := around_step h hAgenda hDone rfl
  have hStep : Step.accept ∈ [.bind port, .say (prepare port), .accept] := by simp
  obtain ⟨_, hMem, rfl⟩ := Step.exists_passes hFront hStep
  exact hMem

theorem transfer_is_over {a : Option (Except ProtocolError Unit)}
    (hDone : done = before ++ ⟨.write (report x), a⟩ :: after) :
    transferred t x ∈ before ∧ x.outcome = .ok () ∧ ⟨.outside .close, some ()⟩ ∈ before := by
  let front : List Step :=
    [.bind port, .say (prepare port), .accept, .say start, .move t x, .close x]
  have hAgenda : agenda t port x m = front ++ .say (report x) :: _ := rfl
  obtain ⟨hFront, -, -⟩ := around_step h hAgenda hDone rfl
  have hMove : Step.move t x ∈ front := by simp [front]
  have hClose : Step.close x ∈ front := by simp [front]
  obtain ⟨_, hMoved, rfl⟩ := Step.exists_passes hFront hMove
  obtain ⟨_, hClosed, rfl, hOutcome⟩ := Step.exists_passes hFront hClose
  exact ⟨hMoved, hOutcome, hClosed⟩

/-- The transfer on the agenda is the one that takes place, and the channel is closed behind it. -/
theorem around_transfer {y : Transfer} (hMem : transferred t y ∈ done) :
    y = x ∧ ∃ before after, done = before ++ transferred t y :: after ∧
      List.Forall₂ Step.Passes (opening port) before ∧
      Follows rate (.close x :: .say (report x) :: ending m t) after result := by
  obtain ⟨before, after, hDone⟩ := List.append_of_mem hMem
  have hAgenda : agenda t port x m = opening port ++ .move t x :: _ := rfl
  have hCall : (transferred t y).1 = (Step.move t x).call := by cases t <;> rfl
  obtain ⟨hFront, hSure, hRest⟩ := around_step h hAgenda hDone hCall
  have hMove : transferred t y = transferred t x := hSure trivial
  refine ⟨?_, before, after, hDone, hFront, hRest hMove⟩
  cases t <;> · cases hMove; rfl

theorem silent_behind_failure {y : Transfer} {cause : Failure} (hMem : transferred t y ∈ done)
    (hOutcome : y.outcome = .error cause) :
    messages (done.map Sigma.fst) = [prepare port, start] := by
  obtain ⟨rfl, before, after, rfl, hFront, hRest⟩ := around_transfer h hMem
  cases hRest with
  | passed hPasses _ => cases hOutcome.symm.trans hPasses.2
  | @stopped _ _ e _ hCall _ _ =>
      have hMove : frame? (transferred t y).1 = none := by cases t <;> rfl
      have hClose : frame? e.1 = none := by rw [hCall]; rfl
      have hBefore : messages (before.map Sigma.fst) = [prepare port, start] := by
        rw [Step.calls_of_forall₂ hFront]
        rfl
      simp only [messages] at hBefore
      simp [messages, hBefore, hMove, hClose]

/-- The channel is closed if the start signal has been given, since the transfer comes to an end in
any case. -/
theorem closes_of_start (hStart : start ∈ sent done) : ∃ e ∈ done, e.1 = .outside .close := by
  obtain ⟨before, after, hDone⟩ := List.append_of_mem (mem_sent_iff.mp hStart)
  have hAgenda : agenda t port x m =
      [.bind port, .say (prepare port), .accept] ++ .say start :: _ := rfl
  obtain ⟨-, -, hRest⟩ := around_step h hAgenda hDone rfl
  cases hRest rfl with
  | stopped _ _ _ hSure _ => exact absurd trivial hSure
  | passed _ next =>
      cases next with
      | @stopped _ _ e _ hCall _ _ => exact ⟨e, by simp [hDone], hCall⟩
      | @passed _ _ e _ _ hPasses _ => exact ⟨e, by simp [hDone], Step.call_of_passes hPasses⟩

theorem start_of_closes (hMem : e ∈ done) (hCall : e.1 = .outside .close) : start ∈ sent done := by
  obtain ⟨before, after, rfl⟩ := List.append_of_mem hMem
  have hAgenda : agenda t port x m = (opening port ++ [.move t x]) ++ .close x :: _ := rfl
  obtain ⟨hFront, -, -⟩ := around_step h hAgenda rfl hCall
  have hStep : Step.say start ∈ opening port ++ [.move t x] := by simp [opening]
  obtain ⟨_, hStart, rfl⟩ := Step.exists_passes hFront hStep
  exact mem_sent_iff.mpr (List.mem_append_left _ hStart)

theorem closes_eq :
    (done.map Sigma.fst).countP isClosing = if start ∈ sent done then 1 else 0 := by
  have hAgenda : ((agenda t port x m).map Step.call).countP isClosing = 1 := by cases t <;> rfl
  have hAtMost : (done.map Sigma.fst).countP isClosing ≤ 1 :=
    hAgenda ▸ h.calls_prefix.sublist.countP_le
  split
  · rename_i hStart
    obtain ⟨e, hMem, hCall⟩ := closes_of_start h hStart
    have hSome : 0 < (done.map Sigma.fst).countP isClosing :=
      List.countP_pos_iff.mpr ⟨e.1, List.mem_map_of_mem hMem, by rw [hCall]; rfl⟩
    omega
  · rename_i hStart
    apply List.countP_eq_zero.mpr
    intro c hc hClosing
    obtain ⟨e, hMem, rfl⟩ := List.mem_map.mp hc
    apply hStart
    apply start_of_closes h hMem
    unfold isClosing at hClosing
    split at hClosing
    · assumption
    · cases hClosing

theorem succeeds_iff : (∃ r, result = some (.ok r)) ↔ sent done = dialogue port x := by
  constructor
  · rintro ⟨r, hResult⟩
    rw [Step.sent_of_forall₂ (h.of_result_ok hResult).2, messages_agenda]
  · intro hSent
    have hLast : finalize ∈ sent done := by simp [hSent, dialogue]
    obtain ⟨before, after, hDone⟩ := List.append_of_mem (mem_sent_iff.mp hLast)
    obtain ⟨front, hAgenda⟩ : ∃ front, agenda t port x m = front ++ .say finalize :: [] := by
      cases t with
      | upload => exact ⟨opening port ++ measuring .upload x, rfl⟩
      | download => exact ⟨opening port ++ measuring .download x ++ [.hear m], rfl⟩
    obtain ⟨-, -, hRest⟩ := around_step h hAgenda hDone rfl
    cases hRest rfl with
    | finished => exact ⟨rate, rfl⟩

end Follows

section Download

variable {port : Nat} {x : Transfer} {m : Message} {rate : Binary64}
  {done before after : List Exchange} {result : Option (Except Failure Binary64)}

theorem client_is_heard (h : Follows rate (agenda .download port x m) done result)
    {a : Option (Except ProtocolError Unit)}
    (hDone : done = before ++ ⟨.write finalize, a⟩ :: after) :
    ∃ earlier later f m, before = earlier ++ ⟨.readInTime, some (some (.ok f))⟩ :: later ∧
      f.kind = .testMessage ∧ Message.read f.body = .ok m ∧
      sent earlier = [prepare port, start, report x] := by
  let front := opening port ++ measuring .download x
  have hFinal : agenda .download port x m = (front ++ [.hear m]) ++ .say finalize :: [] := rfl
  have hHear : agenda .download port x m = front ++ .hear m :: [.say finalize] := rfl
  obtain ⟨hFront, -, -⟩ := around_step h hFinal hDone rfl
  have hStep : Step.hear m ∈ front ++ [.hear m] := by simp
  obtain ⟨_, hMem, f, rfl, hKind, hRead⟩ := Step.exists_passes hFront hStep
  obtain ⟨earlier, later, rfl⟩ := List.append_of_mem hMem
  rw [List.append_assoc, List.cons_append] at hDone
  obtain ⟨hEarlier, -, -⟩ := around_step h hHear hDone rfl
  exact ⟨earlier, later, f, m, rfl, hKind, hRead, Step.sent_of_forall₂ hEarlier⟩

end Download

/-- Deeds that follow an agenda keep to the dialogue. -/
theorem keepsToDialogue_of_follows {t : Test} {port : Nat} {x : Transfer} {m : Message}
    {done : List Exchange} {result : Option (Except Failure Binary64)}
    (h : Follows (finalRate x m t) (agenda t port x m) done result) :
    KeepsToDialogue t port x done result where
  attempts := messages_agenda t port x m ▸ h.calls_prefix.filterMap frame?
  sends := messages_agenda t port x m ▸ h.sent_prefix
  succeeds_iff := succeeds_iff h
  waits_iff := h.waits_iff
  port_is_open _ _ _ hDone := port_is_open h hDone
  channel_is_open _ _ _ hDone := channel_is_open h hDone
  transfer_is_over _ _ _ hDone := transfer_is_over h hDone
  silent_behind_failure _ _ hMem hOutcome := silent_behind_failure h hMem hOutcome
  closes := closes_eq h
  client_is_heard := by
    rintro rfl _ _ _ hDone
    exact client_is_heard h hDone
  upload_rate := by
    rintro rfl r hResult
    exact (h.of_result_ok hResult).1

/-- The same over a control connection and a data channel in memory. -/
theorem keepsToDialogue_onLoopback (t : Test) (s : Session.Surroundings Loopback) :
    let course := ((builtIn s.outside.config).get t).course
    let answering := Session.answerCall Loopback.answer
    ∃ port x, KeepsToDialogue t port x (deeds (course.transcript answering s))
      (course.run answering s).1 := by
  intro course answering
  obtain ⟨⟨port, x, m⟩, hFollows⟩ := keeps_agenda (Party.onLoopback s.outside.config) t s
  have hAlike := alike_onLoopback s.outside.config
  rw [← hAlike.transcript course ⟨rfl, rfl⟩, ← (hAlike.run course ⟨rfl, rfl⟩).1] at hFollows
  exact ⟨port, x, keepsToDialogue_of_follows hFollows⟩

/-- A download to a client that takes all the data and then never tells what it has measured. -/
example :
    let silent : Stream := .ofArrivals [] .silent
    let s : Session.Surroundings Loopback :=
      ⟨.ofPeekStream (.ofStream silent) none, [], [], .ofClient .default (.ok 4000) (some silent)⟩
    sent (deeds ((downloadCourse .default).transcript (Session.answerCall Loopback.answer) s)) =
      [prepare 4000, start, report ⟨.ok (), 8192, .ofSecs 1⟩] := by decide +kernel

end SpeedTest.SubTest
