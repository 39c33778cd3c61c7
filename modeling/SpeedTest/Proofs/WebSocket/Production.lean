import SpeedTest.Proofs.Stream.Refusing
import SpeedTest.Proofs.WebSocket.Output

/-! What a link puts out whatever its stream makes of it. A write that is refused leaves the bytes
where they wait, so that no frame is ever torn: everything that has been put out, be it written or
not, is whole frames one after another. Nothing is assumed of the peer or of the stream. -/

namespace SpeedTest.WebSocket

/-- The bytes that a link puts out: messages in order, each in a frame of its own, and in between
pongs and closes. -/
inductive Tells : List Bytes → Bytes → Prop
  | nothing : Tells [] []
  | aside {messages : List Bytes} {w : Bytes} (a : Answer) (next : Tells messages w) :
      Tells messages (a.render ++ w)
  | message {messages : List Bytes} {w : Bytes} (payload : Bytes) (next : Tells messages w) :
      Tells (payload :: messages) (Frame.render .binary payload ++ w)

theorem Tells.append {messages messages' : List Bytes} {w w' : Bytes} (h : Tells messages w)
    (h' : Tells messages' w') : Tells (messages ++ messages') (w ++ w') := by
  induction h with
  | nothing => exact h'
  | aside a _ ih =>
      rw [List.append_assoc]
      exact .aside a ih
  | message payload _ ih =>
      rw [List.append_assoc]
      exact .message payload ih

theorem Tells.answer (a : Answer) : Tells [] a.render :=
  List.append_nil a.render ▸ .aside a .nothing

theorem Tells.single (payload : Bytes) : Tells [payload] (Frame.render .binary payload) :=
  List.append_nil (Frame.render .binary payload) ▸ .message payload .nothing

namespace Link

variable {l l' l'' : Link} {messages messages' : List Bytes}

/-- From `l` to `l'` the link has put out `messages` and nothing else but answers. -/
structure Yields (messages : List Bytes) (l l' : Link) : Prop where
  tells : ∃ bytes, Tells messages bytes ∧ l'.produced = l.produced ++ bytes
  refusals_le : l.stream.refusals ≤ l'.stream.refusals

namespace Yields

/-- Nothing is put out where neither the output nor what has been written changes. -/
theorem of_same (hProduced : l'.produced = l.produced)
    (hRefusals : l'.stream.refusals = l.stream.refusals) : Yields [] l l' :=
  ⟨⟨[], .nothing, by rw [hProduced, List.append_nil]⟩, Int.le_of_eq hRefusals.symm⟩

theorem refl (l : Link) : Yields [] l l := .of_same rfl rfl

theorem trans (h : Yields messages l l') (h' : Yields messages' l' l'') :
    Yields (messages ++ messages') l l'' := by
  obtain ⟨⟨bytes, hTells, hProduced⟩, hLe⟩ := h
  obtain ⟨⟨bytes', hTells', hProduced'⟩, hLe'⟩ := h'
  refine ⟨⟨bytes ++ bytes', hTells.append hTells', ?_⟩, Int.le_trans hLe hLe'⟩
  rw [hProduced', hProduced, List.append_assoc]

end Yields

/-- A link that has put out `messages` and has nothing waiting if it had nothing waiting before and
no write has been refused. -/
structure Speaks (messages : List Bytes) (l l' : Link) : Prop extends Yields messages l l' where
  clear : l'.stream.refusals = l.stream.refusals → l.output = [] → l'.output = []

namespace Speaks

theorem of_same (hWritten : l'.stream.written = l.stream.written)
    (hRefusals : l'.stream.refusals = l.stream.refusals) (hOutput : l'.output = l.output) :
    Speaks [] l l' :=
  ⟨.of_same (by rw [produced, hWritten, hOutput, produced]) hRefusals,
    fun _ hNone => hOutput.trans hNone⟩

theorem refl (l : Link) : Speaks [] l l := .of_same rfl rfl rfl

theorem trans (h : Speaks messages l l') (h' : Speaks messages' l' l'') :
    Speaks (messages ++ messages') l l'' where
  toYields := h.toYields.trans h'.toYields
  clear hSame hNone := by
    have hFirst := h.refusals_le
    have hSecond := h'.refusals_le
    exact h'.clear (by omega) (h.clear (by omega) hNone)

end Speaks

/-- Draining moves output to the stream, and stops only where a write is refused. -/
theorem drain_spec (l : Link) :
    (drain l).2.produced = l.produced ∧ l.stream.refusals ≤ (drain l).2.stream.refusals ∧
      ((drain l).2.stream.refusals = l.stream.refusals →
        (drain l).1 = .done () ∧ (drain l).2.output = []) := by
  fun_induction drain l with
  | case1 l h => exact ⟨rfl, Int.le_refl _, fun _ => ⟨rfl, h⟩⟩
  | case2 l h e t hWrite | case3 l h t hWrite | case4 l h t hWrite =>
      obtain ⟨hWritten, hMore⟩ := (Stream.wrote_of_write h hWrite).of_refused (by simp)
      refine ⟨by rw [produced, hWritten, produced], ?_, fun hSame => ?_⟩
      · dsimp only
        omega
      · dsimp only at hSame
        omega
  | case5 l h n t hWrite hn ih =>
      obtain ⟨front, back, -, hSplit, rfl, hWritten, hRefusals⟩ :=
        (Stream.wrote_of_write h hWrite).of_done hn
      obtain ⟨hProduced, hLe, hDone⟩ := ih
      rw [hSplit, List.drop_left] at hProduced hLe hDone ⊢
      dsimp only at hLe hDone
      rw [hRefusals] at hLe hDone
      refine ⟨?_, hLe, hDone⟩
      rw [hProduced, produced, hWritten, produced, hSplit, List.append_assoc]

variable {α β : Type}

/-- An operation that puts out `messages`, and behind which nothing waits where it has an outcome of
the given kind, unless a write is refused. -/
def Leaves (messages : List Bytes) (kind : Outcome Error α → Prop) (x : Action Link Error α) :
    Prop :=
  ∀ l, Yields messages l (x l).2 ∧
    ((x l).2.stream.refusals = l.stream.refusals → kind (x l).1 → (x l).2.output = [])

/-- An operation that stops early only where a write is refused or nothing waits. -/
def Stops (messages : List Bytes) (x : Action Link Error α) : Prop :=
  Leaves messages (fun r => ∀ a, r ≠ .done a) x

/-- An operation behind which nothing waits unless a write is refused. -/
def Clears (messages : List Bytes) (x : Action Link Error α) : Prop :=
  Leaves messages (fun _ => True) x

theorem Clears.stops {x : Action Link Error α} (h : Clears messages x) : Stops messages x :=
  fun l => ⟨(h l).1, fun hSame _ => (h l).2 hSame trivial⟩

theorem Clears.speaks {x : Action Link Error α} (h : Clears messages x) (l : Link) :
    Speaks messages l (x l).2 := ⟨(h l).1, fun hSame _ => (h l).2 hSame trivial⟩

theorem Stops.pure (a : α) : Stops [] (Pure.pure a : Action Link Error α) :=
  fun l => ⟨.refl l, fun _ hStops => absurd rfl (hStops a)⟩

/-- What comes behind an operation decides what is left, as it is reached only where the operation
has not stopped. -/
theorem Stops.bind {x : Action Link Error α} {f : α → Action Link Error β}
    {kind : Outcome Error β → Prop} (hx : Stops messages x) (hf : ∀ a, Leaves [] kind (f a)) :
    Leaves messages kind (x >>= f) := by
  intro l
  obtain ⟨hFirst, hStops⟩ := hx l
  rw [Action.bind_apply]
  generalize x l = y at hFirst hStops
  obtain ⟨r, l'⟩ := y
  cases r with
  | failed e | pending => exact ⟨hFirst, fun hSame _ => hStops hSame (by simp)⟩
  | done a =>
      obtain ⟨hSecond, hKind⟩ := hf a l'
      have hLe := hFirst.refusals_le
      have hLe' := hSecond.refusals_le
      dsimp only at hFirst hLe ⊢
      exact ⟨List.append_nil messages ▸ hFirst.trans hSecond, fun hSame => hKind (by omega)⟩

theorem clears_drain : Clears [] drain := by
  intro l
  obtain ⟨hProduced, hLe, hDone⟩ := drain_spec l
  exact ⟨⟨⟨[], .nothing, by rw [hProduced, List.append_nil]⟩, hLe⟩, fun hSame _ => (hDone hSame).2⟩

/-- A frame that is gathered has been put out, even if it cannot be written yet. -/
theorem stops_gather {frame : Bytes} (hTells : Tells messages frame) :
    Stops messages (gather frame) := by
  intro l
  have hGathered : ({ l with output := l.output ++ frame } : Link).produced = l.produced ++ frame :=
    (List.append_assoc ..).symm
  rw [gather]
  dsimp only
  split
  · obtain ⟨hProduced, hLe, hDone⟩ := drain_spec { l with output := l.output ++ frame }
    rw [hGathered] at hProduced
    generalize drain _ = y at hProduced hLe hDone
    obtain ⟨r, l'⟩ := y
    have hYields : Yields messages l l' := ⟨⟨frame, hTells, hProduced⟩, hLe⟩
    have hClear (hSame : l'.stream.refusals = l.stream.refusals) : l'.output = [] := (hDone hSame).2
    rcases r with u | e | _
    · exact ⟨hYields, fun hSame _ => hClear hSame⟩
    · cases e <;> exact ⟨hYields, fun hSame _ => hClear hSame⟩
    · exact ⟨hYields, fun hSame _ => hClear hSame⟩
  · exact ⟨⟨⟨frame, hTells, hGathered⟩, Int.le_refl _⟩, fun _ hStops => absurd rfl (hStops ())⟩

/-- Gather the answer that is held back, if there is one. -/
def releaseAnswer : Action Link Error Bool := fun l =>
  match l.answer with
  | none => (.done false, l)
  | some a =>
    (gather a.render >>= fun _ => pure true : Action Link Error Bool) { l with answer := none }

/-- Terminate a link from which nothing is to be read any more. -/
def expire (taken : Bool) : Action Link Error Bool := fun l =>
  if l.phase.canRead then (.done taken, l)
  else
    match drain l with
    | (.done (), l') => (.failed .connectionClosed, { l' with phase := .terminated })
    | (.failed e, l') => (.failed e, l')
    | (.pending, l') => (.pending, l')

theorem gatherAnswer_eq : gatherAnswer = releaseAnswer >>= expire := by
  funext l
  rw [Action.bind_apply, gatherAnswer, releaseAnswer]
  cases l.answer with
  | none => rfl
  | some a =>
      simp only [Action.bind_apply, Action.modify, Action.pure_apply]
      generalize gather a.render { l with answer := none } = x
      obtain ⟨r, l'⟩ := x
      cases r <;> rfl

theorem stops_releaseAnswer : Stops [] releaseAnswer := by
  intro l
  rw [releaseAnswer]
  cases l.answer with
  | none => exact ⟨.refl l, fun _ hStops => absurd rfl (hStops false)⟩
  | some a =>
      have hGather := (stops_gather (.answer a)).bind fun _ => Stops.pure true
      obtain ⟨⟨hTells, hLe⟩, hStops⟩ := hGather { l with answer := none }
      exact ⟨⟨hTells, hLe⟩, hStops⟩

theorem stops_expire (taken : Bool) : Stops [] (expire taken) := by
  intro l
  rw [expire]
  split
  · exact ⟨.refl l, fun _ hStops => absurd rfl (hStops taken)⟩
  · obtain ⟨hYields, hClear⟩ := clears_drain l
    generalize drain l = y at hYields hClear
    obtain ⟨r, l'⟩ := y
    cases r with
    | done u => exact ⟨⟨hYields.tells, hYields.refusals_le⟩, fun hSame _ => hClear hSame trivial⟩
    | failed e | pending => exact ⟨hYields, fun hSame _ => hClear hSame trivial⟩

theorem stops_gatherAnswer : Stops [] gatherAnswer := by
  rw [gatherAnswer_eq]
  exact stops_releaseAnswer.bind stops_expire

/-- Flushing the stream neither writes nor gathers anything. -/
theorem flushStream_spec (l : Link) :
    let x : Action Link Error Unit :=
      (Action.focus Link.stream (fun s l => { l with stream := s }) Stream.flush).mapError .io
    Yields [] l (x l).2 ∧ (x l).2.output = l.output := by
  have hRefusals : (Stream.flush l.stream).2.refusals = l.stream.refusals := by
    unfold Stream.flush
    dsimp only
    split <;> rfl
  intro x
  rw [Action.mapError_state]
  refine ⟨.of_same ?_ hRefusals, rfl⟩
  show (Stream.flush l.stream).2.written ++ l.output = _
  rw [Stream.written_flush, produced]

/-- A flush writes everything that waits. -/
theorem clears_flush : Clears [] flush := by
  refine stops_gatherAnswer.bind fun _ l => ?_
  obtain ⟨hYields, hClear⟩ := clears_drain l
  rw [Action.bind_apply]
  generalize drain l = y at hYields hClear
  obtain ⟨r, l'⟩ := y
  cases r with
  | failed e | pending => exact ⟨hYields, hClear⟩
  | done u =>
      obtain ⟨hFlushed, hOutput⟩ := flushStream_spec l'
      have hLe := hYields.refusals_le
      have hLe' := hFlushed.refusals_le
      refine ⟨hYields.trans hFlushed, fun hSame _ => hOutput.trans (hClear ?_ trivial)⟩
      dsimp only at hLe hLe' hSame ⊢
      omega

theorem clears_settleOutput : Clears [] settleOutput := by
  intro l
  have hState : (settleOutput l).2 = (flush l).2 := by
    rw [settleOutput]
    split
    · rename_i hFlush
      rw [hFlush]
    · rfl
  rw [hState]
  exact clears_flush l

/-- A message that is sent on an active link is put out in a frame of its own. -/
theorem speaks_send {l : Link} (hActive : l.phase = .active) (payload : Bytes) :
    Speaks [payload] l (send payload l).2 := by
  have hSend : Clears [payload] (do
      gather (Frame.render .binary payload)
      if ← gatherAnswer then flush
      settleOutput) := by
    refine (stops_gather (.single payload)).bind fun _ => ?_
    refine stops_gatherAnswer.bind fun taken => ?_
    cases taken with
    | false => exact clears_settleOutput
    | true => exact clears_flush.stops.bind fun _ => clears_settleOutput
  have hCheck : checkActive l = (.done (), l) := by rw [checkActive, hActive]
  rw [send, Action.bind_apply, hCheck]
  exact hSend.speaks l

/-- A link that is not active sends nothing. -/
theorem send_of_not_active {l : Link} (h : l.phase ≠ .active) (payload : Bytes) :
    (send payload l).2 = l := by
  have hCheck : ∃ e, checkActive l = (.failed e, l) := by
    rw [checkActive]
    cases hPhase : l.phase with
    | active => exact absurd hPhase h
    | terminated => exact ⟨_, rfl⟩
    | _ => exact ⟨_, rfl⟩
  obtain ⟨e, hFailed⟩ := hCheck
  rw [send, Action.bind_apply, hFailed]

/-- Closing a link puts out a close, if the link is active, and no message. -/
theorem speaks_close (l : Link) : Speaks [] l (close l).2 := by
  have hClose : Clears [] (do
      gather (Frame.render .close [])
      flush
      settleOutput) :=
    (stops_gather (.answer (.close []))).bind fun _ => clears_flush.stops.bind fun _ =>
      clears_settleOutput
  rw [close, Action.bind_apply, checkActive]
  cases l.phase with
  | active =>
      obtain ⟨⟨hTells, hLe⟩, hClear⟩ := hClose.speaks { l with phase := .closedByUs }
      exact ⟨⟨hTells, hLe⟩, hClear⟩
  | _ => exact .refl l

/-- Before a frame is read, nothing but an answer is put out. -/
theorem speaks_settle (l : Link) : Speaks [] l (settle l).2 := by
  rw [settle]
  split
  · exact clears_flush.speaks l
  · split
    · exact .refl l
    · exact .of_same rfl rfl rfl

/-- Taking in a frame leaves alone what has been read, what is still to arrive and what has been put
out. -/
theorem takeFrame_state (f : Frame) (l : Link) :
    ∃ phase answer begun,
      (takeFrame f l).2 = { l with phase := phase, answer := answer, begun := begun } := by
  have hSame : ∃ phase answer begun,
      l = { l with phase := phase, answer := answer, begun := begun } :=
    ⟨l.phase, l.answer, l.begun, rfl⟩
  have hHold (a : Answer) (l : Link) : ∃ answer, hold a l = { l with answer := answer } := by
    unfold hold
    split
    · exact ⟨l.answer, rfl⟩
    · exact ⟨some a, rfl⟩
  have hControl : ∃ phase answer begun,
      (takeControl f l).2 = { l with phase := phase, answer := answer, begun := begun } := by
    unfold takeControl
    split
    · exact hSame
    split
    · exact hSame
    split
    · dsimp only
      split
      · obtain ⟨answer, hHeld⟩ := hHold (.pong f.payload) l
        exact ⟨l.phase, answer, l.begun, hHeld⟩
      · exact hSame
    · exact hSame
    · split
      · exact hSame
      · split
        · rename_i reply _ _ _
          obtain ⟨answer, hHeld⟩ := hHold (.close reply) { l with phase := .closedByPeer }
          exact ⟨.closedByPeer, answer, l.begun, hHeld⟩
        · exact ⟨.acknowledged, l.answer, l.begun, rfl⟩
        · exact hSame
  have hData : ∃ phase answer begun,
      (takeData f l).2 = { l with phase := phase, answer := answer, begun := begun } := by
    unfold takeData
    dsimp only
    repeat' split
    all_goals exact ⟨l.phase, l.answer, _, rfl⟩
  unfold takeFrame
  split
  · exact hSame
  split
  · exact hSame
  split
  · exact hControl
  · exact hData

/-- Taking in a frame may hold back an answer, but puts nothing out. -/
theorem speaks_takeFrame (f : Frame) (l : Link) : Speaks [] l (takeFrame f l).2 := by
  obtain ⟨phase, answer, begun, hState⟩ := takeFrame_state f l
  rw [hState]
  exact .of_same rfl rfl rfl

theorem speaks_deliver (rounds : Nat) (l : Link) : Speaks [] l (deliver rounds l).2 := by
  induction rounds generalizing l with
  | zero => exact .refl l
  | succ rounds ih =>
      rw [deliver]
      split
      · exact .refl l
      · rename_i f rest hFrame
        have hTaken : Speaks [] l (takeFrame f { l with input := rest }).2 :=
          (Speaks.of_same rfl rfl rfl : Speaks [] l { l with input := rest }).trans
            (speaks_takeFrame f _)
        generalize takeFrame f { l with input := rest } = x at hTaken
        obtain ⟨r, l'⟩ := x
        rcases r with e | _ | event
        · exact hTaken
        · have hSettled := hTaken.trans (speaks_settle l')
          dsimp only
          generalize settle l' = y at hSettled
          obtain ⟨r', l''⟩ := y
          cases r' with
          | done u => exact hSettled.trans (ih l'')
          | failed e | pending => exact hSettled
        · exact hTaken
      · -- A read of the stream takes no part in what is put out.
        have hRead : Speaks [] l { l with stream := (Stream.read pieceSize l.stream).2 } :=
          .of_same rfl rfl rfl
        generalize Stream.read pieceSize l.stream = x at hRead
        obtain ⟨r, s⟩ := x
        cases r with
        | failed e | pending => exact hRead
        | done bs =>
            dsimp only at hRead ⊢
            split
            · exact hRead.trans (.of_same rfl rfl rfl)
            · have hTaken : Speaks [] l { l with stream := s, input := l.input ++ bs } :=
                hRead.trans (.of_same rfl rfl rfl)
              exact hTaken.trans (ih _)

theorem speaks_receive (l : Link) : Speaks [] l (receive l).2 := by
  rw [receive]
  split
  · exact .refl l
  · have hSettled := speaks_settle l
    generalize settle l = x at hSettled
    obtain ⟨r, l'⟩ := x
    cases r with
    | done u => exact hSettled.trans (speaks_deliver _ l')
    | failed e | pending => exact hSettled

/-- Reading puts out answers and nothing else. -/
theorem speaks_next (l : Link) : Speaks [] l (next l).2 := by
  rw [next]
  split
  · exact .refl l
  · have hReceived := speaks_receive l
    generalize receive l = x at hReceived
    obtain ⟨r, l'⟩ := x
    cases r with
    | done event | pending => exact hReceived
    | failed e =>
        dsimp only
        split <;> exact hReceived.trans (.of_same rfl rfl rfl)

/-- So does reading a frame, however many pings and pongs are passed over. -/
theorem speaks_frameOfEvents (l : Link) : Speaks [] l (frameOfEvents incoming next l).2 := by
  induction hSize : l.incoming using Nat.strongRecOn generalizing l with
  | ind size ih =>
      have hNext := speaks_next l
      rw [frameOfEvents]
      generalize next l = x at hNext
      obtain ⟨r, l'⟩ := x
      rcases r with (_ | event) | e | _
      · exact hNext
      · -- A ping or a pong is passed over only if it has left less to come.
        have hPassed : Speaks [] l (if l'.incoming < l.incoming then
            frameOfEvents incoming next l' else (.pending, l')).2 := by
          split
          · rename_i hLess
            exact hNext.trans (ih _ (hSize ▸ hLess) l' rfl)
          · exact hNext
        cases event with
        | ping | pong => exact hPassed
        | binary payload =>
            dsimp only
            cases SpeedTest.Frame.decode payload <;> exact hNext
        | text | close => exact hNext
      · exact hNext
      · exact hNext

end Link

end SpeedTest.WebSocket
