import SpeedTest.Proofs.Stream.Writing
import SpeedTest.Connection

/-! What a link puts on its stream. Nothing that a link sends has to wait for the peer: writes and
flushes succeed or fail at once, so sending and closing end too. On a stream that takes everything,
what is sent goes out whole and in order, with the answers that were held back in between. -/

namespace SpeedTest

/-- An operation that never waits for ever. -/
def Action.Prompt {σ ε α : Type} (x : Action σ ε α) : Prop := ∀ s, (x s).1 ≠ .pending

namespace Action.Prompt

variable {σ τ ε ε' α β : Type} {x : Action σ ε α} {f : α → Action σ ε β}

theorem pure (a : α) : Prompt (Pure.pure a : Action σ ε α) := fun _ h => by cases h

theorem modify (g : σ → σ) : Prompt (Action.modify g : Action σ ε Unit) := fun _ h => by cases h

theorem bind (hx : Prompt x) (hf : ∀ a, Prompt (f a)) : Prompt (x >>= f) := by
  intro s
  have hFirst := hx s
  rw [Action.bind_apply]
  generalize x s = y at hFirst
  obtain ⟨r, s'⟩ := y
  cases r with
  | done a => exact hf a s'
  | failed e => exact fun h => by cases h
  | pending => exact absurd rfl hFirst

theorem mapError (hx : Prompt x) (g : ε → ε') : Prompt (x.mapError g) := by
  intro s
  have hFirst := hx s
  rw [Action.mapError]
  generalize x s = y at hFirst
  obtain ⟨r, s'⟩ := y
  cases r with
  | done a => exact fun h => by cases h
  | failed e => exact fun h => by cases h
  | pending => exact absurd rfl hFirst

theorem focus (hx : Prompt x) (part : τ → σ) (put : σ → τ → τ) : Prompt (x.focus part put) :=
  fun t => hx (part t)

end Action.Prompt

/-- A stream on which every write and every flush succeeds, though a write may take only a part. -/
structure Stream.TakesAll (s : Stream) : Prop where
  accepting : s.Accepting
  flushFault : ∀ n, s.flushFault n = none

namespace WebSocket.Link

theorem prompt_drain : Action.Prompt drain := by
  intro l
  fun_induction drain l with
  | case1 l h => exact fun h => by cases h
  | case2 l h e s hWrite => exact fun h => by cases h
  | case3 l h s hWrite => exact absurd (congrArg Prod.fst hWrite) (Stream.write_ne_pending _ _)
  | case4 l h s hWrite => exact fun h => by cases h
  | case5 l h n s hWrite hn ih => exact ih

theorem prompt_gather (frame : Bytes) : Action.Prompt (gather frame) := by
  intro l
  unfold gather
  dsimp only
  split
  · split
    · exact fun h => by cases h
    · exact prompt_drain _
  · exact fun h => by cases h

theorem prompt_gatherAnswer : Action.Prompt gatherAnswer := by
  intro l
  unfold gatherAnswer
  dsimp only
  split
  · split
    · exact fun h => by cases h
    · split
      · exact fun h => by cases h
      · exact fun h => by cases h
      · rename_i hDrain
        exact absurd (congrArg Prod.fst hDrain) (prompt_drain _)
  · cases l.answer with
    | none => exact fun h => by cases h
    | some a =>
        have hGather := (prompt_gather a.render).bind fun _ => Action.Prompt.pure true
        exact ((Action.Prompt.modify _).bind fun _ => hGather) l

theorem prompt_flush : Action.Prompt flush :=
  prompt_gatherAnswer.bind fun _ => prompt_drain.bind fun _ =>
    (Action.Prompt.focus Stream.flush_ne_pending _ _).mapError _

theorem prompt_settleOutput : Action.Prompt settleOutput := by
  intro l
  unfold settleOutput
  split
  · exact fun h => by cases h
  · exact prompt_flush l

theorem prompt_checkActive : Action.Prompt checkActive := by
  intro l
  unfold checkActive
  split <;> exact fun h => by cases h

theorem prompt_close : Action.Prompt close :=
  prompt_checkActive.bind fun _ => (Action.Prompt.modify _).bind fun _ =>
    (prompt_gather _).bind fun _ => prompt_flush.bind fun _ => prompt_settleOutput

variable {l l' l'' : Link} {bytes bytes' : Bytes}

/-- Everything that has been put out, whether it has been written or still waits to be. -/
def produced (l : Link) : Bytes := l.stream.written ++ l.output

/-- The second link is the first after `bytes` have been put out behind everything else. -/
inductive Puts (l : Link) (bytes : Bytes) : Link → Prop
  | intro (writes : Nat) (sent : List Bytes) (flushes : Nat) (output : Bytes)
      (hProduced : sent.reverse.flatten ++ output = l.produced ++ bytes) :
      Puts l bytes { l with
        stream := { l.stream with
          writes := writes
          sent := sent
          flushes := flushes }
        output := output }

theorem Puts.refl (l : Link) : Puts l [] l :=
  .intro l.stream.writes l.stream.sent l.stream.flushes l.output (List.append_nil _).symm

theorem Puts.produced_eq (h : Puts l bytes l') : l'.produced = l.produced ++ bytes := by
  obtain ⟨writes, sent, flushes, output, hProduced⟩ := h
  exact hProduced

theorem Puts.trans (h : Puts l bytes l') (h' : Puts l' bytes' l'') :
    Puts l (bytes ++ bytes') l'' := by
  have hFirst := h.produced_eq
  obtain ⟨writes, sent, flushes, output, -⟩ := h
  obtain ⟨writes', sent', flushes', output', hProduced⟩ := h'
  refine .intro writes' sent' flushes' output' ?_
  rw [hProduced, hFirst, List.append_assoc]

theorem Puts.takesAll (h : Puts l bytes l') (hTakes : l.stream.TakesAll) : l'.stream.TakesAll := by
  obtain ⟨writes, sent, flushes, output, -⟩ := h
  exact ⟨⟨hTakes.accepting.room, hTakes.accepting.grant⟩, hTakes.flushFault⟩

theorem Puts.phase_eq (h : Puts l bytes l') : l'.phase = l.phase := by
  obtain ⟨writes, sent, flushes, output, -⟩ := h
  rfl

theorem Puts.answer_eq (h : Puts l bytes l') : l'.answer = l.answer := by
  obtain ⟨writes, sent, flushes, output, -⟩ := h
  rfl

/-- All gathered output is written. -/
theorem drain_of_takesAll (hTakes : l.stream.TakesAll) :
    ∃ l', drain l = (.done (), l') ∧ Puts l [] l' ∧ l'.output = [] := by
  induction hLength : l.output.length using Nat.strongRecOn generalizing l with
  | ind length ih =>
      rw [drain]
      by_cases hNone : l.output = []
      · exact ⟨l, by rw [dif_pos hNone], .refl l, hNone⟩
      obtain ⟨front, back, hFront, hOutput, hWrite⟩ := hTakes.accepting.write hNone
      have hPos := List.length_pos_iff.mpr hFront
      have hShorter : back.length < length := by
        rw [← hLength, hOutput, List.length_append]
        omega
      rw [dif_neg hNone, hWrite]
      simp only [dif_neg (Nat.ne_of_gt hPos)]
      rw [show l.output.drop front.length = back by rw [hOutput, List.drop_left]]
      have hPuts : Puts l [] { l with
          stream := { l.stream with writes := l.stream.writes + 1, sent := front :: l.stream.sent }
          output := back } := by
        refine .intro (l.stream.writes + 1) (front :: l.stream.sent) l.stream.flushes back ?_
        simp [produced, Stream.written, hOutput]
      obtain ⟨l', hRest, hPuts', hEmpty⟩ := ih back.length hShorter (hPuts.takesAll hTakes) rfl
      exact ⟨l', hRest, hPuts.trans hPuts', hEmpty⟩

theorem gather_of_takesAll (hTakes : l.stream.TakesAll) (frame : Bytes) :
    ∃ l', gather frame l = (.done (), l') ∧ Puts l frame l' := by
  have hPuts : Puts l frame { l with output := l.output ++ frame } :=
    .intro l.stream.writes l.stream.sent l.stream.flushes _ (List.append_assoc ..).symm
  rw [gather]
  dsimp only
  split
  · obtain ⟨l', hDrain, hPuts', -⟩ := drain_of_takesAll (hPuts.takesAll hTakes)
    refine ⟨l', by rw [hDrain], ?_⟩
    exact List.append_nil frame ▸ hPuts.trans hPuts'
  · exact ⟨_, rfl, hPuts⟩

/-- The bytes of the answer that is held back. -/
def owed (l : Link) : Bytes := (l.answer.map Answer.render).getD []

/-- The link after its answer has left. -/
def settled (l : Link) : Link := { l with answer := none }

theorem settled_of_none (h : l.answer = none) : l.settled = l := by rw [settled, ← h]

theorem owed_of_none (h : l.answer = none) : l.owed = [] := by rw [owed, h]; rfl

theorem Puts.settled (h : Puts l bytes l') : Puts l.settled bytes l'.settled := by
  obtain ⟨writes, sent, flushes, output, hProduced⟩ := h
  exact .intro writes sent flushes output hProduced

theorem gatherAnswer_of_takesAll (hTakes : l.stream.TakesAll) (hPhase : l.phase = .active) :
    ∃ l', gatherAnswer l = (.done l.answer.isSome, l') ∧ Puts l.settled l.owed l' := by
  unfold gatherAnswer
  cases hAnswer : l.answer with
  | none =>
      refine ⟨l, ?_, ?_⟩
      · simp [Action.pure, hPhase, Phase.canRead]
      · rw [settled_of_none hAnswer, owed_of_none hAnswer]
        exact .refl l
  | some a =>
      obtain ⟨l', hGather, hPuts⟩ :=
        gather_of_takesAll (l := l.settled) hTakes a.render
      refine ⟨l', ?_, by rw [owed, hAnswer]; exact hPuts⟩
      have hPhase' : l'.phase = .active := by
        obtain ⟨writes, sent, flushes, output, -⟩ := hPuts
        exact hPhase
      simp only [Action.bind_apply, Action.modify]
      rw [settled] at hGather
      simp [hGather, hPhase', Phase.canRead]

/-- Everything that waits is written, the answer that is held back included. -/
theorem flush_of_takesAll (hTakes : l.stream.TakesAll) (hPhase : l.phase = .active) :
    ∃ l', flush l = (.done (), l') ∧ Puts l.settled l.owed l' ∧ l'.output = [] := by
  obtain ⟨l₁, hAnswer, hPuts₁⟩ := gatherAnswer_of_takesAll hTakes hPhase
  have hTakes₁ : l₁.stream.TakesAll := hPuts₁.takesAll hTakes
  obtain ⟨l₂, hDrain, hPuts₂, hEmpty⟩ := drain_of_takesAll hTakes₁
  have hPuts := hPuts₁.trans hPuts₂
  have hTakes₂ : l₂.stream.TakesAll := hPuts₂.takesAll hTakes₁
  rw [List.append_nil] at hPuts
  rw [flush, Action.bind_apply, hAnswer]
  dsimp only
  rw [Action.bind_apply, hDrain]
  simp only [Action.mapError, Action.focus, Stream.flush, hTakes₂.flushFault]
  refine ⟨_, rfl, ?_, hEmpty⟩
  obtain ⟨writes, sent, flushes, output, hProduced⟩ := hPuts
  exact .intro writes sent (flushes + 1) output hProduced

/-- Where nothing is held back and nothing waits, writing what waits puts nothing out. -/
theorem settleOutput_of_takesAll (hTakes : l.stream.TakesAll) (hPhase : l.phase = .active) :
    ∃ l', settleOutput l = (.done (), l') ∧ Puts l.settled l.owed l' ∧ l'.output = [] := by
  obtain ⟨l', hFlush, hPuts⟩ := flush_of_takesAll hTakes hPhase
  exact ⟨l', by rw [settleOutput, hFlush], hPuts⟩

/-- Before a frame is read, the answer that is held back has left. -/
theorem settle_of_takesAll (hTakes : l.stream.TakesAll) (hPhase : l.phase = .active)
    (hOutput : l.output = []) :
    ∃ l', settle l = (.done (), l') ∧ Puts l.settled l.owed l' ∧ l'.output = [] := by
  rw [settle]
  cases hAnswer : l.answer with
  | none =>
      refine ⟨l, by simp [hPhase, Phase.canRead], ?_, hOutput⟩
      rw [settled_of_none hAnswer, owed_of_none hAnswer]
      exact .refl l
  | some a => exact flush_of_takesAll hTakes hPhase

/-- A message goes out whole, and behind it the answer that was held back. -/
theorem send_of_takesAll (hTakes : l.stream.TakesAll) (hPhase : l.phase = .active)
    (payload : Bytes) :
    ∃ l', send payload l = (.done (), l') ∧
      Puts l.settled (Frame.render .binary payload ++ l.owed) l' ∧ l'.output = [] := by
  obtain ⟨l₁, hGather, hPuts₁⟩ := gather_of_takesAll hTakes (Frame.render .binary payload)
  have hTakes₁ := hPuts₁.takesAll hTakes
  have hPhase₁ : l₁.phase = .active := hPuts₁.phase_eq.trans hPhase
  obtain ⟨l₂, hAnswer, hPuts₂⟩ := gatherAnswer_of_takesAll hTakes₁ hPhase₁
  have hTakes₂ := hPuts₂.takesAll hTakes₁
  have hPhase₂ : l₂.phase = .active := hPuts₂.phase_eq.trans hPhase₁
  have hNone₂ : l₂.answer = none := hPuts₂.answer_eq
  have hSent : Puts l.settled (Frame.render .binary payload ++ l.owed) l₂ := by
    rw [owed, ← hPuts₁.answer_eq]
    exact hPuts₁.settled.trans hPuts₂
  -- Behind an answer the stream is flushed once more than without one.
  have hFlush : ∃ l₃, (if l₁.answer.isSome then flush else pure ()) l₂ = (.done (), l₃) ∧
      Puts l₂ [] l₃ := by
    cases l₁.answer.isSome with
    | false => exact ⟨l₂, rfl, .refl l₂⟩
    | true =>
        obtain ⟨l₃, hFlush, hPuts₃, -⟩ := flush_of_takesAll hTakes₂ hPhase₂
        rw [settled_of_none hNone₂, owed_of_none hNone₂] at hPuts₃
        exact ⟨l₃, hFlush, hPuts₃⟩
  obtain ⟨l₃, hFlush, hPuts₃⟩ := hFlush
  have hNone₃ : l₃.answer = none := hPuts₃.answer_eq.trans hNone₂
  obtain ⟨l₄, hOutput, hPuts₄, hEmpty⟩ := settleOutput_of_takesAll (hPuts₃.takesAll hTakes₂)
    (hPuts₃.phase_eq.trans hPhase₂)
  rw [settled_of_none hNone₃, owed_of_none hNone₃] at hPuts₄
  refine ⟨l₄, ?_, ?_, hEmpty⟩
  · have hActive : checkActive l = (.done (), l) := by rw [checkActive, hPhase]
    rw [send, Action.bind_apply, hActive]
    dsimp only
    rw [Action.bind_apply, hGather]
    dsimp only
    rw [Action.bind_apply, hAnswer]
    dsimp only
    cases hSome : l₁.answer.isSome with
    | false =>
        rw [hSome] at hFlush
        cases hFlush
        exact hOutput
    | true =>
        rw [hSome] at hFlush
        rw [if_pos rfl] at hFlush ⊢
        rw [Action.bind_apply, hFlush]
        exact hOutput
  · have hAll := (hSent.trans hPuts₃).trans hPuts₄
    rwa [List.append_nil, List.append_nil] at hAll

end WebSocket.Link

end SpeedTest
