import SpeedTest.Proofs.WebSocket.Production

/-! What the close of a link amounts to, whatever its stream makes of it. A link that has not been
closed puts out one close frame, in front of the answer that it still holds back, if that leaves at
all, and waits for the peer's close. Any other link is left alone. -/

namespace SpeedTest.WebSocket.Link

variable {l l' l'' : Link} {α β : Type}

/-- From `l` to `l'` the link has put out nothing, or the answer that it held back and nothing
else. -/
structure Releases (l l' : Link) : Prop where
  phase_eq : l'.phase = l.phase
  held_or_put : l'.answer = l.answer ∧ l'.produced = l.produced ∨
    l'.answer = none ∧ l'.produced = l.produced ++ l.owed

namespace Releases

theorem refl (l : Link) : Releases l l := ⟨rfl, .inl ⟨rfl, rfl⟩⟩

theorem trans (h : Releases l l') (h' : Releases l' l'') : Releases l l'' := by
  refine ⟨h'.phase_eq.trans h.phase_eq, ?_⟩
  rcases h.held_or_put with ⟨hAnswer, hProduced⟩ | ⟨hNone, hProduced⟩
  · rcases h'.held_or_put with ⟨hAnswer', hProduced'⟩ | ⟨hNone', hProduced'⟩
    · exact .inl ⟨hAnswer'.trans hAnswer, hProduced'.trans hProduced⟩
    · refine .inr ⟨hNone', ?_⟩
      rw [hProduced', hProduced, owed, hAnswer, owed]
  · -- An answer that has left does not leave again.
    rcases h'.held_or_put with ⟨hAnswer', hProduced'⟩ | ⟨hNone', hProduced'⟩
    · exact .inr ⟨hAnswer'.trans hNone, hProduced'.trans hProduced⟩
    · refine .inr ⟨hNone', ?_⟩
      rw [hProduced', owed_of_none hNone, List.append_nil, hProduced]

end Releases

/-- An operation that puts out no more than the answer that is held back, on a link from which
something is still to be read. -/
def Releasing (x : Action Link Error α) : Prop := ∀ l, l.phase.canRead → Releases l (x l).2

theorem Releasing.bind {x : Action Link Error α} {f : α → Action Link Error β}
    (hx : Releasing x) (hf : ∀ a, Releasing (f a)) : Releasing (x >>= f) := by
  intro l hRead
  have hFirst := hx l hRead
  rw [Action.bind_apply]
  generalize x l = y at hFirst
  obtain ⟨r, l'⟩ := y
  cases r with
  | done a => exact hFirst.trans (hf a l' (hFirst.phase_eq ▸ hRead))
  | failed e | pending => exact hFirst

theorem drain_state (l : Link) :
    (drain l).2.phase = l.phase ∧ (drain l).2.answer = l.answer := by
  fun_induction drain l with
  | case1 l h => exact ⟨rfl, rfl⟩
  | case2 l h e s hWrite | case3 l h s hWrite | case4 l h s hWrite => exact ⟨rfl, rfl⟩
  | case5 l h n s hWrite hn ih => exact ih

theorem releasing_drain : Releasing drain := fun l _ =>
  ⟨(drain_state l).1, .inl ⟨(drain_state l).2, (drain_spec l).1⟩⟩

/-- A frame that is gathered is put out, whether or not it can be written. -/
theorem gather_spec (frame : Bytes) (l : Link) :
    (gather frame l).2.phase = l.phase ∧ (gather frame l).2.answer = l.answer ∧
      (gather frame l).2.produced = l.produced ++ frame := by
  have hGathered : ({ l with output := l.output ++ frame } : Link).produced = l.produced ++ frame :=
    (List.append_assoc ..).symm
  rw [gather]
  dsimp only
  split
  · obtain ⟨hPhase, hAnswer⟩ := drain_state { l with output := l.output ++ frame }
    have hProduced := (drain_spec { l with output := l.output ++ frame }).1.trans hGathered
    generalize drain _ = y at hPhase hAnswer hProduced
    obtain ⟨r, l'⟩ := y
    rcases r with u | e | _
    · exact ⟨hPhase, hAnswer, hProduced⟩
    · cases e <;> exact ⟨hPhase, hAnswer, hProduced⟩
    · exact ⟨hPhase, hAnswer, hProduced⟩
  · exact ⟨rfl, rfl, hGathered⟩

theorem releasing_releaseAnswer : Releasing releaseAnswer := by
  intro l _
  rw [releaseAnswer]
  cases hAnswer : l.answer with
  | none => exact .refl l
  | some a =>
      obtain ⟨hPhase, hNone, hProduced⟩ := gather_spec a.render { l with answer := none }
      have hReleases : Releases l (gather a.render { l with answer := none }).2 := by
        refine ⟨hPhase, .inr ⟨hNone, ?_⟩⟩
        rw [hProduced, owed, hAnswer]
        rfl
      dsimp only
      rw [Action.bind_apply]
      generalize gather a.render { l with answer := none } = y at hReleases
      obtain ⟨r, l'⟩ := y
      cases r <;> exact hReleases

theorem releasing_expire (taken : Bool) : Releasing (expire taken) := by
  intro l hRead
  rw [expire, if_pos hRead]
  exact .refl l

theorem releasing_flush : Releasing flush := by
  have hFlushStream : Releasing ((Action.focus Link.stream (fun s l => { l with stream := s })
      Stream.flush).mapError .io : Action Link Error Unit) := by
    intro l _
    rw [Action.mapError_state]
    refine ⟨rfl, .inl ⟨rfl, ?_⟩⟩
    show (Stream.flush l.stream).2.written ++ l.output = _
    rw [Stream.written_flush, produced]
  have hAnswer : Releasing gatherAnswer := by
    rw [gatherAnswer_eq]
    exact releasing_releaseAnswer.bind releasing_expire
  exact hAnswer.bind fun _ => releasing_drain.bind fun _ => hFlushStream

theorem releasing_settleOutput : Releasing settleOutput := by
  intro l hRead
  have hFlush := releasing_flush l hRead
  rw [settleOutput]
  split
  · rename_i hFailed
    rwa [hFailed] at hFlush
  · exact hFlush

/-- Closing a link that is active puts out a close frame, and behind it at most the answer that the
link held back. From then on it waits for the peer's close. Writes and flushes may fail. -/
theorem close_of_active (hActive : l.phase = .active) :
    (close l).2.phase = .closedByUs ∧ ∃ answer, (answer = [] ∨ answer = l.owed) ∧
      (close l).2.produced = l.produced ++ Frame.render .close [] ++ answer := by
  have hClose : close l = ((gather (Frame.render .close []) >>= fun _ =>
      flush >>= fun _ => settleOutput) : Action Link Error Unit)
        { l with phase := .closedByUs } := by
    rw [close, Action.bind_apply, checkActive, hActive]
    rfl
  have hBehind : Releasing (flush >>= fun _ => settleOutput) :=
    releasing_flush.bind fun _ => releasing_settleOutput
  obtain ⟨hPhase, hAnswer, hProduced⟩ :=
    gather_spec (Frame.render .close []) { l with phase := .closedByUs }
  rw [hClose, Action.bind_apply]
  generalize gather (Frame.render .close []) { l with phase := .closedByUs } = y at *
  obtain ⟨r, l'⟩ := y
  dsimp only at hPhase hAnswer hProduced
  cases r with
  | failed e | pending => exact ⟨hPhase, [], .inl rfl, by rw [List.append_nil]; exact hProduced⟩
  | done u =>
      have hReleases := hBehind l' (by rw [hPhase]; rfl)
      refine ⟨hReleases.phase_eq.trans hPhase, ?_⟩
      rcases hReleases.held_or_put with ⟨-, hNone⟩ | ⟨-, hPut⟩
      · exact ⟨[], .inl rfl, by rw [List.append_nil]; exact hNone.trans hProduced⟩
      · refine ⟨l.owed, .inr rfl, ?_⟩
        dsimp only
        rw [hPut, hProduced, owed, hAnswer, owed]
        rfl

/-- A link that is not active is not closed again. -/
theorem close_of_not_active (h : l.phase ≠ .active) : (close l).2 = l := by
  rw [close, Action.bind_apply, checkActive]
  cases hPhase : l.phase with
  | active => exact absurd hPhase h
  | _ => rfl

end SpeedTest.WebSocket.Link
