import SpeedTest.Splice
import SpeedTest.Proofs.Stream.Writing

/-! What one step of a copy can do. Everything about copies is derived from the list of their moves:
what a move leaves alone, what it writes, and when there is none. -/

namespace SpeedTest

namespace Stream

/-- The sink of a copy may have less room than before, and more on record. -/
def Fills (s t : Stream) : Prop :=
  ∃ room writes sent flushes, t =
    { s with room := room, writes := writes, sent := sent, flushes := flushes }

theorem Fills.refl (s : Stream) : Fills s s := ⟨_, _, _, _, rfl⟩

theorem Fills.trans {s t u : Stream} (h : s.Fills t) (h' : t.Fills u) : s.Fills u := by
  obtain ⟨_, _, _, _, rfl⟩ := h
  obtain ⟨_, _, _, _, rfl⟩ := h'
  exact ⟨_, _, _, _, rfl⟩

theorem Fills.grant_eq {s t : Stream} (h : s.Fills t) : t.grant = s.grant := by
  obtain ⟨_, _, _, _, rfl⟩ := h
  rfl

theorem Fills.of_write {bs : Bytes} {s t : Stream} {r : Outcome IoError Nat}
    (h : write bs s = (r, t)) : s.Fills t := by
  unfold write at h
  split at h <;> cases h <;> exact ⟨_, _, _, _, rfl⟩

theorem Fills.of_flush {s t : Stream} {r : Outcome IoError Unit} (h : flush s = (r, t)) :
    s.Fills t := by
  unfold flush at h
  split at h <;> cases h <;> exact ⟨_, _, _, _, rfl⟩

end Stream

namespace Copy

variable {σ : Type} {read : Nat → Action σ IoError Bytes}

/-- The source of a copy may have been read once. -/
def Draws (read : Nat → Action σ IoError Bytes) (s t : σ) : Prop :=
  t = s ∨ ∃ n, t = (read n s).2

theorem Draws.of_read {n : Nat} {s t : σ} {r : Outcome IoError Bytes} (h : read n s = (r, t)) :
    Draws read s t := .inr ⟨n, by rw [h]⟩

/-- The moves of a copy, between its states and those of its source and its sink. -/
inductive Moves (read : Nat → Action σ IoError Bytes) :
    Copy → σ → Stream → Copy → σ → Stream → Prop
  | took {moved : Nat} {unflushed : Bool} {source source' : σ} {sink : Stream} {bs : Bytes}
      (hRead : read bufferSize source = (.done bs, source')) (hBytes : bs ≠ []) :
      Moves read (.reading moved unflushed) source sink (.writing bs moved) source' sink
  | finished {moved : Nat} {unflushed : Bool} {source source' : σ} {sink : Stream}
      (hRead : read bufferSize source = (.done [], source')) :
      Moves read (.reading moved unflushed) source sink (.flushing moved) source' sink
  | broken {moved : Nat} {unflushed : Bool} {source source' : σ} {sink : Stream} {e : IoError}
      (hRead : read bufferSize source = (.failed e, source')) :
      Moves read (.reading moved unflushed) source sink (.ended (.error e)) source' sink
  | settled {moved : Nat} {source : σ} {sink sink' : Stream}
      (hRead : (read bufferSize source).1 = .pending)
      (hFlush : Stream.flush sink = (.done (), sink')) :
      Moves read (.reading moved true) source sink (.reading moved false) source sink'
  | unsettled {moved : Nat} {source : σ} {sink sink' : Stream} {e : IoError}
      (hRead : (read bufferSize source).1 = .pending)
      (hFlush : Stream.flush sink = (.failed e, sink')) :
      Moves read (.reading moved true) source sink (.ended (.error e)) source sink'
  | refused {left : Bytes} {moved : Nat} {source : σ} {sink sink' : Stream} {e : IoError}
      (hWrite : Stream.write left sink = (.failed e, sink')) :
      Moves read (.writing left moved) source sink (.ended (.error e)) source sink'
  | stalled {left : Bytes} {moved : Nat} {source : σ} {sink sink' : Stream}
      (hWrite : Stream.write left sink = (.done 0, sink')) :
      Moves read (.writing left moved) source sink (.ended (.error stuck)) source sink'
  | wrote {left : Bytes} {moved n : Nat} {source : σ} {sink sink' : Stream}
      (hWrite : Stream.write left sink = (.done n, sink')) (hSome : n ≠ 0)
      (hLeft : left.drop n ≠ []) :
      Moves read (.writing left moved) source sink (.writing (left.drop n) (moved + n)) source sink'
  | drained {left : Bytes} {moved n : Nat} {source : σ} {sink sink' : Stream}
      (hWrite : Stream.write left sink = (.done n, sink')) (hSome : n ≠ 0)
      (hLeft : left.drop n = []) :
      Moves read (.writing left moved) source sink (.reading (moved + n) true) source sink'
  | flushed {moved : Nat} {source : σ} {sink sink' : Stream}
      (hFlush : Stream.flush sink = (.done (), sink')) :
      Moves read (.flushing moved) source sink (.ended (.ok moved)) source sink'
  | unflushed {moved : Nat} {source : σ} {sink sink' : Stream} {e : IoError}
      (hFlush : Stream.flush sink = (.failed e, sink')) :
      Moves read (.flushing moved) source sink (.ended (.error e)) source sink'

section Moves

variable {c c' : Copy} {source source' : σ} {sink sink' : Stream}

theorem moves_of_step (h : c.step read source sink = some (c', source', sink')) :
    Moves read c source sink c' source' sink' := by
  cases c with
  | reading moved unflushed =>
      simp only [step] at h
      split at h
      · rename_i hRead
        have hPending : (read bufferSize source).1 = .pending := by rw [hRead]
        cases unflushed with
        | false => cases h
        | true =>
            simp only [if_true] at h
            split at h
            · cases h
            · cases h
              exact .unsettled hPending ‹_›
            · cases h
              exact .settled hPending ‹_›
      · cases h
        exact .broken ‹_›
      · rename_i bs _ hRead
        cases h
        cases bs with
        | nil => exact .finished hRead
        | cons b bs => exact .took hRead (List.cons_ne_nil b bs)
  | writing left moved =>
      simp only [step] at h
      split at h
      · cases h
      · cases h
        exact .refused ‹_›
      · rename_i n _ hWrite
        by_cases hNone : n = 0
        · subst hNone
          cases h
          exact .stalled hWrite
        · rw [if_neg hNone] at h
          by_cases hLeft : left.drop n = []
          · rw [hLeft] at h
            cases h
            exact .drained hWrite hNone hLeft
          · rw [if_neg (by rwa [List.isEmpty_iff])] at h
            cases h
            exact .wrote hWrite hNone hLeft
  | flushing moved =>
      simp only [step] at h
      split at h
      · cases h
      · cases h
        exact .unflushed ‹_›
      · cases h
        exact .flushed ‹_›
  | ended result => cases h

/-- Each of the moves is the next step. -/
theorem step_of_moves (h : Moves read c source sink c' source' sink') :
    c.step read source sink = some (c', source', sink') := by
  -- A read that finds nothing leaves its source for later, whatever it would return.
  have hAgain (hRead : (read bufferSize source).1 = .pending) :
      read bufferSize source = (.pending, (read bufferSize source).2) := Prod.ext hRead rfl
  cases h with
  | @took moved unflushed source source' sink bs hRead hBytes =>
      simp only [step, hRead]
      rw [if_neg (by rwa [List.isEmpty_iff])]
  | finished hRead =>
      simp only [step, hRead]
      rfl
  | broken hRead => simp only [step, hRead]
  | settled hRead hFlush | unsettled hRead hFlush =>
      simp only [step]
      rw [hAgain hRead]
      simp only [if_true, hFlush]
  | refused hWrite | stalled hWrite => simp only [step, hWrite, if_true]
  | wrote hWrite hSome hLeft =>
      simp only [step, hWrite, if_neg hSome]
      rw [if_neg (by rwa [List.isEmpty_iff])]
  | drained hWrite hSome hLeft =>
      simp only [step, hWrite, if_neg hSome, hLeft, List.isEmpty_nil, if_true]
  | flushed hFlush | unflushed hFlush => simp only [step, hFlush]

/-- A copy rests when it has ended, or when it waits for bytes and has flushed what it wrote. -/
theorem of_step_eq_none (h : c.step read source sink = none) :
    (∃ result, c = .ended result) ∨
      ∃ moved, c = .reading moved false ∧ (read bufferSize source).1 = .pending := by
  cases c with
  | reading moved unflushed =>
      simp only [step] at h
      split at h
      · rename_i hRead
        cases unflushed with
        | false => exact .inr ⟨moved, rfl, by rw [hRead]⟩
        | true =>
            simp only [if_true] at h
            split at h
            · rename_i hFlush
              exact absurd (congrArg Prod.fst hFlush) (Stream.flush_ne_pending sink)
            · cases h
            · cases h
      · cases h
      · cases h
  | writing left moved =>
      simp only [step] at h
      split at h
      · rename_i hWrite
        exact absurd (congrArg Prod.fst hWrite) (Stream.write_ne_pending left sink)
      · cases h
      · split at h
        · cases h
        · split at h <;> cases h
  | flushing moved =>
      simp only [step] at h
      split at h
      · rename_i hFlush
        exact absurd (congrArg Prod.fst hFlush) (Stream.flush_ne_pending sink)
      · cases h
      · cases h
  | ended result => exact .inl ⟨result, rfl⟩

namespace Moves

theorem draws (h : Moves read c source sink c' source' sink') : Draws read source source' := by
  cases h with
  | took hRead | finished hRead | broken hRead => exact .of_read hRead
  | _ => exact .inl rfl

/-- A copy that has ended does not move. -/
theorem ne_ended (h : Moves read c source sink c' source' sink') (result : Except IoError Nat) :
    c ≠ ended result := by
  rintro rfl
  cases h

theorem fills (h : Moves read c source sink c' source' sink') : sink.Fills sink' := by
  cases h with
  | took | finished | broken => exact .refl sink
  | settled _ hFlush | unsettled _ hFlush | flushed hFlush | unflushed hFlush =>
      exact .of_flush hFlush
  | refused hWrite | stalled hWrite | wrote hWrite | drained hWrite => exact .of_write hWrite

end Moves

end Moves

end Copy

end SpeedTest
