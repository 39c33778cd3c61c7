import SpeedTest.Proofs.Splice.Lanes

/-! Every splice comes to rest: each step, in whatever order, leaves less to be done. -/

namespace SpeedTest

open Relation (ReflTransGen)

/-- How many bytes a stream with a buffer still delivers. -/
def PeekStream.pending (p : PeekStream) : Nat := p.buffered.length + p.inner.incoming

theorem PeekStream.pending_of_read {n : Nat} {p p' : PeekStream} {bs : Bytes}
    (h : read n p = (.done bs, p')) : p'.pending + bs.length = p.pending := by
  have hFront := congrArg List.length (front_of_read Arrival.payload Arrival.payload_chunk h)
  simp only [List.length_append] at hFront
  simp only [pending, Stream.incoming]
  omega

namespace Copy

variable {σ : Type} {read : Nat → Action σ IoError Bytes}

/-- Every move of a copy leaves it less to do. -/
theorem Moves.work_lt (size : σ → Nat)
    (hRead : ∀ {n s s' bs}, read n s = (.done bs, s') → size s' + bs.length = size s)
    {c c' : Copy} {source source' : σ} {sink sink' : Stream}
    (h : Moves read c source sink c' source' sink') :
    c'.work (size source') < c.work (size source) := by
  cases h with
  | took hTook hBytes =>
      have hSize := hRead hTook
      have hPos := List.length_pos_iff.mpr hBytes
      simp only [work]
      omega
  | finished | broken | unsettled | refused | stalled | flushed | unflushed =>
      simp only [work]
      omega
  | settled => simp [work]
  | @wrote left moved n _ _ _ hWrite hSome hLeft =>
      have hPos := List.length_pos_iff.mpr hLeft
      simp only [work, List.length_drop] at *
      omega
  -- A write takes no more than it is given, so there was at least one byte to write.
  | @drained left moved n _ _ _ hWrite hSome hLeft =>
      obtain ⟨front, hFront, -, hLength⟩ := Stream.written_write left sink
      rw [hWrite] at hLength
      have hLe := hFront.length_le
      rw [← hLength n rfl] at hLe
      simp only [work, Bool.toNat_true]
      omega

end Copy

namespace Splice.State

variable {s t : State}

/-- With less to do in the first direction there is less to do: its sink delivers as much as before
to the second. -/
theorem work_lt_of_up {up : Copy} {client : PeekStream} {target : Stream}
    (hWork : up.work client.pending < s.up.work s.client.pending) (hFills : s.target.Fills target) :
    ({ s with up := up, client := client, target := target } : State).work < s.work := by
  have hTarget := congrArg Stream.incoming hFills.incomingSide_eq
  change target.incoming = s.target.incoming at hTarget
  simp only [PeekStream.pending] at hWork
  simp only [work, hTarget]
  omega

theorem work_lt_of_down {down : Copy} {target inner : Stream}
    (hWork : down.work target.incoming < s.down.work s.target.incoming)
    (hFills : s.client.inner.Fills inner) :
    ({ s with
        down := down
        target := target
        client := { s.client with inner := inner } } : State).work < s.work := by
  have hClient := congrArg Stream.incoming hFills.incomingSide_eq
  change inner.incoming = s.client.inner.incoming at hClient
  simp only [work, hClient]
  omega

theorem work_lt_of_stepJoin (h : s.stepJoin = some t) : t.work < s.work := by
  have hShut (x : Stream) : (Stream.shutdown x).2.incoming = x.incoming := by
    rw [Stream.shutdown_state]
    rfl
  obtain ⟨u, d, -, -, ⟨hStage, rfl⟩ | ⟨hStage, rfl⟩ | ⟨hStage, rfl⟩⟩ := cases_of_stepJoin h
  all_goals simp [work, tell, hShut, hStage, Stage.left]

theorem work_lt_of_step (h : Step s t) : t.work < s.work := by
  cases h with
  | up h =>
      obtain ⟨up, client, target, rfl, hMoves⟩ := moves_of_stepUp h
      exact work_lt_of_up (hMoves.work_lt PeekStream.pending PeekStream.pending_of_read)
        hMoves.fills
  | down h =>
      obtain ⟨down, target, inner, rfl, hMoves⟩ := moves_of_stepDown h
      exact work_lt_of_down (hMoves.work_lt Stream.incoming Stream.incoming_of_read) hMoves.fills
  | join h => exact work_lt_of_stepJoin h

/-- Nothing moves any more. -/
def Resting (s : State) : Prop := s.next? = none

theorem resting_iff : s.Resting ↔ s.stepUp = none ∧ s.stepDown = none ∧ s.stepJoin = none := by
  unfold Resting next?
  cases s.stepUp with
  | some t => simp
  | none =>
      cases s.stepDown with
      | some t => simp
      | none => simp

theorem step_of_next? (h : s.next? = some t) : Step s t := by
  unfold next? at h
  split at h
  · rename_i hUp
    cases h
    exact .up hUp
  · split at h
    · rename_i hDown
      cases h
      exact .down hDown
    · exact .join h

theorem resting_proceed {steps : Nat} (h : s.work ≤ steps) : (proceed steps s).Resting := by
  induction steps generalizing s with
  | zero =>
      rw [proceed, Resting]
      cases hNext : s.next? with
      | none => rfl
      | some t =>
          have hLess := work_lt_of_step (step_of_next? hNext)
          omega
  | succ n ih =>
      rw [proceed]
      cases hNext : s.next? with
      | none => exact hNext
      | some t =>
          have hLess := work_lt_of_step (step_of_next? hNext)
          exact ih (by omega)

theorem reaches_proceed (steps : Nat) (s : State) : ReflTransGen Step s (proceed steps s) := by
  induction steps generalizing s with
  | zero => exact .refl
  | succ n ih =>
      rw [proceed]
      cases hNext : s.next? with
      | none => exact .refl
      | some t => exact (ih t).head (step_of_next? hNext)

end Splice.State

namespace Splice

/-- A splice that is run gets somewhere where nothing moves any more. -/
theorem resting_run (s : State) : (run s).Resting := State.resting_proceed (Nat.le_refl _)

theorem reaches_run (s : State) : ReflTransGen State.Step s (run s) :=
  State.reaches_proceed s.work s

end Splice

end SpeedTest
