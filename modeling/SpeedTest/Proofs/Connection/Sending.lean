import SpeedTest.Connection

/-! Failures of sending. Only a frame that is too long for its header fails for its length: all that
can stop another one is the stream or the link that carries it. -/

namespace SpeedTest

/-- Wherever the operation fails, the error has the property. -/
def Action.FailsWith {σ ε α : Type} (P : ε → Prop) (x : Action σ ε α) : Prop :=
  ∀ s e, (x s).1 = .failed e → P e

namespace Action.FailsWith

variable {σ ε ε' α β : Type} {P : ε → Prop}

theorem bind {x : Action σ ε α} {f : α → Action σ ε β} (hx : FailsWith P x)
    (hf : ∀ a, FailsWith P (f a)) : FailsWith P (x >>= f) := by
  intro s e h
  rw [Action.bind_apply] at h
  have hFirst := hx s
  split at h
  · exact hf _ _ _ h
  · rename_i hFailed
    cases h
    exact hFirst e (by rw [hFailed])
  · cases h

theorem mapError {x : Action σ ε' α} {g : ε' → ε} (h : ∀ e, P (g e)) :
    FailsWith P (x.mapError g) := by
  intro s e hFailed
  rw [Action.mapError] at hFailed
  split at hFailed
  · cases hFailed
  · cases hFailed
    exact h _
  · cases hFailed

theorem ofExcept_ok (a : α) : FailsWith P (Action.ofExcept (.ok a) : Action σ ε α) :=
  fun _ _ h => nomatch h

end Action.FailsWith

/-- An error that does not complain about the length of a frame. -/
def ProtocolError.IsNotTooLarge (e : ProtocolError) : Prop := ∀ size, e ≠ .frameTooLarge size

variable {f : Frame}

theorem Frame.failsWith_writeTo (hFits : f.body.length ≤ maxBodyLength) :
    Action.FailsWith ProtocolError.IsNotTooLarge f.writeTo := by
  have hEncode : f.encode = .ok (header f.kind f.body.length ++ f.body) := if_pos hFits
  rw [writeTo, hEncode]
  refine .bind (.ofExcept_ok _) fun bytes => .bind (.mapError ?_) fun _ => .mapError ?_
  · exact fun _ _ h => nomatch h
  · exact fun _ _ h => nomatch h

theorem Channel.failsWith_sendFrame (hFits : f.body.length ≤ Frame.maxBodyLength) :
    Action.FailsWith ProtocolError.IsNotTooLarge (sendFrame f) := by
  have hEncode : f.encode = .ok (Frame.header f.kind f.body.length ++ f.body) := if_pos hFits
  rw [sendFrame, hEncode]
  exact .bind (.ofExcept_ok _) fun bytes => .mapError fun _ _ h => nomatch h

/-- A frame that fits into its header never fails for its length, on any connection. -/
theorem Connection.failsWith_write (hFits : f.body.length ≤ Frame.maxBodyLength) :
    Action.FailsWith ProtocolError.IsNotTooLarge (write f) := by
  intro c e hFailed
  simp only [write, onOpen] at hFailed
  split at hFailed
  · cases hFailed
    exact fun _ h => nomatch h
  · obtain ⟨channel, peer, isClosed⟩ := c
    cases channel with
    | raw p => exact Frame.failsWith_writeTo hFits p.inner e hFailed
    | webSocket l => exact Channel.failsWith_sendFrame hFits l e hFailed

end SpeedTest
