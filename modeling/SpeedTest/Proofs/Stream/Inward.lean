import SpeedTest.Stream.Peek
import SpeedTest.Wire.Transfer

/-! What comes in on a stream. Reading and looking ahead depend on what is still to arrive and on
the buffer, and on nothing that has been written. They write nothing themselves. -/

namespace SpeedTest

/-- An operation that sees what is still to arrive and nothing else of a stream, and changes nothing
else. -/
def Inward {ε α : Type} (x : Action PeekStream ε α) : Prop :=
  ∀ (p : PeekStream) (t : Stream), t.arrivals = p.inner.arrivals → t.ending = p.inner.ending →
    x ⟨t, p.buffered⟩ =
      ((x p).1, ⟨{ t with arrivals := (x p).2.inner.arrivals }, (x p).2.buffered⟩)

namespace Inward

variable {ε ε' α β : Type} {x : Action PeekStream ε α} {f : α → Action PeekStream ε β}

/-- Only the arrivals of the stream change. -/
theorem inner_eq (h : Inward x) (p : PeekStream) :
    (x p).2.inner = { p.inner with arrivals := (x p).2.inner.arrivals } := by
  have hSame := congrArg (fun y => y.2.inner) (h p p.inner rfl rfl)
  exact hSame

theorem pure (a : α) : Inward (Pure.pure a : Action PeekStream ε α) := by
  intro p t hArrivals hEnding
  simp only [Action.pure_apply, ← hArrivals]

theorem fail (e : ε) : Inward (Action.fail e : Action PeekStream ε α) := by
  intro p t hArrivals hEnding
  simp only [Action.fail_apply, ← hArrivals]

theorem bind (hx : Inward x) (hf : ∀ a, Inward (f a)) : Inward (x >>= f) := by
  intro p t hArrivals hEnding
  have hInner := hx.inner_eq p
  simp only [Action.bind_apply, hx p t hArrivals hEnding]
  generalize x p = y at hInner ⊢
  obtain ⟨r, p'⟩ := y
  cases r with
  | done a =>
      refine hf a p' { t with arrivals := p'.inner.arrivals } rfl ?_
      dsimp only at hInner ⊢
      rw [hInner]
      exact hEnding
  | failed e => rfl
  | pending => rfl

theorem mapError (hx : Inward x) (g : ε → ε') : Inward (x.mapError g) := by
  intro p t hArrivals hEnding
  simp only [Action.mapError, hx p t hArrivals hEnding]
  obtain ⟨r, p'⟩ := x p
  cases r <;> rfl

theorem read (n : Nat) : Inward (PeekStream.read n) := by
  intro p t hArrivals hEnding
  unfold PeekStream.read
  split
  · simp only [PeekStream.onInner, Action.focus, Stream.read, hArrivals, hEnding]
  · simp only [← hArrivals]

theorem fill (n : Nat) : Inward (PeekStream.fill n) := by
  intro p
  induction hGap : n - p.buffered.length using Nat.strongRecOn generalizing p with
  | ind gap ih =>
      intro t hArrivals hEnding
      rw [PeekStream.fill, PeekStream.fill]
      by_cases hEnough : n ≤ p.buffered.length
      · simp only [dif_pos hEnough, ← hArrivals]
      simp only [dif_neg hEnough, Stream.read, hArrivals, hEnding]
      obtain ⟨r, left⟩ := Arrival.take PeekStream.pieceSize p.inner.ending p.inner.arrivals
      cases r with
      | failed e => rfl
      | pending => rfl
      | done bs =>
          dsimp only
          split
          · rfl
          · refine ih (n - (p.buffered ++ bs).length) ?_
              ⟨{ p.inner with arrivals := left }, p.buffered ++ bs⟩ rfl
              { t with arrivals := left, ending := p.inner.ending } rfl rfl
            rw [List.length_append]
            omega

theorem peek (n : Nat) : Inward (PeekStream.peek n) := by
  intro p t hArrivals hEnding
  simp only [PeekStream.peek, fill n p t hArrivals hEnding]
  obtain ⟨r, p'⟩ := PeekStream.fill n p
  cases r <;> rfl

theorem readExactFrom (need : Nat) (got : List Bytes) :
    Inward (readExactFrom PeekStream.read need got) := by
  induction need using Nat.strongRecOn generalizing got with
  | ind need ih =>
      intro p t hArrivals hEnding
      rw [SpeedTest.readExactFrom, SpeedTest.readExactFrom]
      by_cases hNone : need = 0
      · simp only [dif_pos hNone, ← hArrivals]
      have hInner := (read need).inner_eq p
      simp only [dif_neg hNone, read need p t hArrivals hEnding]
      generalize PeekStream.read need p = y at hInner ⊢
      obtain ⟨r, p'⟩ := y
      cases r with
      | failed e => rfl
      | pending => rfl
      | done bs =>
          dsimp only at hInner ⊢
          split
          · rfl
          · refine ih _ (by omega) (bs :: got) p' { t with arrivals := p'.inner.arrivals } rfl ?_
            rw [hInner]
            exact hEnding

theorem readFrom : Inward (Frame.readFrom PeekStream.read) := by
  have hExact (n : Nat) : Inward ((readExact PeekStream.read n).mapError ProtocolError.io) :=
    (readExactFrom n []).mapError ProtocolError.io
  refine (hExact Frame.headerLength).bind fun head => ?_
  cases head with
  | nil => exact fail _
  | cons k length =>
      dsimp only
      cases Kind.ofByte? k with
      | none => exact fail _
      | some kind => exact (hExact _).bind fun body => pure _

end Inward

end SpeedTest
