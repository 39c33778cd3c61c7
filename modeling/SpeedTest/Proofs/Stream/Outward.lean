import SpeedTest.Proofs.Stream.Delivery
import SpeedTest.Wire.Transfer

/-! What goes out on a stream. Writing, flushing and shutting down depend on nothing that is still
to arrive and leave it alone. -/

namespace SpeedTest

/-- An operation that does not look at what is still to arrive and does not change it. -/
def Outward {ε α : Type} (x : Action Stream ε α) : Prop :=
  ∀ (s : Stream) (arrivals : List Arrival) (ending : Ending),
    x { s with arrivals := arrivals, ending := ending } =
      ((x s).1, { (x s).2 with arrivals := arrivals, ending := ending })

namespace Outward

variable {ε ε' α β : Type} {x : Action Stream ε α} {f : α → Action Stream ε β}

theorem arrivals_eq (h : Outward x) (s : Stream) : (x s).2.arrivals = s.arrivals := by
  have hSame := congrArg (fun y => y.2.arrivals) (h s s.arrivals s.ending)
  exact hSame

theorem ending_eq (h : Outward x) (s : Stream) : (x s).2.ending = s.ending := by
  have hSame := congrArg (fun y => y.2.ending) (h s s.arrivals s.ending)
  exact hSame

theorem ofExcept (r : Except ε α) : Outward (Action.ofExcept r) := by
  intro s arrivals ending
  cases r <;> rfl

theorem bind (hx : Outward x) (hf : ∀ a, Outward (f a)) : Outward (x >>= f) := by
  intro s arrivals ending
  simp only [Action.bind_apply, hx s arrivals ending]
  obtain ⟨r, s'⟩ := x s
  cases r with
  | done a => exact hf a s' arrivals ending
  | failed e => rfl
  | pending => rfl

theorem mapError (hx : Outward x) (g : ε → ε') : Outward (x.mapError g) := by
  intro s arrivals ending
  simp only [Action.mapError, hx s arrivals ending]
  obtain ⟨r, s'⟩ := x s
  cases r <;> rfl

theorem write (bs : Bytes) : Outward (Stream.write bs) := by
  intro s arrivals ending
  unfold Stream.write
  split <;> rfl

theorem writeAll (bs : Bytes) : Outward (Stream.writeAll bs) := by
  intro s arrivals ending
  fun_induction Stream.writeAll bs s with
  | case1 s => simp [Stream.writeAll]
  | case2 bs s h e s' hWrite =>
      rw [Stream.writeAll, dif_neg h, write bs s arrivals ending, hWrite]
  | case3 bs s h s' hWrite =>
      rw [Stream.writeAll, dif_neg h, write bs s arrivals ending, hWrite]
  | case4 bs s h s' hWrite =>
      rw [Stream.writeAll, dif_neg h, write bs s arrivals ending, hWrite]
      simp
  | case5 bs s h n s' hWrite hn ih =>
      rw [Stream.writeAll, dif_neg h, write bs s arrivals ending, hWrite]
      simp only [hn, dite_false]
      exact ih

theorem flush : Outward Stream.flush := by
  intro s arrivals ending
  unfold Stream.flush
  dsimp only
  split <;> rfl

theorem shutdown : Outward Stream.shutdown := by
  intro s arrivals ending
  unfold Stream.shutdown
  dsimp only
  split <;> rfl

theorem writeTo (f : Frame) : Outward f.writeTo :=
  (ofExcept f.encode).bind fun bs =>
    ((writeAll bs).mapError _).bind fun _ => flush.mapError _

end Outward

/-- What goes out on a stream that was looked at goes out on the stream itself, and what it still
delivers stays as it is. -/
theorem PeekStream.Delivers.onInner {ε α : Type} {x : Action Stream ε α} (hx : Outward x)
    {p : PeekStream} {w : Bytes} {rest : Stream} (h : p.Delivers w rest) :
    (PeekStream.onInner x p).1 = (x rest).1 ∧
      (PeekStream.onInner x p).2.Delivers w (x rest).2 := by
  obtain ⟨front, hSmooth, hContent, hInner⟩ := h
  have hRun : PeekStream.onInner x p =
      ((x rest).1, { p with
        inner := { (x rest).2 with
          arrivals := front ++ rest.arrivals
          ending := rest.ending } }) := by
    rw [PeekStream.onInner, Action.focus, hInner, hx rest]
  rw [hRun, ← hx.arrivals_eq rest, ← hx.ending_eq rest]
  exact ⟨rfl, front, hSmooth, hContent, rfl⟩

theorem Stream.AtEnd.outward {ε α : Type} {x : Action Stream ε α} {s : Stream} (h : s.AtEnd)
    (hx : Outward x) : (x s).2.AtEnd :=
  ⟨(hx.arrivals_eq s).trans h.arrivals, (hx.ending_eq s).trans h.ending⟩

/-- Two streams have the same peer and the same history, up to what is still to arrive. -/
def Stream.SameOutput (s t : Stream) : Prop := ∃ arrivals, t = { s with arrivals := arrivals }

theorem Stream.SameOutput.written_eq {s t : Stream} (h : s.SameOutput t) :
    t.written = s.written := by
  obtain ⟨arrivals, rfl⟩ := h
  rfl

/-- Streams that go on like the same one have the same output, whatever they deliver before. -/
theorem PeekStream.Delivers.sameOutput {p q : PeekStream} {w w' : Bytes} {rest : Stream}
    (hp : p.Delivers w rest) (hq : q.Delivers w' rest) : p.inner.SameOutput q.inner := by
  obtain ⟨front, -, -, hp⟩ := hp
  obtain ⟨front', -, -, hq⟩ := hq
  refine ⟨front' ++ rest.arrivals, ?_⟩
  rw [hp, hq]

theorem PeekStream.Delivers.written_eq {p : PeekStream} {w : Bytes} {rest : Stream}
    (h : p.Delivers w rest) : p.inner.written = rest.written := by
  obtain ⟨front, -, -, hInner⟩ := h
  rw [hInner]
  rfl

end SpeedTest
