import SpeedTest.Proofs.Stream.Ahead
import SpeedTest.Proofs.Stream.Conservation
import SpeedTest.Proofs.Stream.Inward

/-! What a look shows: the bytes that reads would deliver next, as many as were asked for or all
that are left. A failure on the way costs none of them, so that whoever looks again sees what there
was to see in the first place. -/

namespace SpeedTest

namespace Arrival

theorem smooth_iff {l : List Arrival} : Smooth l ↔ (untilFailure l).2 = none := by
  induction l with
  | nil => exact iff_of_true Smooth.nil rfl
  | cons a l ih =>
      cases a with
      | failure e => exact iff_of_false (fun h => h _ List.mem_cons_self e rfl) nofun
      | chunk bs => exact ⟨fun h => ih.mp h.tail, fun h => (ih.mpr h).cons⟩

theorem untilFailure_prefix_payload (l : List Arrival) : (untilFailure l).1 <+: payload l := by
  induction l with
  | nil => exact List.prefix_rfl
  | cons a l ih =>
      cases a with
      | failure e => exact List.nil_prefix
      | chunk bs =>
          rw [untilFailure_chunk, payload_chunk]
          exact List.prefix_append_right_inj bs |>.mpr ih

/-- The arrivals without the failures among them. -/
def undisturbed (l : List Arrival) : List Arrival :=
  l.filter fun
    | .chunk _ => true
    | .failure _ => false

theorem smooth_undisturbed (l : List Arrival) : Smooth (undisturbed l) := by
  rintro _ hMem e rfl
  exact absurd (List.mem_filter.mp hMem).2 Bool.false_ne_true

theorem payload_undisturbed (l : List Arrival) : payload (undisturbed l) = payload l := by
  induction l with
  | nil => rfl
  | cons a l ih =>
      cases a with
      | failure e => exact ih
      | chunk bs =>
          rw [payload_chunk, ← ih]
          exact payload_chunk bs _

end Arrival

namespace Stream

variable {s : Stream}

theorem smooth_of_lull (h : ∀ e, s.lull ≠ .failed e) : Arrival.Smooth s.arrivals := by
  rw [Arrival.smooth_iff]
  unfold lull at h
  split at h
  · exact absurd rfl (h _)
  · assumption
  · assumption

theorem ending_of_lull_done {bs : Bytes} (h : s.lull = .done bs) : s.ending = .finished := by
  unfold lull at h
  split at h
  · cases h
  · assumption
  · cases h

theorem ending_of_lull_pending (h : s.lull = .pending) : s.ending = .silent := by
  unfold lull at h
  split at h
  · cases h
  · cases h
  · assumption

theorem eq_nil_of_lull {bs : Bytes} (h : s.lull = .done bs) : bs = [] := by
  unfold lull at h
  split at h
  · cases h
  · exact (Outcome.done.inj h).symm
  · cases h

theorem lull_ne_failed (h : Arrival.Smooth s.arrivals) (e : IoError) : s.lull ≠ .failed e := by
  rw [lull, Arrival.smooth_iff.mp h]
  cases s.ending <;> simp

/-- Reading at the end leads nowhere else. -/
theorem Exhausted.read (h : s.Exhausted) (n : Nat) : (Stream.read n s).2.Exhausted := by
  have hTake : Arrival.take n s.ending s.arrivals = (.done [], []) := by
    rw [← List.append_nil s.arrivals,
      Arrival.take_append_of_payload_eq_nil n s.ending h.smooth h.payload, h.ending]
    rfl
  rw [read_eq, hTake]
  exact ⟨.nil, rfl, h.ending⟩

end Stream

namespace PeekStream

variable {n : Nat} {p q : PeekStream}

theorem peek_of_le (h : n ≤ p.buffered.length) : peek n p = (.done (p.buffered.take n), p) := by
  rw [peek, fill, dif_pos h]

/-- A look for which the buffer does not hold enough begins with a read of the stream. -/
theorem peek_of_lt (h : p.buffered.length < n) :
    peek n p = match p.inner.read pieceSize with
      | (.failed e, s) => (.failed e, ⟨s, p.buffered⟩)
      | (.pending, s) => (.pending, ⟨s, p.buffered⟩)
      | (.done bs, s) =>
        if bs = [] then (.done p.buffered, ⟨s, p.buffered⟩) else peek n ⟨s, p.buffered ++ bs⟩ := by
  rw [peek, fill, dif_neg (Nat.not_le_of_lt h)]
  obtain ⟨r, s⟩ := p.inner.read pieceSize
  cases r with
  | failed e | pending => rfl
  | done bs =>
      by_cases hNone : bs = []
      · simp [hNone, List.take_of_length_le (Nat.le_of_lt h)]
      · simp only [List.length_eq_zero_iff, hNone, dif_neg, not_false_eq_true, if_false]
        rfl

/-- All that can become of a look. -/
inductive Looked (n : Nat) (p : PeekStream) : Outcome IoError Bytes → PeekStream → Prop
  | enough {q : PeekStream} (h : n ≤ p.ahead.length) : Looked n p (.done (p.ahead.take n)) q
  | ended {q : PeekStream} (h : p.ahead.length < n) (hLull : p.inner.lull = .done [])
      (hEnd : q.inner.Exhausted) : Looked n p (.done p.ahead) q
  | failed {q : PeekStream} {e : IoError} (h : p.ahead.length < n)
      (hLull : p.inner.lull = .failed e) : Looked n p (.failed e) q
  | waiting {q : PeekStream} (h : p.ahead.length < n) (hLull : p.inner.lull = .pending) :
      Looked n p .pending q

/-- A look is decided by what lies ahead, wherever it lies. -/
theorem Looked.of_same {p' : PeekStream} {r : Outcome IoError Bytes} (h : Looked n p' r q)
    (hAhead : p'.ahead = p.ahead) (hLull : p'.inner.lull = p.inner.lull) : Looked n p r q := by
  cases h with
  | enough h => rw [hAhead] at h ⊢; exact .enough h
  | ended h hEnds hEnd => rw [hAhead] at h ⊢; exact .ended h (hLull ▸ hEnds) hEnd
  | failed h hFails => exact .failed (hAhead ▸ h) (hLull ▸ hFails)
  | waiting h hWaits => exact .waiting (hAhead ▸ h) (hLull ▸ hWaits)

theorem looked (n : Nat) (p : PeekStream) : Looked n p (peek n p).1 (peek n p).2 := by
  -- Each piece closes some of the gap between what the buffer holds and what is asked for.
  induction hGap : n - p.buffered.length using Nat.strongRecOn generalizing p with
  | ind gap ih =>
      by_cases hEnough : n ≤ p.buffered.length
      · have hAhead : n ≤ p.ahead.length := by
          rw [ahead, List.length_append]
          omega
        have hShown : p.buffered.take n = p.ahead.take n := by
          rw [ahead, List.take_append_of_le_length hEnough]
        rw [peek_of_le hEnough, hShown]
        exact .enough hAhead
      · have hShort := Nat.lt_of_not_le hEnough
        rw [peek_of_lt hShort]
        rcases Stream.read_cases (n := pieceSize) (by decide) p.inner with
          ⟨piece, s, hPiece, hRead, hAhead, hLull⟩ | ⟨hNone, hRead⟩
        · have hSame : (⟨s, p.buffered ++ piece⟩ : PeekStream).ahead = p.ahead := by
            rw [ahead, ahead, hAhead, List.append_assoc]
          have hPos := List.length_pos_iff.mpr hPiece
          have hNext := ih _ (by simp only [List.length_append]; omega)
            ⟨s, p.buffered ++ piece⟩ rfl
          simp only [hRead, if_neg hPiece]
          exact hNext.of_same hSame hLull
        · have hAhead : p.ahead = p.buffered := by rw [ahead, hNone, List.append_nil]
          have hEnds (h : p.inner.lull = .done []) : (p.inner.read pieceSize).2.Exhausted := by
            rw [h] at hRead
            exact ((Stream.read_eq_nil_iff (by decide) _).mp hRead).read _
          generalize p.inner.read pieceSize = x at hRead hEnds
          obtain ⟨r, s⟩ := x
          dsimp only at hRead hEnds
          subst hRead
          cases hLull : p.inner.lull with
          | failed e => exact .failed (hAhead ▸ hShort) hLull
          | pending => exact .waiting (hAhead ▸ hShort) hLull
          | done bs =>
              obtain rfl : bs = [] := Stream.eq_nil_of_lull hLull
              have hEnd : Looked n p (.done p.ahead) ⟨s, p.buffered⟩ :=
                .ended (hAhead ▸ hShort) hLull (hEnds hLull)
              rw [hAhead] at hEnd
              exact hEnd

section Content

theorem ahead_prefix_content (p : PeekStream) : p.ahead <+: p.content :=
  List.prefix_append_right_inj p.buffered |>.mpr (Arrival.untilFailure_prefix_payload _)

theorem ahead_eq_content (h : Arrival.Smooth p.inner.arrivals) : p.ahead = p.content := by
  rw [ahead, Stream.ahead, Arrival.untilFailure_of_smooth h, content]

/-- What a look shows if no read fails. -/
def lead (n : Nat) (p : PeekStream) : Outcome IoError Bytes :=
  if n ≤ p.content.length ∨ p.inner.ending = .finished then .done (p.content.take n) else .pending

theorem Looked.eq_lead {r : Outcome IoError Bytes} (h : Looked n p r q)
    (hDone : ∀ e, r ≠ .failed e) : r = p.lead n := by
  cases h with
  | enough h =>
      have hPrefix := p.ahead_prefix_content
      rw [lead, if_pos (.inl (Nat.le_trans h hPrefix.length_le))]
      obtain ⟨more, hMore⟩ := hPrefix
      rw [← hMore, List.take_append_of_le_length h]
  | ended h hLull hEnd =>
      have hAll : p.ahead = p.content :=
        ahead_eq_content (Stream.smooth_of_lull (by rw [hLull]; exact nofun))
      rw [hAll] at h ⊢
      rw [lead, if_pos (.inr (Stream.ending_of_lull_done hLull)),
        List.take_of_length_le (Nat.le_of_lt h)]
  | failed h hLull => exact absurd rfl (hDone _)
  | waiting h hLull =>
      have hAll : p.ahead = p.content :=
        ahead_eq_content (Stream.smooth_of_lull (by rw [hLull]; exact nofun))
      rw [hAll] at h
      have hSilent := Stream.ending_of_lull_pending hLull
      rw [lead, if_neg]
      rintro (hEnough | hFinished)
      · omega
      · simp [hSilent] at hFinished

theorem Looked.shows {bs : Bytes} (h : Looked n p (.done bs) q) :
    bs = p.content.take n ∧ (bs.length < n → q.inner.Exhausted) := by
  have hLead := h.eq_lead nofun
  constructor
  · unfold lead at hLead
    split at hLead
    · exact Outcome.done.inj hLead
    · cases hLead
  · intro hShort
    cases h with
    | enough h =>
        rw [List.length_take] at hShort
        omega
    | ended _ _ hEnd => exact hEnd

theorem Looked.succeeds_iff {r : Outcome IoError Bytes} (h : Looked n p r q) :
    (∃ bs, r = .done bs) ↔ n ≤ p.ahead.length ∨ p.inner.lull = .done [] := by
  cases h with
  | enough h => exact iff_of_true ⟨_, rfl⟩ (.inl h)
  | ended h hLull hEnd => exact iff_of_true ⟨_, rfl⟩ (.inr hLull)
  | failed h hLull | waiting h hLull =>
      refine iff_of_false nofun ?_
      rintro (hEnough | hDone)
      · omega
      · rw [hLull] at hDone
        cases hDone

end Content

/-- The same stream, if none of its reads failed. -/
def undisturbed (p : PeekStream) : PeekStream :=
  ⟨{ p.inner with arrivals := Arrival.undisturbed p.inner.arrivals }, p.buffered⟩

/-- Looks one after another, whether they succeed or not. -/
def looks (ns : List Nat) (p : PeekStream) : PeekStream :=
  ns.foldl (fun q n => (peek n q).2) p

theorem lead_congr (hContent : q.content = p.content) (hEnding : q.inner.ending = p.inner.ending)
    (n : Nat) : q.lead n = p.lead n := by
  rw [lead, lead, hContent, hEnding]

theorem lead_undisturbed (n : Nat) (p : PeekStream) : p.undisturbed.lead n = p.lead n := by
  have hContent : p.undisturbed.content = p.content :=
    congrArg (p.buffered ++ ·) (Arrival.payload_undisturbed _)
  exact lead_congr hContent rfl n

theorem lead_peek (n m : Nat) (p : PeekStream) : (peek m p).2.lead n = p.lead n := by
  have hInner := (Inward.peek m).inner_eq p
  exact lead_congr (content_peek m p) (by rw [hInner]) n

/-- Looking changes nothing in what is to be seen. -/
theorem lead_looks (n : Nat) (ns : List Nat) (p : PeekStream) : (p.looks ns).lead n = p.lead n := by
  induction ns generalizing p with
  | nil => rfl
  | cons m ns ih => exact (ih _).trans (lead_peek n m p)

/-- A look fails only where a failure is among the arrivals. -/
theorem peek_ne_failed (h : Arrival.Smooth p.inner.arrivals) (n : Nat) (e : IoError) :
    (peek n p).1 ≠ .failed e := by
  intro hFailed
  have hLooked := looked n p
  rw [hFailed] at hLooked
  cases hLooked with
  | failed _ hLull => exact Stream.lull_ne_failed h e hLull

theorem peek_eq_lead (h : ∀ e, (peek n p).1 ≠ .failed e) : (peek n p).1 = p.lead n :=
  (looked n p).eq_lead h

theorem peek_undisturbed (n : Nat) (p : PeekStream) : (peek n p.undisturbed).1 = p.lead n := by
  rw [← lead_undisturbed]
  exact peek_eq_lead (peek_ne_failed (Arrival.smooth_undisturbed _) n)

/-- A look that succeeds shows the first bytes of what has not been read yet, in the buffer or in
the stream: as many as were asked for, or all that come before the end, which then has been reached.
It succeeds wherever enough bytes, or the end, come before a failure. If the buffer holds enough,
the stream is left alone, whatever a read of it would come to.

Behind any looks, failed ones among them, a look again shows what it would have shown in the first
place if no read had failed, unless it comes upon a failure itself; and where no failure is left it
does not. A buffer that is kept with a position, however far this has been moved, shows the same. -/
theorem peek_shows_lead (n : Nat) (p : PeekStream) :
    (∀ bs, (peek n p).1 = .done bs → bs = p.content.take n ∧
      (bs.length < n → (peek n p).2.inner.Exhausted)) ∧
    ((∃ bs, (peek n p).1 = .done bs) ↔ n ≤ p.ahead.length ∨ p.inner.lull = .done []) ∧
    (n ≤ p.buffered.length → ∀ s : Stream,
      peek n ⟨s, p.buffered⟩ = (.done (p.buffered.take n), ⟨s, p.buffered⟩)) ∧
    (∀ ns,
      ((∀ e, (peek n (p.looks ns)).1 ≠ .failed e) →
        (peek n (p.looks ns)).1 = (peek n p.undisturbed).1) ∧
      (Arrival.Smooth (p.looks ns).inner.arrivals → ∀ e, (peek n (p.looks ns)).1 ≠ .failed e)) ∧
    (n ≤ p.content.length ∨ p.inner.ending = .finished →
      (peek n p.undisturbed).1 = .done (p.content.take n)) ∧
    ∀ c : CursorStream, c.view = p → peek n p = ((c.peek n).1, (c.peek n).2.view) := by
  refine ⟨?_, ?_, ?_, ?_, ?_, ?_⟩
  · intro bs hDone
    have hLooked := looked n p
    rw [hDone] at hLooked
    exact hLooked.shows
  · exact (looked n p).succeeds_iff
  · intro hEnough s
    exact peek_of_le hEnough
  · intro ns
    refine ⟨fun hDone => ?_, fun hSmooth => peek_ne_failed hSmooth n⟩
    rw [peek_undisturbed, peek_eq_lead hDone, lead_looks]
  · intro hShown
    rw [peek_undisturbed, lead, if_pos hShown]
  · rintro c rfl
    exact c.peek_view n

end PeekStream

end SpeedTest
