import SpeedTest.Proofs.Stream.Outward

/-! What writing puts on a stream. A write may accept less than it is given, so that writing
everything takes several; what has been accepted in the end is always a front part of what was to be
written, and all of it on a stream that never stops accepting. Flushes and shutdowns write
nothing. -/

namespace SpeedTest

/-- How a failure is told does not change what has been done. -/
theorem Action.mapError_state {σ ε ε' α : Type} (f : ε → ε') (x : Action σ ε α) (s : σ) :
    (x.mapError f s).2 = (x s).2 := by
  rw [mapError]
  obtain ⟨r, s'⟩ := x s
  cases r <;> rfl

namespace Stream

variable {s : Stream}

theorem accepts_prefix (s : Stream) (bs : Bytes) : s.accepts bs <+: bs := by
  unfold accepts
  split
  · exact List.prefix_refl bs
  all_goals exact List.take_prefix _ bs

/-- What a single write accepts stands at the front of what it was given. -/
theorem written_write (bs : Bytes) (s : Stream) :
    ∃ front, front <+: bs ∧ (write bs s).2.written = s.written ++ front ∧
      ∀ n, (write bs s).1 = .done n → n = front.length := by
  unfold write
  split
  · exact ⟨[], List.nil_prefix, by simp [written], fun n hDone => by cases hDone⟩
  · refine ⟨s.accepts bs, s.accepts_prefix bs, by simp [written], fun n hDone => ?_⟩
    cases hDone
    rfl

/-- Writing that breaks off has written a front part, and writing that succeeds all of it. -/
theorem written_writeAll (bs : Bytes) (s : Stream) :
    ∃ front, front <+: bs ∧ (writeAll bs s).2.written = s.written ++ front ∧
      ((writeAll bs s).1 = .done () → front = bs) := by
  fun_induction writeAll bs s with
  | case1 s => exact ⟨[], List.nil_prefix, by simp, fun _ => rfl⟩
  | case2 bs s _ e s' hWrite | case3 bs s _ s' hWrite | case4 bs s _ s' hWrite =>
      -- The write that does not go on is the last one.
      obtain ⟨front, hFront, hWritten, -⟩ := written_write bs s
      rw [hWrite] at hWritten
      refine ⟨front, hFront, hWritten, ?_⟩
      intro hDone
      cases hDone
  | case5 bs s h n s' hWrite hn ih =>
      obtain ⟨front, ⟨back, rfl⟩, hWritten, hLength⟩ := written_write bs s
      rw [hWrite] at hWritten hLength
      obtain rfl := hLength n rfl
      rw [List.drop_left] at ih ⊢
      obtain ⟨front', hFront', hWritten', hAll⟩ := ih
      refine ⟨front ++ front', (List.prefix_append_right_inj front).mpr hFront', ?_, ?_⟩
      · rw [hWritten', hWritten, List.append_assoc]
      · exact fun hDone => by rw [hAll hDone]

@[simp] theorem written_flush (s : Stream) : (flush s).2.written = s.written := by
  unfold flush
  dsimp only
  split <;> rfl

theorem written_of_flush {s t : Stream} {r : Outcome IoError Unit} (h : flush s = (r, t)) :
    t.written = s.written := by
  rw [← written_flush s, h]

theorem write_ne_pending (bs : Bytes) (s : Stream) : (write bs s).1 ≠ .pending := by
  unfold write
  split <;> exact fun h => by cases h

theorem flush_ne_pending (s : Stream) : (flush s).1 ≠ .pending := by
  unfold flush
  cases s.flushFault s.flushes <;> exact fun h => by cases h

/-- Writing shuts nothing down. -/
@[simp] theorem shutdowns_write (bs : Bytes) (s : Stream) :
    (write bs s).2.shutdowns = s.shutdowns := by
  unfold write
  split <;> rfl

@[simp] theorem shutdowns_writeAll (bs : Bytes) (s : Stream) :
    (writeAll bs s).2.shutdowns = s.shutdowns := by
  fun_induction writeAll bs s with
  | case1 s => rfl
  | case2 bs s _ e s' hWrite | case3 bs s _ s' hWrite | case4 bs s _ s' hWrite =>
      rw [← shutdowns_write bs s, hWrite]
  | case5 bs s h n s' hWrite hn ih => rw [ih, ← shutdowns_write bs s, hWrite]

@[simp] theorem shutdowns_flush (s : Stream) : (flush s).2.shutdowns = s.shutdowns := by
  unfold flush
  dsimp only
  split <;> rfl

/-- Shutting a stream down is counted, and everything else stays. -/
theorem shutdown_state (s : Stream) :
    (shutdown s).2 = { s with shutdowns := s.shutdowns + 1 } := by
  unfold shutdown
  cases s.shutdownFault s.shutdowns <;> rfl

/-- Where no write is granted zero bytes, a write fails for want of room only, and otherwise takes
at least one byte and no more than there is room for. -/
theorem write_of_granting (hGrant : ∀ n, s.grant n ≠ some 0) {bs : Bytes} (hBytes : bs ≠ []) :
    (s.room = some 0 ∧ write bs s = (.failed s.writeFault, { s with writes := s.writes + 1 })) ∨
      ∃ front back, front ≠ [] ∧ bs = front ++ back ∧ (∀ r, s.room = some r → front.length ≤ r) ∧
        write bs s =
          (.done front.length,
            { s with
              room := s.room.map (· - front.length)
              writes := s.writes + 1
              sent := front :: s.sent }) := by
  by_cases hFull : s.room = some 0
  · exact .inl ⟨hFull, by rw [write, if_pos hFull]⟩
  obtain ⟨back, hBack⟩ := s.accepts_prefix bs
  have hTake {k : Nat} (hk : k ≠ 0) : bs.take k ≠ [] := by
    rw [ne_eq, List.take_eq_nil_iff, not_or]
    exact ⟨hk, hBytes⟩
  have hFront : s.accepts bs ≠ [] ∧ ∀ r, s.room = some r → (s.accepts bs).length ≤ r := by
    unfold accepts
    split
    · rename_i hRoom _
      exact ⟨hBytes, fun r hr => by rw [hRoom] at hr; cases hr⟩
    · rename_i r hRoom _
      have hPos : r ≠ 0 := fun hZero => hFull (hZero ▸ hRoom)
      refine ⟨hTake hPos, fun r' hr => ?_⟩
      cases hRoom.symm.trans hr
      exact List.length_take_le r bs
    · rename_i g hRoom hSome
      have hPos : g ≠ 0 := fun hZero => hGrant s.writes (hZero ▸ hSome)
      exact ⟨hTake hPos, fun r hr => by rw [hRoom] at hr; cases hr⟩
    · rename_i r g hRoom hSome
      have hPosRoom : r ≠ 0 := fun hZero => hFull (hZero ▸ hRoom)
      have hPosGrant : g ≠ 0 := fun hZero => hGrant s.writes (hZero ▸ hSome)
      refine ⟨hTake (by omega), fun r' hr => ?_⟩
      cases hRoom.symm.trans hr
      exact Nat.le_trans (List.length_take_le _ bs) (Nat.min_le_left r g)
  exact .inr ⟨s.accepts bs, back, hFront.1, hBack.symm, hFront.2, by rw [write, if_neg hFull]⟩

/-- Where no write is granted zero bytes, everything is written that there is room for. -/
theorem writeAll_of_granting (hGrant : ∀ n, s.grant n ≠ some 0) {bs : Bytes}
    (hRoom : ∀ r, s.room = some r → bs.length ≤ r) : (writeAll bs s).1 = .done () := by
  fun_induction writeAll bs s with
  | case1 s => rfl
  | case2 bs s hBytes e s' hWrite =>
      rcases write_of_granting hGrant hBytes with ⟨hFull, -⟩ | ⟨front, _, _, _, _, hDone⟩
      · exact absurd (List.length_eq_zero_iff.mp (Nat.le_zero.mp (hRoom 0 hFull))) hBytes
      · rw [hWrite] at hDone
        cases hDone
  | case3 bs s hBytes s' hWrite => exact absurd (congrArg Prod.fst hWrite) (write_ne_pending bs s)
  | case4 bs s hBytes s' hWrite =>
      rcases write_of_granting hGrant hBytes with ⟨-, hFail⟩ | ⟨front, _, hFront, _, _, hDone⟩
      · rw [hWrite] at hFail
        cases hFail
      · rw [hWrite] at hDone
        have hLength : 0 = front.length := Outcome.done.inj (congrArg Prod.fst hDone)
        exact absurd (List.length_eq_zero_iff.mp hLength.symm) hFront
  | case5 bs s hBytes n s' hWrite hn ih =>
      rcases write_of_granting hGrant hBytes with ⟨-, hFail⟩ | ⟨front, back, _, rfl, hLe, hDone⟩
      · rw [hWrite] at hFail
        cases hFail
      · rw [hWrite] at hDone
        cases hDone
        rw [List.drop_left] at ih ⊢
        refine ih hGrant fun r hr => ?_
        -- What has been written has used its part of the room.
        obtain ⟨r', hr', rfl⟩ := Option.map_eq_some_iff.mp hr
        have hAll := hRoom r' hr'
        rw [List.length_append] at hAll
        omega

/-- A write fails for want of room only. -/
theorem write_failed {bs : Bytes} {e : IoError} {s' : Stream} (h : write bs s = (.failed e, s')) :
    s.room = some 0 ∧ e = s.writeFault ∧ s' = { s with writes := s.writes + 1 } := by
  unfold write at h
  split at h
  · rename_i hFull
    cases h
    exact ⟨hFull, rfl, rfl⟩
  · cases h

/-- What is known of a write that succeeds. -/
theorem write_done (hGrant : ∀ n, s.grant n ≠ some 0) {bs : Bytes} (hBytes : bs ≠ []) {n : Nat}
    {s' : Stream} (h : write bs s = (.done n, s')) :
    ∃ front back, front ≠ [] ∧ bs = front ++ back ∧ n = front.length ∧
      (∀ r, s.room = some r → front.length ≤ r) ∧
      s' = { s with
        room := s.room.map (· - front.length)
        writes := s.writes + 1
        sent := front :: s.sent } := by
  rcases write_of_granting hGrant hBytes with
    ⟨-, hFail⟩ | ⟨front, back, hFront, hSplit, hRoom, hDone⟩
  · rw [h] at hFail
    cases hFail
  · rw [h] at hDone
    cases hDone
    exact ⟨front, back, hFront, hSplit, rfl, hRoom, rfl⟩

/-- A stream that accepts all writes, though perhaps only a part at a time. Nothing is said about
flushes and shutdowns. -/
structure Accepting (s : Stream) : Prop where
  room : s.room = none
  grant : ∀ n, s.grant n ≠ some 0

namespace Accepting

theorem write (h : s.Accepting) {bs : Bytes} (hBytes : bs ≠ []) :
    ∃ front back, front ≠ [] ∧ bs = front ++ back ∧
      Stream.write bs s =
        (.done front.length, { s with writes := s.writes + 1, sent := front :: s.sent }) := by
  rcases write_of_granting h.grant hBytes with ⟨hFull, -⟩ | ⟨front, back, hFront, hSplit, -, hWrite⟩
  · rw [h.room] at hFull
    cases hFull
  · refine ⟨front, back, hFront, hSplit, ?_⟩
    rw [hWrite, h.room]
    rfl

/-- Everything is written, and nothing but the record of the writes changes. -/
theorem writeAll (h : s.Accepting) (bs : Bytes) :
    ∃ writes sent, Stream.writeAll bs s = (.done (), { s with writes := writes, sent := sent }) ∧
      sent.reverse.flatten = s.written ++ bs := by
  induction hLength : bs.length using Nat.strongRecOn generalizing bs s with
  | ind length ih =>
      rw [Stream.writeAll]
      by_cases hNone : bs = []
      · exact ⟨s.writes, s.sent, by rw [dif_pos hNone], by rw [hNone, List.append_nil]; rfl⟩
      · obtain ⟨front, back, hFront, rfl, hWrite⟩ := h.write hNone
        have hPos := List.length_pos_iff.mpr hFront
        rw [List.length_append] at hLength
        have hNext : Accepting { s with writes := s.writes + 1, sent := front :: s.sent } :=
          ⟨h.room, h.grant⟩
        obtain ⟨writes, sent, hRest, hSent⟩ := ih back.length (by omega) hNext back rfl
        refine ⟨writes, sent, ?_, ?_⟩
        · rw [dif_neg hNone, hWrite]
          simp only [dif_neg (Nat.ne_of_gt hPos)]
          rw [List.drop_left, hRest]
        · rw [hSent]
          simp [written]

end Accepting

end Stream

/-- A shutdown never waits. It is counted whether or not it succeeds, and changes nothing else. -/
theorem PeekStream.shutdown_cases (p : PeekStream) :
    let shut : PeekStream := ⟨{ p.inner with shutdowns := p.inner.shutdowns + 1 }, p.buffered⟩
    p.shutdown = (.done (), shut) ∨ ∃ e, p.shutdown = (.failed e, shut) := by
  simp only [shutdown, onInner, Action.focus, Stream.shutdown]
  cases p.inner.shutdownFault p.inner.shutdowns with
  | none => exact .inl rfl
  | some e => exact .inr ⟨e, rfl⟩

end SpeedTest
