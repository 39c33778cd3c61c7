import SpeedTest.Proofs.Stream.Writing

/-! Streams that refuse writes. A stream may take any part of a write or none of it, but where one
write has been refused none is accepted any more, so that nothing ever stands behind a gap: what has
been written in the end is a front part of what was to be written, and all of it if no write was
refused. -/

namespace SpeedTest.Stream

variable {s t u : Stream} {bytes bytes' : Bytes}

/-- How many writes have taken nothing, going by the record of the stream. -/
def refusals (s : Stream) : Int := s.writes - s.sent.countP fun piece => !piece.isEmpty

/-- No write is accepted any more. -/
def Spent (s : Stream) : Prop := s.room = some 0 ∨ ∀ n, s.writes ≤ n → s.grant n = some 0

/-- Where a write is refused, so are those behind it. Room that has been used up does not come back
in any case. -/
def Steady (s : Stream) : Prop :=
  ∀ m n, s.writes ≤ m → m ≤ n → s.grant m = some 0 → s.grant n = some 0

/-- What a write comes to: it is accepted in part, there is no room for it, or it is granted
nothing. -/
inductive Wrote (bytes : Bytes) (s : Stream) : Outcome IoError Nat → Stream → Prop
  | took {front back : Bytes} (hFront : front ≠ []) (hSplit : bytes = front ++ back)
      (hRoom : s.room ≠ some 0) (hGrant : s.grant s.writes ≠ some 0) :
      Wrote bytes s (.done front.length)
        { s with
          room := s.room.map (· - front.length)
          writes := s.writes + 1
          sent := front :: s.sent }
  | full (hRoom : s.room = some 0) :
      Wrote bytes s (.failed s.writeFault) { s with writes := s.writes + 1 }
  | barred (hGrant : s.grant s.writes = some 0) :
      Wrote bytes s (.done 0)
        { s with
          room := s.room.map (· - 0)
          writes := s.writes + 1
          sent := [] :: s.sent }

theorem accepts_eq_nil_iff (hRoom : s.room ≠ some 0) (hBytes : bytes ≠ []) :
    s.accepts bytes = [] ↔ s.grant s.writes = some 0 := by
  unfold accepts
  split
  · rename_i hGrant
    simp [hBytes, hGrant]
  · rename_i r hSome hGrant
    have hPos : r ≠ 0 := fun hZero => hRoom (hZero ▸ hSome)
    simp [hBytes, hPos, hGrant]
  · rename_i g hNone hGrant
    simp [hBytes, hGrant]
  · rename_i r g hSome hGrant
    have hPos : r ≠ 0 := fun hZero => hRoom (hZero ▸ hSome)
    have hMin : min r g = 0 ↔ g = 0 := by omega
    simp [hBytes, hGrant, hMin]

theorem wrote_of_write (hBytes : bytes ≠ []) {r : Outcome IoError Nat}
    (h : write bytes s = (r, t)) : Wrote bytes s r t := by
  rw [write] at h
  by_cases hRoom : s.room = some 0
  · rw [if_pos hRoom] at h
    cases h
    exact .full hRoom
  rw [if_neg hRoom] at h
  obtain ⟨back, hSplit⟩ := s.accepts_prefix bytes
  have hNone := accepts_eq_nil_iff hRoom hBytes
  by_cases hTaken : s.accepts bytes = []
  · rw [hTaken] at h
    cases h
    exact .barred (hNone.mp hTaken)
  · cases h
    exact .took hTaken hSplit.symm hRoom (mt hNone.mpr hTaken)

/-- A piece that a write has taken is no refusal. -/
theorem refusals_cons {piece : Bytes} (hPiece : piece ≠ []) (room : Option Nat) :
    refusals { s with room := room, writes := s.writes + 1, sent := piece :: s.sent } =
      s.refusals := by
  have hTaken : (!piece.isEmpty) = true := by simp [hPiece]
  simp only [refusals, List.countP_cons, hTaken, if_true]
  omega

theorem refusals_cons_nil (room : Option Nat) :
    refusals { s with room := room, writes := s.writes + 1, sent := [] :: s.sent } =
      s.refusals + 1 := by
  simp only [refusals, List.countP_cons, List.isEmpty_nil, Bool.not_true, Bool.false_eq_true,
    if_false]
  omega

theorem refusals_unsent : refusals { s with writes := s.writes + 1 } = s.refusals + 1 := by
  simp only [refusals]
  omega

/-- A write that takes nothing is a refusal. -/
theorem Wrote.of_refused {r : Outcome IoError Nat} (h : Wrote bytes s r t)
    (hNone : ∀ n, r = .done n → n = 0) :
    t.written = s.written ∧ t.refusals = s.refusals + 1 := by
  cases h with
  | took hFront => exact absurd (List.length_eq_zero_iff.mp (hNone _ rfl)) hFront
  | full => exact ⟨rfl, refusals_unsent⟩
  | barred => exact ⟨by simp [written], refusals_cons_nil _⟩

theorem Wrote.of_done {n : Nat} (h : Wrote bytes s (.done n) t) (hSome : n ≠ 0) :
    ∃ front back, front ≠ [] ∧ bytes = front ++ back ∧ n = front.length ∧
      t.written = s.written ++ front ∧ t.refusals = s.refusals := by
  cases h with
  | took hFront hSplit =>
      exact ⟨_, _, hFront, hSplit, rfl, by simp [written], refusals_cons hFront _⟩
  | barred => exact absurd rfl hSome

/-- From `s` to `t` the stream was to take `bytes` and nothing else. It has taken a front part, and
where that is not all it is spent. -/
structure Lays (bytes : Bytes) (s t : Stream) : Prop where
  steady : t.Steady
  spent : s.Spent → t.Spent
  part : ∃ part, part <+: bytes ∧ t.written = s.written ++ part ∧ (s.Spent → part = []) ∧
    (part = bytes ∨ t.Spent)
  refusals_le : s.refusals ≤ t.refusals
  whole : t.refusals = s.refusals → t.written = s.written ++ bytes

namespace Lays

/-- Where nothing is written, nothing changes that matters for writing. -/
theorem of_idle (hSteady : s.Steady) (arrivals : List Arrival) (flushes shutdowns : Nat) :
    Lays [] s { s with arrivals := arrivals, flushes := flushes, shutdowns := shutdowns } where
  steady := hSteady
  spent := id
  part := ⟨[], List.nil_prefix, (List.append_nil _).symm, fun _ => rfl, .inl rfl⟩
  refusals_le := Int.le_refl _
  whole := fun _ => (List.append_nil _).symm

theorem refl (hSteady : s.Steady) : Lays [] s s := of_idle hSteady _ _ _

theorem trans (h : Lays bytes s t) (h' : Lays bytes' t u) : Lays (bytes ++ bytes') s u where
  steady := h'.steady
  spent hSpent := h'.spent (h.spent hSpent)
  part := by
    obtain ⟨part, hPart, hWritten, hNone, hAll⟩ := h.part
    obtain ⟨part', hPart', hWritten', hNone', hAll'⟩ := h'.part
    refine ⟨part ++ part', ?_, by rw [hWritten', hWritten, List.append_assoc], ?_, ?_⟩
    · -- A second part is written only behind the whole of the first.
      rcases hAll with rfl | hSpent
      · exact (List.prefix_append_right_inj part).mpr hPart'
      · rw [hNone' hSpent, List.append_nil]
        exact hPart.trans (List.prefix_append _ _)
    · intro hSpent
      rw [hNone hSpent, hNone' (h.spent hSpent), List.append_nil]
    · rcases hAll with rfl | hSpent
      · exact hAll'.imp_left (congrArg _)
      · exact .inr (h'.spent hSpent)
  refusals_le := Int.le_trans h.refusals_le h'.refusals_le
  whole hSame := by
    have hFirst := h.refusals_le
    have hSecond := h'.refusals_le
    rw [h'.whole (by omega), h.whole (by omega), List.append_assoc]

end Lays

/-- A write that is refused leaves a stream behind that is spent. -/
theorem Wrote.lays {r : Outcome IoError Nat} (h : Wrote bytes s r t) (hSteady : s.Steady) :
    (∃ front back, front ≠ [] ∧ bytes = front ++ back ∧ r = .done front.length ∧
        Lays front s t) ∨
      (r = .done 0 ∨ ∃ e, r = .failed e) ∧ Lays bytes s t := by
  have hSteady' {m n : Nat} (hm : s.writes + 1 ≤ m) := hSteady m n (Nat.le_of_succ_le hm)
  cases h with
  | @took front back hFront hSplit hRoom hGrant =>
      have hUnspent : ¬ s.Spent := by
        rintro (hFull | hBarred)
        · exact hRoom hFull
        · exact hGrant (hBarred _ (Nat.le_refl _))
      refine .inl ⟨front, back, hFront, hSplit, rfl, ?_⟩
      exact {
        steady := fun m n hm => hSteady' hm
        spent := fun hSpent => absurd hSpent hUnspent
        part := ⟨front, List.prefix_refl _, by simp [written], fun hSpent => absurd hSpent hUnspent,
          .inl rfl⟩
        refusals_le := Int.le_of_eq (refusals_cons hFront _).symm
        whole := fun _ => by simp [written] }
  | full hRoom =>
      refine .inr ⟨.inr ⟨_, rfl⟩, ?_⟩
      exact {
        steady := fun m n hm => hSteady' hm
        spent := fun _ => .inl hRoom
        part := ⟨[], List.nil_prefix, (List.append_nil _).symm, fun _ => rfl, .inr (.inl hRoom)⟩
        refusals_le := by rw [refusals_unsent]; omega
        whole := fun hSame => by rw [refusals_unsent] at hSame; omega }
  | barred hGrant =>
      have hSpent (n : Nat) (hn : s.writes + 1 ≤ n) : s.grant n = some 0 :=
        hSteady s.writes n (Nat.le_refl _) (Nat.le_of_succ_le hn) hGrant
      refine .inr ⟨.inl rfl, ?_⟩
      exact {
        steady := fun m n hm => hSteady' hm
        spent := fun _ => .inr hSpent
        part := ⟨[], List.nil_prefix, by simp [written], fun _ => rfl, .inr (.inr hSpent)⟩
        refusals_le := by rw [refusals_cons_nil]; omega
        whole := fun hSame => by rw [refusals_cons_nil] at hSame; omega }

/-- Writing everything goes on until a write is refused. -/
theorem lays_writeAll (hSteady : s.Steady) (bytes : Bytes) :
    Lays bytes s (writeAll bytes s).2 := by
  fun_induction writeAll bytes s with
  | case1 s => exact .refl hSteady
  | case2 bytes s h e t hWrite =>
      rcases (wrote_of_write h hWrite).lays hSteady with ⟨_, _, _, _, hDone, _⟩ | ⟨_, hLays⟩
      · cases hDone
      · exact hLays
  | case3 bytes s h t hWrite =>
      exact absurd (congrArg Prod.fst hWrite) (write_ne_pending bytes s)
  | case4 bytes s h t hWrite =>
      rcases (wrote_of_write h hWrite).lays hSteady with
        ⟨front, _, hFront, _, hDone, _⟩ | ⟨_, hLays⟩
      · exact absurd (List.length_eq_zero_iff.mp (Outcome.done.inj hDone).symm) hFront
      · exact hLays
  | case5 bytes s h n t hWrite hn ih =>
      rcases (wrote_of_write h hWrite).lays hSteady with
        ⟨front, back, hFront, rfl, hDone, hLays⟩ | ⟨hNone | ⟨e, hFailed⟩, _⟩
      · cases hDone
        rw [List.drop_left] at ih ⊢
        exact hLays.trans (ih hLays.steady)
      · exact absurd (Outcome.done.inj hNone) hn
      · cases hFailed

theorem Lays.flush (h : Lays bytes s t) : Lays bytes s (Stream.flush t).2 := by
  have hFlush : Lays [] t (Stream.flush t).2 := by
    unfold Stream.flush
    dsimp only
    split <;> exact .of_idle h.steady _ _ _
  exact List.append_nil bytes ▸ h.trans hFlush

end SpeedTest.Stream
