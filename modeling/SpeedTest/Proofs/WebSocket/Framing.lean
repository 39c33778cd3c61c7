import SpeedTest.Proofs.Wire.Framing
import SpeedTest.WebSocket.Frame

/-! Frames of WebSockets as clients send them, and how the server reads them out of bytes that
arrive bit by bit: a frame is read when its last byte is there and not before, and the bytes behind
it do not matter. -/

namespace SpeedTest.WebSocket

/-- Masking is undone by masking once more. -/
theorem applyMask_applyMask (key payload : Bytes) :
    applyMask key (applyMask key payload) = payload := by
  apply List.ext_getElem
  · simp [applyMask]
  · intro i hLeft hRight
    simp only [applyMask, List.getElem_mapIdx]
    rw [UInt8.xor_assoc, UInt8.xor_self, UInt8.xor_zero]

@[simp] theorem length_applyMask (key payload : Bytes) :
    (applyMask key payload).length = payload.length := by
  simp [applyMask]

theorem holds_iff (n : Nat) (bs : Bytes) : holds n bs = true ↔ n ≤ bs.length := by
  cases n with
  | zero => simp [holds]
  | succ n =>
      simp only [holds, Bool.not_eq_true', List.isEmpty_eq_false_iff, ne_eq, List.drop_eq_nil_iff]
      omega

/-- Bytes are cut off exactly where there are as many. -/
theorem cut?_eq_some {n : Nat} {bs front behind : Bytes} :
    cut? n bs = some (front, behind) ↔ front.length = n ∧ bs = front ++ behind := by
  unfold cut?
  constructor
  · intro h
    split at h
    · rename_i hHolds
      cases h
      exact ⟨List.length_take_of_le ((holds_iff n bs).mp hHolds), (List.take_append_drop n bs).symm⟩
    · cases h
  · rintro ⟨rfl, rfl⟩
    have hHolds := (holds_iff front.length (front ++ behind)).mpr (by simp)
    rw [if_pos hHolds, List.take_left, List.drop_left]

theorem cut?_append {n : Nat} {bs front behind : Bytes} (h : cut? n bs = some (front, behind))
    (more : Bytes) : cut? n (bs ++ more) = some (front, behind ++ more) := by
  obtain ⟨hLength, rfl⟩ := cut?_eq_some.mp h
  exact cut?_eq_some.mpr ⟨hLength, List.append_assoc ..⟩

theorem readLength?_append {second length : Nat} {bs behind : Bytes}
    (h : readLength? second bs = some (length, behind)) (more : Bytes) :
    readLength? second (bs ++ more) = some (length, behind ++ more) := by
  simp only [readLength?] at h ⊢
  by_cases hTwo : second % 128 = 126
  · rw [if_pos hTwo] at h ⊢
    obtain ⟨⟨front, rest⟩, hCut, hSame⟩ := Option.map_eq_some_iff.mp h
    cases hSame
    rw [cut?_append hCut]
    rfl
  by_cases hEight : second % 128 = 127
  · rw [if_neg hTwo, if_pos hEight] at h ⊢
    obtain ⟨⟨front, rest⟩, hCut, hSame⟩ := Option.map_eq_some_iff.mp h
    cases hSame
    rw [cut?_append hCut]
    rfl
  · rw [if_neg hTwo, if_neg hEight] at h ⊢
    cases h
    rfl

theorem readMask?_append {second : Nat} {key : Option Bytes} {bs behind : Bytes}
    (h : readMask? second bs = some (key, behind)) (more : Bytes) :
    readMask? second (bs ++ more) = some (key, behind ++ more) := by
  simp only [readMask?] at h ⊢
  by_cases hPlain : second < 128
  · rw [if_pos hPlain] at h ⊢
    cases h
    rfl
  · rw [if_neg hPlain] at h ⊢
    obtain ⟨⟨front, rest⟩, hCut, hSame⟩ := Option.map_eq_some_iff.mp h
    cases hSame
    rw [cut?_append hCut]
    rfl

/-- The reading `x` of some bytes, if further bytes stand behind those. -/
def followedBy {α : Type} (more : Bytes) (x : Except Error (Option (α × Bytes))) :
    Except Error (Option (α × Bytes)) :=
  x.map (Option.map fun (a, behind) => (a, behind ++ more))

/-- A header that has been read is not read anew when more bytes arrive. -/
theorem Header.read?_append (bs more : Bytes) :
    Header.read? bs = .ok none ∨ Header.read? (bs ++ more) = followedBy more (Header.read? bs) := by
  rcases bs with _ | ⟨a, _ | ⟨b, bs⟩⟩
  · exact .inl rfl
  · exact .inl rfl
  simp only [List.cons_append, read?]
  cases hLength : readLength? b.toNat bs with
  | none => exact .inl rfl
  | some x =>
      obtain ⟨length, behind⟩ := x
      rw [readLength?_append hLength]
      dsimp only
      cases hMask : readMask? b.toNat behind with
      | none => exact .inl rfl
      | some y =>
          obtain ⟨key, rest⟩ := y
          rw [readMask?_append hMask]
          cases Opcode.ofCode? (a.toNat % 16) <;> exact .inr rfl

namespace Frame

/-- A frame that has been read is not read anew when more bytes arrive, and neither is a fault. -/
theorem read?_append (bs more : Bytes) :
    read? bs = .ok none ∨ read? (bs ++ more) = followedBy more (read? bs) := by
  unfold read?
  rcases Header.read?_append bs more with hNone | hHeader
  · rw [hNone]
    exact .inl rfl
  rw [hHeader]
  cases Header.read? bs with
  | error e => exact .inr rfl
  | ok x =>
      rcases x with _ | ⟨h, rest⟩
      · exact .inl rfl
      simp only [followedBy, Except.map, Option.map_some]
      split
      · exact .inr rfl
      cases hCut : cut? h.length rest with
      | none => exact .inl rfl
      | some y =>
          obtain ⟨payload, behind⟩ := y
          rw [cut?_append hCut]
          dsimp only
          cases h.mask <;> exact .inr rfl

variable {f : Frame} {bs : Bytes}

/-- Bytes that are a frame are read as that frame, and what follows them is left. -/
theorem read?_append_of_whole (h : read? bs = .ok (some (f, []))) (more : Bytes) :
    read? (bs ++ more) = .ok (some (f, more)) := by
  rcases read?_append bs more with hNone | hMore
  · rw [h] at hNone
    cases hNone
  · rw [hMore, h]
    rfl

/-- As long as bytes of a frame are missing, nothing is read. -/
theorem read?_of_missing {front missing : Bytes}
    (h : read? (front ++ missing) = .ok (some (f, []))) (hMissing : missing ≠ []) :
    read? front = .ok none := by
  rcases read?_append front missing with hNone | hMore
  · exact hNone
  rw [h] at hMore
  cases hRead : read? front with
  | error e =>
      rw [hRead] at hMore
      cases hMore
  | ok x =>
      rcases x with _ | ⟨f', behind⟩
      · rfl
      rw [hRead] at hMore
      simp only [followedBy, Except.map, Option.map_some, Except.ok.injEq, Option.some.injEq,
        Prod.mk.injEq, List.nil_eq, List.append_eq_nil_iff] at hMore
      exact absurd hMore.2.2 hMissing

/-- The second byte of a masked frame and the bytes of its length behind it. -/
def maskedLengthField (n : Nat) : Bytes :=
  if n < 126 then [UInt8.ofNat (128 + n)]
  else if n < 65536 then 254 :: Bytes.ofNat 2 n
  else 255 :: Bytes.ofNat 8 n

/-- The first byte of a frame: two flags, and the code of what it carries. -/
def firstByte (isFinal reserved : Bool) (opcode : Opcode) : UInt8 :=
  UInt8.ofNat ((if isFinal then 128 else 0) + (if reserved then 64 else 0) + opcode.code)

/-- A frame on the wire as clients send it, masked with the given four bytes. -/
def renderMasked (key : Bytes) (f : Frame) : Bytes :=
  firstByte f.isFinal f.reserved f.opcode
    :: (maskedLengthField f.payload.length ++ (key ++ applyMask key f.payload))

theorem firstByte_fields (isFinal reserved : Bool) (opcode : Opcode) :
    let first := (firstByte isFinal reserved opcode).toNat
    Opcode.ofCode? (first % 16) = some opcode ∧ decide (128 ≤ first) = isFinal ∧
      decide (first / 16 % 8 ≠ 0) = reserved := by
  cases isFinal <;> cases reserved <;> cases opcode <;> decide

theorem maskedLengthField_eq {n : Nat} (hFits : n < 256 ^ 8) :
    ∃ second digits, maskedLengthField n = second :: digits ∧ 128 ≤ second.toNat ∧
      ∀ behind, readLength? second.toNat (digits ++ behind) = some (n, behind) := by
  unfold maskedLengthField
  split
  · rename_i hShort
    have hSecond : (UInt8.ofNat (128 + n)).toNat = 128 + n := by
      rw [UInt8.toNat_ofNat']
      omega
    refine ⟨_, [], rfl, by omega, fun behind => ?_⟩
    rw [hSecond, readLength?]
    have hDigits : (128 + n) % 128 = n := by omega
    rw [hDigits, if_neg (by omega), if_neg (by omega)]
    rfl
  split
  · rename_i hMedium
    refine ⟨254, _, rfl, by decide, fun behind => ?_⟩
    have hCut : cut? 2 (Bytes.ofNat 2 n ++ behind) = some (Bytes.ofNat 2 n, behind) :=
      cut?_eq_some.mpr ⟨rfl, rfl⟩
    have hDigits : Bytes.toNat (Bytes.ofNat 2 n) = n := Bytes.toNat_ofNat (by omega)
    rw [readLength?]
    simp only [hCut, Option.map_some, hDigits]
    rfl
  · refine ⟨255, _, rfl, by decide, fun behind => ?_⟩
    have hCut : cut? 8 (Bytes.ofNat 8 n ++ behind) = some (Bytes.ofNat 8 n, behind) :=
      cut?_eq_some.mpr ⟨rfl, rfl⟩
    rw [readLength?]
    simp only [hCut, Option.map_some, Bytes.toNat_ofNat hFits]
    rfl

/-- What a client sends is read as it was meant. -/
theorem read?_renderMasked {key : Bytes} (hKey : key.length = 4)
    (hFits : f.payload.length ≤ maxFrameSize) :
    read? (renderMasked key f) = .ok (some (f, [])) := by
  have hLength : f.payload.length < 256 ^ 8 := Nat.lt_of_le_of_lt hFits (by decide)
  obtain ⟨second, digits, hField, hMasked, hRead⟩ := maskedLengthField_eq hLength
  obtain ⟨hOpcode, hFinal, hReserved⟩ := firstByte_fields f.isFinal f.reserved f.opcode
  have hMask (behind : Bytes) :
      readMask? second.toNat (key ++ behind) = some (some key, behind) := by
    have hCut : cut? 4 (key ++ behind) = some (key, behind) := cut?_eq_some.mpr ⟨hKey, rfl⟩
    rw [readMask?, if_neg (by omega), hCut]
    rfl
  have hHeader : Header.read? (renderMasked key f) =
      .ok (some (⟨f.isFinal, f.reserved, f.opcode, some key, f.payload.length⟩,
        applyMask key f.payload)) := by
    rw [renderMasked, hField, List.cons_append, Header.read?]
    simp only [hRead, hMask, hOpcode, hFinal, hReserved]
  have hCut : cut? f.payload.length (applyMask key f.payload) =
      some (applyMask key f.payload, []) :=
    cut?_eq_some.mpr ⟨length_applyMask key f.payload, (List.append_nil _).symm⟩
  rw [read?, hHeader]
  simp only [Nat.not_lt.mpr hFits, if_false, hCut, applyMask_applyMask]

end Frame

end SpeedTest.WebSocket
