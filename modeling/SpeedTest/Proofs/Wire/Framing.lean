import Mathlib.Algebra.Group.Nat.Defs
import SpeedTest.Proofs.Stream.Outward

/-! Frames on a stream. What reading a frame comes to is a function of the bytes that the stream
delivers, and a frame that was encoded is read back with everything behind it untouched. -/

namespace SpeedTest

/-- Bytes that are read behind a number add their digits to it. -/
theorem Bytes.foldl_ofNat (width n start : Nat) :
    (ofNat width n).foldl (fun n b => 256 * n + b.toNat) start =
      start * 256 ^ width + n % 256 ^ width := by
  induction width generalizing start with
  | zero => simp [ofNat, Nat.mod_one]
  | succ w ih =>
      have hDigit : (UInt8.ofNat (n >>> (8 * w))).toNat = n / 256 ^ w % 256 := by
        rw [UInt8.toNat_ofNat', Nat.shiftRight_eq_div_pow, Nat.pow_mul]
      rw [ofNat, List.foldl_cons, ih, hDigit, Nat.pow_succ, Nat.mod_mul, Nat.add_mul]
      have hStart : 256 * start * 256 ^ w = start * (256 ^ w * 256) := by ac_rfl
      rw [hStart, Nat.mul_comm (n / 256 ^ w % 256)]
      omega

/-- The bytes of a number give it back, as long as it fits. -/
theorem Bytes.toNat_ofNat {width n : Nat} (h : n < 256 ^ width) : toNat (ofNat width n) = n := by
  rw [toNat, foldl_ofNat, Nat.zero_mul, Nat.zero_add, Nat.mod_eq_of_lt h]

/-- The two bytes of a length give it back, as long as it fits. -/
theorem Bytes.toNat_ofNat_two {n : Nat} (h : n ≤ 65535) : toNat (ofNat 2 n) = n :=
  toNat_ofNat (by omega)

namespace Frame

/-- What reading a frame comes to on a stream that ends behind the given bytes, and the bytes that
are left. Bytes of a frame that breaks off are lost. -/
def ofFront (w : Bytes) : Outcome ProtocolError Frame × Bytes :=
  match w with
  | k :: hi :: lo :: behind =>
    match Kind.ofByte? k with
    | none => (.failed (.unknownKind k), behind)
    | some kind =>
      let length := Bytes.toNat [hi, lo]
      if length ≤ behind.length then (.done ⟨kind, behind.take length⟩, behind.drop length)
      else (.failed (.io .earlyEnd), [])
  | _ => (.failed (.io .earlyEnd), [])

theorem encode_eq_ok {f : Frame} {bs : Bytes} (h : f.encode = .ok bs) :
    f.body.length ≤ maxBodyLength ∧ bs = header f.kind f.body.length ++ f.body := by
  unfold encode at h
  split at h
  · rename_i hLe
    cases h
    exact ⟨hLe, rfl⟩
  · cases h

/-- Reading a frame once its header has been read. -/
theorem readFrom_of_header {σ : Type} {read : Nat → Action σ IoError Bytes} {s s' : σ}
    {k hi lo : UInt8} (h : readExact read headerLength s = (.done [k, hi, lo], s')) :
    readFrom read s =
      match Kind.ofByte? k with
      | none => (.failed (.unknownKind k), s')
      | some kind =>
        match readExact read (Bytes.toNat [hi, lo]) s' with
        | (.done body, s'') => (.done ⟨kind, body⟩, s'')
        | (.failed e, s'') => (.failed (.io e), s'')
        | (.pending, s'') => (.pending, s'') := by
  rw [readFrom, Action.bind_apply, Action.mapError, h]
  dsimp only
  cases Kind.ofByte? k with
  | none => rfl
  | some kind =>
      dsimp only
      rw [Action.bind_apply, Action.mapError]
      obtain ⟨r, s''⟩ := readExact read (Bytes.toNat [hi, lo]) s'
      cases r <;> rfl

section Reading

variable {p : PeekStream} {w : Bytes} {rest : Stream}

theorem readFrom_of_short (h : p.Delivers w rest) (hEnd : rest.AtEnd)
    (hShort : w.length < headerLength) :
    ∃ p', readFrom PeekStream.read p = (.failed (.io .earlyEnd), p') ∧ p'.Delivers [] rest := by
  obtain ⟨p', hRead, hDelivers⟩ := h.readExactFrom_of_lt hEnd hShort []
  refine ⟨p', ?_, hDelivers⟩
  rw [readFrom, Action.bind_apply, Action.mapError, readExact, hRead]

/-- Reading a frame off a stream depends on the bytes alone, and on nothing of how they arrive. -/
theorem readFrom_eq_ofFront (h : p.Delivers w rest) (hEnd : rest.AtEnd) :
    ∃ p', readFrom PeekStream.read p = ((ofFront w).1, p') ∧ p'.Delivers (ofFront w).2 rest := by
  rcases w with _ | ⟨k, _ | ⟨hi, _ | ⟨lo, behind⟩⟩⟩
  · exact readFrom_of_short h hEnd (by decide)
  · exact readFrom_of_short h hEnd (by simp [headerLength])
  · exact readFrom_of_short h hEnd (by simp [headerLength])
  have hHeader : p.Delivers ([k, hi, lo] ++ behind) rest := h
  obtain ⟨q, hHead, hDelivers⟩ := hHeader.readExactFrom []
  rw [readFrom_of_header hHead, ofFront]
  cases Kind.ofByte? k with
  | none => exact ⟨q, rfl, hDelivers⟩
  | some kind =>
      by_cases hLe : Bytes.toNat [hi, lo] ≤ behind.length
      · have hSplit := List.take_append_drop (Bytes.toNat [hi, lo]) behind
        rw [← hSplit] at hDelivers
        obtain ⟨p', hBody, hDelivers'⟩ := hDelivers.readExactFrom []
        rw [List.length_take, Nat.min_eq_left hLe] at hBody
        exact ⟨p', by simp [readExact, hBody, hLe], by simpa [hLe] using hDelivers'⟩
      · obtain ⟨p', hBody, hDelivers'⟩ :=
          hDelivers.readExactFrom_of_lt hEnd (Nat.lt_of_not_le hLe) []
        exact ⟨p', by simp [readExact, hBody, hLe], by simpa [hLe] using hDelivers'⟩

/-- A frame on a stream is read back whole. Whether and how the stream ends behind it does not
matter, since no read goes beyond the frame. -/
theorem readFrom_encode {f : Frame} {bs : Bytes} (hEncode : f.encode = .ok bs)
    (h : p.Delivers (bs ++ w) rest) :
    ∃ p', readFrom PeekStream.read p = (.done f, p') ∧ p'.Delivers w rest := by
  obtain ⟨hLe, rfl⟩ := encode_eq_ok hEncode
  have hLength : Bytes.toNat (Bytes.ofNat 2 f.body.length) = f.body.length :=
    Bytes.toNat_ofNat_two hLe
  rw [List.append_assoc] at h
  obtain ⟨q, hHead, hDelivers⟩ := h.readExactFrom []
  obtain ⟨p', hBody, hDelivers'⟩ := hDelivers.readExactFrom []
  refine ⟨p', ?_, hDelivers'⟩
  rw [readFrom_of_header hHead, Kind.ofByte?_byte]
  simp only [readExact, Bytes.ofNat] at hLength ⊢
  rw [hLength, hBody]
  rfl

end Reading

end Frame

end SpeedTest
