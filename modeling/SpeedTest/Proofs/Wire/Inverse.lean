import SpeedTest.Proofs.Wire.Consumption

/-! Decoding a buffer and encoding a frame undo each other: no frame has a second spelling, and
every buffer that spells none is refused for one reason. -/

namespace SpeedTest

/-- The codes up to eleven are the kinds, and those above are none. -/
theorem Kind.ofByte?_eq_none_iff (b : UInt8) : ofByte? b = none ↔ 11 < b.toNat := by
  constructor
  · intro hNone
    unfold ofByte? at hNone
    split at hNone
    case h_13 => grind
    all_goals cases hNone
  · intro hAbove
    unfold ofByte?
    split
    case h_13 => rfl
    all_goals omega

theorem Kind.byte_le (kind : Kind) : kind.byte.toNat ≤ 11 := by
  rw [← Nat.not_lt, ← ofByte?_eq_none_iff, ofByte?_byte]
  exact Option.some_ne_none kind

theorem Kind.exists_byte_eq {b : UInt8} (hLe : b.toNat ≤ 11) : ∃ kind : Kind, kind.byte = b := by
  have hSome : ofByte? b ≠ none := by
    rw [Ne, ofByte?_eq_none_iff]
    omega
  obtain ⟨kind, hKind⟩ := Option.ne_none_iff_exists'.mp hSome
  exact ⟨kind, byte_of_ofByte? hKind⟩

theorem Bytes.toNat_two (hi lo : UInt8) : toNat [hi, lo] = 256 * hi.toNat + lo.toNat := by
  simp [toNat]

namespace Frame

/-- The bytes of a frame: the code of its kind, the two digits of its length, and its body. -/
theorem encode_eq_ok_iff (f : Frame) (buf : Bytes) :
    f.encode = .ok buf ↔
      ∃ hi lo, buf = f.kind.byte :: hi :: lo :: f.body ∧
        f.body.length = 256 * hi.toNat + lo.toNat := by
  constructor
  · intro hEncode
    obtain ⟨hLe, rfl⟩ := encode_eq_ok hEncode
    have hLength : Bytes.toNat (Bytes.ofNat 2 f.body.length) = f.body.length :=
      Bytes.toNat_ofNat_two hLe
    simp only [Bytes.ofNat, Bytes.toNat_two] at hLength
    exact ⟨_, _, rfl, hLength.symm⟩
  · rintro ⟨hi, lo, rfl, hLength⟩
    rw [← Bytes.toNat_two] at hLength
    have hLe := Bytes.toNat_two_le hi lo
    simp only [encode, maxBodyLength, hLength, hLe, if_true, header, Bytes.ofNat_toNat_two]
    rfl

/-- The form of a buffer: too short for a header, with a code that no kind has, or with the code of
a kind and a length. -/
inductive Opening : Bytes → Prop
  | short {buf : Bytes} (hShort : buf.length < 3) : Opening buf
  | unknown {k : UInt8} (hAbove : 11 < k.toNat) (hi lo : UInt8) (body : Bytes) :
      Opening (k :: hi :: lo :: body)
  | known (kind : Kind) (hi lo : UInt8) (body : Bytes) :
      Opening (kind.byte :: hi :: lo :: body)

theorem opening (buf : Bytes) : Opening buf := by
  rcases buf with _ | ⟨k, _ | ⟨hi, _ | ⟨lo, body⟩⟩⟩
  · exact .short (by decide)
  · exact .short (by simp)
  · exact .short (by simp)
  · by_cases hAbove : 11 < k.toNat
    · exact .unknown hAbove hi lo body
    · obtain ⟨kind, rfl⟩ := Kind.exists_byte_eq (Nat.le_of_not_lt hAbove)
      exact .known kind hi lo body

theorem decode_of_short {buf : Bytes} (hShort : buf.length < 3) :
    decode buf = .error (.lengthMismatch 3 buf.length) := by
  rcases buf with _ | ⟨k, _ | ⟨hi, _ | ⟨lo, body⟩⟩⟩
  · rfl
  · rfl
  · rfl
  · simp only [List.length_cons] at hShort
    omega

theorem decode_of_unknown {k : UInt8} (hAbove : 11 < k.toNat) (hi lo : UInt8) (body : Bytes) :
    decode (k :: hi :: lo :: body) = .error (.unknownKind k) := by
  simp only [decode, (Kind.ofByte?_eq_none_iff k).mpr hAbove]

theorem decode_of_known (kind : Kind) (hi lo : UInt8) (body : Bytes) :
    decode (kind.byte :: hi :: lo :: body) =
      if body.length = 256 * hi.toNat + lo.toNat then .ok ⟨kind, body⟩
      else .error (.lengthMismatch (256 * hi.toNat + lo.toNat) body.length) := by
  simp only [decode, Kind.ofByte?_byte, Bytes.toNat_two]

theorem decode_eq_ok_iff (f : Frame) (buf : Bytes) : decode buf = .ok f ↔ f.encode = .ok buf := by
  rw [encode_eq_ok_iff]
  constructor
  · intro hDecode
    cases opening buf with
    | short hShort =>
        rw [decode_of_short hShort] at hDecode
        cases hDecode
    | unknown hAbove hi lo body =>
        rw [decode_of_unknown hAbove] at hDecode
        cases hDecode
    | known kind hi lo body =>
        rw [decode_of_known] at hDecode
        split at hDecode
        · rename_i hLength
          cases hDecode
          exact ⟨hi, lo, rfl, hLength⟩
        · cases hDecode
  · rintro ⟨hi, lo, rfl, hLength⟩
    rw [decode_of_known, if_pos hLength]

/-- The one fault of a buffer that spells no frame, by its length, its first byte and its declared
and actual body. -/
theorem decode_eq_error_iff (buf : Bytes) (e : ProtocolError) :
    decode buf = .error e ↔
      (buf.length < 3 ∧ e = .lengthMismatch 3 buf.length) ∨
      ∃ k hi lo body, buf = k :: hi :: lo :: body ∧
        ((11 < k.toNat ∧ e = .unknownKind k) ∨
          (k.toNat ≤ 11 ∧ body.length ≠ 256 * hi.toNat + lo.toNat ∧
            e = .lengthMismatch (256 * hi.toNat + lo.toNat) body.length)) := by
  constructor
  · intro hDecode
    cases opening buf with
    | short hShort =>
        rw [decode_of_short hShort] at hDecode
        cases hDecode
        exact .inl ⟨hShort, rfl⟩
    | unknown hAbove hi lo body =>
        rw [decode_of_unknown hAbove] at hDecode
        cases hDecode
        exact .inr ⟨_, hi, lo, body, rfl, .inl ⟨hAbove, rfl⟩⟩
    | known kind hi lo body =>
        rw [decode_of_known] at hDecode
        split at hDecode
        · cases hDecode
        · rename_i hLength
          cases hDecode
          exact .inr ⟨_, hi, lo, body, rfl, .inr ⟨kind.byte_le, hLength, rfl⟩⟩
  · rintro (⟨hShort, rfl⟩ | ⟨k, hi, lo, body, rfl, ⟨hAbove, rfl⟩ | ⟨hLe, hLength, rfl⟩⟩)
    · exact decode_of_short hShort
    · exact decode_of_unknown hAbove hi lo body
    · obtain ⟨kind, rfl⟩ := Kind.exists_byte_eq hLe
      rw [decode_of_known, if_neg hLength]

/-- Buffers and frames correspond one to one, and a buffer that is no frame says why. -/
theorem decode_inverts_encode (buf : Bytes) :
    (∀ f : Frame, decode buf = .ok f ↔ f.encode = .ok buf) ∧
    (∀ f : Frame, f.encode = .ok buf ↔
      ∃ hi lo, buf = f.kind.byte :: hi :: lo :: f.body ∧
        f.body.length = 256 * hi.toNat + lo.toNat) ∧
    ∀ e, decode buf = .error e ↔
      (buf.length < 3 ∧ e = .lengthMismatch 3 buf.length) ∨
      ∃ k hi lo body, buf = k :: hi :: lo :: body ∧
        ((11 < k.toNat ∧ e = .unknownKind k) ∨
          (k.toNat ≤ 11 ∧ body.length ≠ 256 * hi.toNat + lo.toNat ∧
            e = .lengthMismatch (256 * hi.toNat + lo.toNat) body.length)) :=
  ⟨fun f => decode_eq_ok_iff f buf, fun f => encode_eq_ok_iff f buf, decode_eq_error_iff buf⟩

end Frame

end SpeedTest
