import SpeedTest.Proofs.Wire.Inverse

/-! Frames read off a stream that ends. The reader and the decoder of whole buffers agree, and the
reader takes a frame and nothing behind it, everything where the stream breaks off, and a header
where it knows no kind. -/

namespace SpeedTest

namespace Frame

/-- Bytes that end inside of a frame: in its header, or before its body is complete. -/
def BrokenOff (w : Bytes) : Prop :=
  w.length < 3 ∨
    ∃ k hi lo body, w = k :: hi :: lo :: body ∧ k.toNat ≤ 11 ∧
      body.length < 256 * hi.toNat + lo.toNat

/-- What a read makes of bytes that end, and what it leaves of them: a frame and what stands behind
it, an early end and nothing, or a code of no kind and what stands behind the header. -/
inductive Taken : Bytes → Outcome ProtocolError Frame → Bytes → Prop
  | frame {f : Frame} {bytes : Bytes} (hEncode : f.encode = .ok bytes) (rest : Bytes) :
      Taken (bytes ++ rest) (.done f) rest
  | brokenOff {w : Bytes} (hBroken : BrokenOff w) : Taken w (.failed (.io .earlyEnd)) []
  | unknown {k : UInt8} (hAbove : 11 < k.toNat) (hi lo : UInt8) (rest : Bytes) :
      Taken (k :: hi :: lo :: rest) (.failed (.unknownKind k)) rest

theorem exists_taken (w : Bytes) : ∃ r rest, Taken w r rest := by
  cases opening w with
  | short hShort => exact ⟨_, _, .brokenOff (.inl hShort)⟩
  | unknown hAbove hi lo behind => exact ⟨_, _, .unknown hAbove hi lo behind⟩
  | known kind hi lo behind =>
      by_cases hBroken : behind.length < 256 * hi.toNat + lo.toNat
      · exact ⟨_, _, .brokenOff (.inr ⟨_, hi, lo, behind, rfl, kind.byte_le, hBroken⟩)⟩
      -- the declared number of bytes is there, and the rest is left
      · have hLength := List.length_take_of_le (Nat.le_of_not_lt hBroken)
        have hFrame := Taken.frame ((encode_eq_ok_iff ⟨kind, _⟩ _).mpr ⟨hi, lo, rfl, hLength⟩)
          (behind.drop (256 * hi.toNat + lo.toNat))
        simp only [List.cons_append, List.take_append_drop] at hFrame
        exact ⟨_, _, hFrame⟩

theorem Taken.ofFront_eq {w rest : Bytes} {r : Outcome ProtocolError Frame}
    (h : Taken w r rest) : ofFront w = (r, rest) := by
  cases h with
  | @frame f bytes hEncode rest =>
      obtain ⟨hi, lo, rfl, hLength⟩ := (encode_eq_ok_iff f bytes).mp hEncode
      rw [← Bytes.toNat_two] at hLength
      have hLe : Bytes.toNat [hi, lo] ≤ (f.body ++ rest).length := by
        rw [List.length_append, ← hLength]
        exact Nat.le_add_right _ _
      simp only [ofFront, List.cons_append, Kind.ofByte?_byte, if_pos hLe]
      rw [← hLength, List.take_left, List.drop_left]
  | brokenOff hBroken =>
      rcases hBroken with hShort | ⟨k, hi, lo, body, rfl, hLe, hLength⟩
      · rcases w with _ | ⟨k, _ | ⟨hi, _ | ⟨lo, body⟩⟩⟩
        · rfl
        · rfl
        · rfl
        · simp only [List.length_cons] at hShort
          omega
      · obtain ⟨kind, rfl⟩ := Kind.exists_byte_eq hLe
        rw [← Bytes.toNat_two] at hLength
        simp only [ofFront, Kind.ofByte?_byte, if_neg (Nat.not_le_of_lt hLength)]
  | unknown hAbove hi lo rest =>
      simp only [ofFront, (Kind.ofByte?_eq_none_iff _).mpr hAbove]

theorem Taken.outcome_cases {w rest : Bytes} {r : Outcome ProtocolError Frame}
    (h : Taken w r rest) :
    (∃ f, r = .done f) ∨ r = .failed (.io .earlyEnd) ∨ ∃ k, r = .failed (.unknownKind k) := by
  cases h with
  | @frame f => exact .inl ⟨f, rfl⟩
  | brokenOff => exact .inr (.inl rfl)
  | @unknown k => exact .inr (.inr ⟨k, rfl⟩)

theorem taken_ofFront (w : Bytes) : Taken w (ofFront w).1 (ofFront w).2 := by
  obtain ⟨r, rest, hTaken⟩ := exists_taken w
  rw [hTaken.ofFront_eq]
  exact hTaken

theorem ofFront_eq_done_iff (w : Bytes) (f : Frame) (rest : Bytes) :
    ofFront w = (.done f, rest) ↔ ∃ bytes, f.encode = .ok bytes ∧ w = bytes ++ rest := by
  constructor
  · intro hFront
    have hTaken := taken_ofFront w
    rw [hFront] at hTaken
    cases hTaken with
    | @frame f bytes hEncode rest => exact ⟨bytes, hEncode, rfl⟩
  · rintro ⟨bytes, hEncode, rfl⟩
    exact (Taken.frame hEncode rest).ofFront_eq

theorem ofFront_eq_earlyEnd_iff (w : Bytes) :
    (ofFront w).1 = .failed (.io .earlyEnd) ↔ BrokenOff w := by
  constructor
  · intro hFront
    have hTaken := taken_ofFront w
    rw [hFront] at hTaken
    generalize (ofFront w).2 = rest at hTaken
    cases hTaken with
    | brokenOff hBroken => exact hBroken
  · intro hBroken
    rw [(Taken.brokenOff hBroken).ofFront_eq]

theorem ofFront_eq_unknownKind_iff (w : Bytes) (k : UInt8) (rest : Bytes) :
    ofFront w = (.failed (.unknownKind k), rest) ↔
      11 < k.toNat ∧ ∃ hi lo, w = k :: hi :: lo :: rest := by
  constructor
  · intro hFront
    have hTaken := taken_ofFront w
    rw [hFront] at hTaken
    cases hTaken with
    | unknown hAbove hi lo rest => exact ⟨hAbove, hi, lo, rfl⟩
  · rintro ⟨hAbove, hi, lo, rfl⟩
    exact (Taken.unknown hAbove hi lo rest).ofFront_eq

end Frame

namespace PeekStream

variable {p : PeekStream}

theorem Delivers.content_eq {w : Bytes} {rest : Stream} (h : p.Delivers w rest)
    (hEnd : rest.AtEnd) : p.content = w := by
  obtain ⟨front, -, hContent, hInner⟩ := h
  rw [content, hInner, hEnd.arrivals, List.append_nil]
  exact hContent

/-- A stream without failures that ends delivers everything there is. -/
theorem exists_delivers (hSmooth : Arrival.Smooth p.inner.arrivals)
    (hEnd : p.inner.ending = .finished) : ∃ rest, p.Delivers p.content rest ∧ rest.AtEnd := by
  refine ⟨{ p.inner with arrivals := [] }, ⟨p.inner.arrivals, hSmooth, rfl, ?_⟩, rfl, hEnd⟩
  rw [List.append_nil]

/-- A stream that nobody has looked at reads like one that nobody can look at. -/
theorem readFrom_ofStream (s : Stream) :
    Frame.readFrom read (ofStream s) =
      ((Frame.readFrom Stream.read s).1, ofStream (Frame.readFrom Stream.read s).2) := by
  have hExact (n : Nat) (t : Stream) : SpeedTest.readExact read n (ofStream t) =
      ((SpeedTest.readExact Stream.read n t).1,
        ofStream (SpeedTest.readExact Stream.read n t).2) :=
    readExactFrom_map ofStream (fun _ _ => rfl) n [] t
  simp only [Frame.readFrom, Action.bind_apply, Action.mapError, hExact]
  obtain ⟨r, t⟩ := SpeedTest.readExact Stream.read Frame.headerLength s
  cases r with
  | failed e => rfl
  | pending => rfl
  | done head =>
      rcases head with _ | ⟨k, length⟩
      · rfl
      cases hKind : Kind.ofByte? k with
      | none => simp only [hKind, Action.fail_apply]
      | some kind =>
          simp only [hKind, Action.bind_apply, Action.mapError, hExact]
          obtain ⟨r, t'⟩ := SpeedTest.readExact Stream.read (Bytes.toNat length) t
          cases r <;> rfl

end PeekStream

/-- Reading a frame off bytes that end, in whatever pieces they arrive and however many of them were
looked at before. What is read and what is left are settled by the bytes alone. -/
theorem Frame.readFrom_agrees_with_decode (p : PeekStream)
    (hSmooth : Arrival.Smooth p.inner.arrivals) (hEnd : p.inner.ending = .finished) :
    ∃ r q, readFrom PeekStream.read p = (r, q) ∧
      (p.buffered = [] → readFrom Stream.read p.inner = (r, q.inner)) ∧
      (∀ f rest, r = .done f ∧ q.content = rest ↔
        ∃ bytes, f.encode = .ok bytes ∧ p.content = bytes ++ rest) ∧
      (∀ f, decode p.content = .ok f ↔ r = .done f ∧ q.content = []) ∧
      (r = .failed (.io .earlyEnd) ↔ BrokenOff p.content) ∧
      (BrokenOff p.content → q.content = []) ∧
      (∀ k rest, r = .failed (.unknownKind k) ∧ q.content = rest ↔
        11 < k.toNat ∧ ∃ hi lo, p.content = k :: hi :: lo :: rest) ∧
      ((∃ f, r = .done f) ∨ r = .failed (.io .earlyEnd) ∨ ∃ k, r = .failed (.unknownKind k)) := by
  obtain ⟨rest, hDelivers, hAtEnd⟩ := PeekStream.exists_delivers hSmooth hEnd
  obtain ⟨q, hRead, hLeft⟩ := readFrom_eq_ofFront hDelivers hAtEnd
  have hContent : q.content = (ofFront p.content).2 := hLeft.content_eq hAtEnd
  have hPair (r : Outcome ProtocolError Frame) (left : Bytes) :
      (ofFront p.content).1 = r ∧ q.content = left ↔ ofFront p.content = (r, left) := by
    rw [hContent, Prod.ext_iff]
  refine ⟨(ofFront p.content).1, q, hRead, ?_, ?_, ?_, ofFront_eq_earlyEnd_iff _, ?_, ?_,
    (taken_ofFront p.content).outcome_cases⟩
  · intro hBuffer
    have hUnseen : .ofStream p.inner = p := by rw [PeekStream.ofStream, ← hBuffer]
    have hSame := PeekStream.readFrom_ofStream p.inner
    rw [hUnseen, hRead] at hSame
    obtain ⟨hFirst, rfl⟩ := Prod.mk.inj hSame
    exact Prod.ext hFirst.symm rfl
  · intro f left
    rw [hPair, ofFront_eq_done_iff]
  · intro f
    rw [hPair, ofFront_eq_done_iff, decode_eq_ok_iff]
    simp only [List.append_nil, exists_eq_right']
  · intro hBroken
    rw [hContent, (Taken.brokenOff hBroken).ofFront_eq]
  · intro k left
    rw [hPair, ofFront_eq_unknownKind_iff]

theorem Frame.readFrom_agrees_with_decode_in_pieces :
    ∃ q, readFrom PeekStream.read
        (.ofStream (.ofArrivals [.chunk [5], .chunk [0], .chunk [], .chunk [1, 7, 9]] .finished)) =
      (.done ⟨.testMessage, [7]⟩, q) ∧ q.content = [9] := by
  obtain ⟨r, q, hRead, -, hFrame, -⟩ := readFrom_agrees_with_decode
    (.ofStream (.ofArrivals [.chunk [5], .chunk [0], .chunk [], .chunk [1, 7, 9]] .finished))
    (by simp [Arrival.Smooth, PeekStream.ofStream, Stream.ofArrivals]) rfl
  obtain ⟨rfl, hLeft⟩ := (hFrame ⟨.testMessage, [7]⟩ [9]).mpr ⟨[5, 0, 1, 7], rfl, rfl⟩
  exact ⟨q, hRead, hLeft⟩

end SpeedTest
