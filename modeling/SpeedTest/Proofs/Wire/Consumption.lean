import Mathlib.Data.List.Basic
import SpeedTest.Proofs.Wire.Framing
import SpeedTest.Proofs.Stream.Conservation

/-! A frame that is read is taken off the stream whole: its encoding, and nothing behind it. -/

namespace SpeedTest

theorem Kind.byte_of_ofByte? {b : UInt8} {k : Kind} (h : ofByte? b = some k) : k.byte = b := by
  unfold ofByte? at h
  split at h <;> cases h
  all_goals
    rename_i hByte
    exact UInt8.toNat_inj.mp hByte.symm

theorem Bytes.ofNat_toNat_two (hi lo : UInt8) : ofNat 2 (toNat [hi, lo]) = [hi, lo] := by
  have hHigh := hi.toNat_lt
  have hLow := lo.toNat_lt
  simp only [ofNat, toNat, List.foldl_cons, List.foldl_nil, Nat.mul_zero, Nat.zero_add,
    Nat.shiftRight_eq_div_pow, List.cons.injEq, and_true, ← UInt8.toNat_inj, UInt8.toNat_ofNat']
  omega

theorem Bytes.toNat_two_le (hi lo : UInt8) : toNat [hi, lo] ≤ 65535 := by
  have hHigh := hi.toNat_lt
  have hLow := lo.toNat_lt
  simp only [toNat, List.foldl_cons, List.foldl_nil]
  omega

theorem Arrival.length_of_take {n : Nat} {ending : Ending} {l : List Arrival} {bs : Bytes}
    (h : (take n ending l).1 = .done bs) : bs.length ≤ n := by
  induction l with
  | nil => cases ending <;> cases h; exact Nat.zero_le n
  | cons a l ih =>
      cases a with
      | failure e => cases h
      | chunk piece =>
          cases piece with
          | nil => exact ih h
          | cons b piece =>
              cases h
              exact List.length_take_le n _

namespace PeekStream

variable {n : Nat} {p q : PeekStream} {bs : Bytes}

theorem length_of_read (h : (read n p).1 = .done bs) : bs.length ≤ n := by
  rw [read] at h
  split at h
  · exact Arrival.length_of_take h
  · cases h
    exact List.length_take_le n _

theorem length_of_readExactFrom (need : Nat) (got : List Bytes) (p : PeekStream)
    (h : (readExactFrom read need got p).1 = .done bs) :
    bs.length = got.reverse.flatten.length + need := by
  fun_induction readExactFrom read need got p with
  | case1 got p => cases h; rfl
  | case2 | case3 | case4 => cases h
  | case5 need got p hNeed piece q hRead hSome ih =>
      have hPiece : piece.length ≤ need := length_of_read (by rw [hRead])
      rw [ih h, List.reverse_cons, List.flatten_append, List.length_append, List.flatten_singleton]
      omega

/-- Bytes that were read exactly are those at the front. -/
theorem content_of_readExact (h : readExact n p = (.done bs, q)) :
    bs.length = n ∧ p.content = bs ++ q.content := by
  have hExact : readExactFrom read n [] p = (.done bs, q) := h
  obtain ⟨taken, hReads, hTaken⟩ := reads_readExactFrom n [] p
  rw [hExact] at hReads hTaken
  obtain rfl : bs = taken := hTaken bs rfl
  refine ⟨?_, hReads.content_eq⟩
  simpa using length_of_readExactFrom n [] p (by rw [hExact])

end PeekStream

/-- The encoding of a frame that was read stood at the front, and is all that was taken. -/
theorem Frame.content_of_readFrom {p q : PeekStream} {f : Frame}
    (h : readFrom PeekStream.read p = (.done f, q)) :
    ∃ bytes, f.encode = .ok bytes ∧ p.content = bytes ++ q.content := by
  cases hHead : SpeedTest.readExact PeekStream.read headerLength p with
  | mk r p' =>
      cases r with
      | failed e => simp [readFrom, Action.bind_apply, Action.mapError, hHead] at h
      | pending => simp [readFrom, Action.bind_apply, Action.mapError, hHead] at h
      | done head =>
          obtain ⟨hLength, hContent⟩ := PeekStream.content_of_readExact hHead
          obtain ⟨k, hi, lo, rfl⟩ := List.length_eq_three.mp hLength
          rw [readFrom_of_header hHead] at h
          cases hKind : Kind.ofByte? k with
          | none => simp [hKind] at h
          | some kind =>
              rw [hKind] at h
              dsimp only at h
              cases hBody : SpeedTest.readExact PeekStream.read (Bytes.toNat [hi, lo]) p' with
              | mk r p'' =>
                  rw [hBody] at h
                  cases r with
                  | failed e => cases h
                  | pending => cases h
                  | done body =>
                      obtain ⟨hLength', hContent'⟩ := PeekStream.content_of_readExact hBody
                      cases h
                      refine ⟨[k, hi, lo] ++ body, ?_, ?_⟩
                      · have hLe := Bytes.toNat_two_le hi lo
                        simp only [encode, maxBodyLength, hLength', hLe, if_true, header,
                          Kind.byte_of_ofByte? hKind, Bytes.ofNat_toNat_two]
                      · rw [hContent, hContent', List.append_assoc]

end SpeedTest
