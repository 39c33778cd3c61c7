import SpeedTest.Proofs.Number.Integer
import SpeedTest.Session.Selection

/-! What a client asks for, bit by bit. A selection that was read from a login is a signed integer
of 64 bits, and its bits are those of the two's complement, whether or not it is negative. -/

namespace SpeedTest

/-- Nothing outside 64 bits is read. -/
theorem readInt64_range {cs : List Char} {v : Int} (h : readInt64 cs = .ok v) :
    -9223372036854775808 ≤ v ∧ v ≤ 9223372036854775807 := (readInt64_eq_ok_iff.mp h).2

/-- Reading a number loses no bits: it is the 64-bit integer that the client has written. -/
theorem toInt_ofInt_of_readInt64 {cs : List Char} {v : Int} (h : readInt64 cs = .ok v) :
    (Int64.ofInt v).toInt = v := by
  obtain ⟨hLow, hHigh⟩ := readInt64_range h
  exact Int64.toInt_ofInt_of_le (by simpa using hLow) (by simp only [Int.reducePow]; omega)

namespace Selection

/-- A shift by `i` brings the bit with number `i` of the two's complement to the end. -/
theorem hasBit_eq_getLsbD (bits : Int64) {i : Nat} (hi : i < 64) :
    (⟨bits.toInt⟩ : Selection).hasBit i = bits.toBitVec.getLsbD i := by
  have hParity (m : Int) : (BitVec.ofInt 64 m).getLsbD 0 = decide (m % 2 = 1) := by
    simp only [BitVec.getLsbD, BitVec.toNat_ofInt, Nat.testBit_zero, decide_eq_decide]
    omega
  have hShift := BitVec.getLsbD_sshiftRight (x := bits.toBitVec) (s := i) (i := 0)
  rw [BitVec.sshiftRight, Int64.toInt_toBitVec, hParity] at hShift
  simpa [hi, hasBit] using hShift

/-- A mask of one bit picks that bit out. -/
theorem and_twoPow_ne_zero_iff (x : Int64) {i : Nat} (hi : i < 64) :
    x &&& Int64.ofBitVec (BitVec.twoPow 64 i) ≠ 0 ↔ x.toBitVec.getLsbD i = true := by
  rw [ne_eq, ← Int64.toBitVec_inj, Int64.toBitVec_and, Int64.toBitVec_ofBitVec, BitVec.and_twoPow]
  split
  · rename_i h
    refine iff_of_true (fun hZero => ?_) h
    have hBit := congrArg (fun y => y.getLsbD i) hZero
    simp [hi] at hBit
  · rename_i h
    simp [h]

theorem hasBit_iff (bits : Int64) {i : Nat} (hi : i < 64) :
    (⟨bits.toInt⟩ : Selection).hasBit i = true ↔
      bits &&& Int64.ofBitVec (BitVec.twoPow 64 i) ≠ 0 := by
  rw [hasBit_eq_getLsbD bits hi, and_twoPow_ne_zero_iff _ hi]

/-- The tests of a request, by the masks of their codes. The upload comes first. -/
def testsOfMask (bits : Int64) : List Test :=
  (if bits &&& 2 ≠ 0 then [.upload] else []) ++ (if bits &&& 4 ≠ 0 then [.download] else [])

theorem plan_eq_testsOfMask (bits : Int64) :
    (⟨bits.toInt⟩ : Selection).plan = testsOfMask bits := by
  have hUpload : (⟨bits.toInt⟩ : Selection).hasBit Test.upload.bit = true ↔ bits &&& 2 ≠ 0 :=
    hasBit_iff bits (i := 1) (by decide)
  have hDownload : (⟨bits.toInt⟩ : Selection).hasBit Test.download.bit = true ↔ bits &&& 4 ≠ 0 :=
    hasBit_iff bits (i := 2) (by decide)
  simp only [plan, testsOfMask, ← hUpload, ← hDownload, List.filter_cons, List.filter_nil]
  split <;> split <;> simp_all

theorem hasStatus_iff (bits : Int64) :
    (⟨bits.toInt⟩ : Selection).hasStatus = true ↔ bits &&& 16 ≠ 0 :=
  hasBit_iff bits (i := 4) (by decide)

/-- The field of a login is read as the integer that it spells, if that fits into 64 bits: digits
from the first character to the last, perhaps behind a single sign. Any other text is refused, and
the failure repeats it. Every integer of 64 bits is read from its own decimal text. -/
theorem parse_reads_spelled (s : String) :
    (∀ v, parse s = .ok ⟨v⟩ ↔
      SpellsInt s.toList v ∧ -9223372036854775808 ≤ v ∧ v ≤ 9223372036854775807) ∧
    ((∀ v, SpellsInt s.toList v → ¬(-9223372036854775808 ≤ v ∧ v ≤ 9223372036854775807)) →
      ∃ fault, parse s = .error (.parse s fault)) ∧
    ∀ bits : Int64, parse (toString bits.toInt) = .ok ⟨bits.toInt⟩ := by
  have hOk (s : String) (v : Int) : parse s = .ok ⟨v⟩ ↔
      SpellsInt s.toList v ∧ -9223372036854775808 ≤ v ∧ v ≤ 9223372036854775807 := by
    rw [← readInt64_eq_ok_iff, parse]
    cases readInt64 s.toList <;> simp
  refine ⟨hOk s, fun hNone => ?_, fun bits => ?_⟩
  · cases hParse : parse s with
    | ok selection =>
        obtain ⟨hSpells, hRange⟩ := (hOk s selection.bits).mp hParse
        exact absurd hRange (hNone _ hSpells)
    | error e =>
        unfold parse at hParse
        split at hParse
        · cases hParse
        · rename_i fault _
          cases hParse
          exact ⟨fault, rfl⟩
  · rw [hOk]
    have hLow := bits.le_toInt
    have hHigh := bits.toInt_lt
    exact ⟨spellsInt_toString _, by omega, by omega⟩

end Selection

end SpeedTest
