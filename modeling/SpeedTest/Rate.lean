import SpeedTest.Duration
import SpeedTest.Number.Rounding

/-! Transferred bytes and the rate of a transfer. -/

namespace SpeedTest

/-- A count of bytes, kept in 64 bits. -/
structure ByteCount where
  total : UInt64
deriving Repr, DecidableEq

namespace ByteCount

def zero : ByteCount := ⟨0⟩

/-- Add to the count, which wraps around at `2 ^ 64`. -/
def add (c : ByteCount) (n : Nat) : ByteCount := ⟨c.total + UInt64.ofNat n⟩

end ByteCount

/-- A duration in seconds, with one rounding for the seconds, one for the part of a second and one
for their sum. -/
def Duration.toBinary64 (d : Duration) : Binary64 :=
  (Binary64.ofNat d.secs).add ((Binary64.ofNat d.nanos).div (Binary64.ofNat nanosPerSecond))

/-- Kilobits per second for `bytes` moved in the given time, and zero for no time at all. -/
def rate (bytes : UInt64) (elapsed : Duration) : Binary64 :=
  let secs := elapsed.toBinary64
  if secs.isZero then .zero
  else ((Binary64.ofNat bytes.toNat).mul (Binary64.ofNat 8)).div (secs.mul (Binary64.ofNat 1000))

end SpeedTest
