import SpeedTest.Session.Selection
import SpeedTest.Number.Decimal

/-! The rates that a session reports. -/

namespace SpeedTest

/-- The rates of a session in kilobits per second. A test that did not run or failed has rate
zero. -/
structure SessionResult where
  upload : Binary64
  download : Binary64
deriving Repr, DecidableEq

namespace SessionResult

def empty : SessionResult := ⟨.zero, .zero⟩

/-- Enter the rate of a test. -/
def record (r : SessionResult) (t : Test) (rate : Binary64) : SessionResult :=
  match t with
  | .upload => { r with upload := rate }
  | .download => { r with download := rate }

/-- The places of a rate in a report. -/
def ratePlaces : Nat := 4

/-- Both rates in a sentence, each with four places. -/
def phrase (r : SessionResult) : String :=
  "uploaded at " ++ r.upload.fixed ratePlaces ++ " and downloaded at "
    ++ r.download.fixed ratePlaces

/-- The line that is sent to the client. -/
def summary (r : SessionResult) : String := "You " ++ r.phrase

end SessionResult

end SpeedTest
