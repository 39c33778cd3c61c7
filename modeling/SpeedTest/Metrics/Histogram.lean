import SpeedTest.Number.Decimal

/-!
The distribution of measured rates, one histogram for each direction, and its text for whoever
collects metrics.
-/

namespace SpeedTest.Metrics

/-- The upper bounds of the first `n` buckets from the given one on, each twice the one before. -/
def doubling (n : Nat) (first : Binary64) : List Binary64 :=
  match n with
  | 0 => []
  | n + 1 => first :: doubling n (first.mul (.ofNat 2))

/-- The upper bounds of the buckets in megabits per second: sixteen from a tenth on. -/
def bounds : List Binary64 := doubling 16 (.ofRatio false 1 10)

/-- What has been observed in one direction. -/
structure Histogram where
  /-- For each bound, how many observations did not exceed it. -/
  below : List Nat
  sum : Binary64
  count : Nat
deriving Repr, DecidableEq

namespace Histogram

def empty : Histogram := ⟨bounds.map fun _ => 0, .zero, 0⟩

/-- Take in an observation. NaN does not stay below any bound. -/
def observe (x : Binary64) (h : Histogram) : Histogram :=
  ⟨List.zipWith (fun bound n => if x.le bound then n + 1 else n) bounds h.below, h.sum.add x,
    h.count + 1⟩

end Histogram

/-- The histograms of all directions that have been observed, by the order of their labels. -/
structure Registry where
  series : List (String × Histogram)
deriving Repr, DecidableEq

namespace Registry

def empty : Registry := ⟨[]⟩

/-- Take an observation into a list that is ordered by labels. -/
def insert (label : String) (x : Binary64) :
    List (String × Histogram) → List (String × Histogram)
  | [] => [(label, Histogram.empty.observe x)]
  | (l, h) :: rest =>
    if label = l then (l, h.observe x) :: rest
    else if label < l then (label, Histogram.empty.observe x) :: (l, h) :: rest
    else (l, h) :: insert label x rest

/-- Take in an observation. -/
def observe (label : String) (x : Binary64) (r : Registry) : Registry := ⟨insert label x r.series⟩

/-- The registry after observations, in order. -/
def ofObservations (l : List (String × Binary64)) : Registry :=
  l.foldl (fun r (label, x) => r.observe label x) empty

/-- How many families of metrics there are. A family without any series is none. -/
def families (r : Registry) : Nat := if r.series.isEmpty then 0 else 1

end Registry

/-! The text -/

def metricName : String := "ndt_test_rate_mbps"

def helpText : String := "Measured sub-test rate in megabits per second"

/-- The characters of a label inside its quotes. -/
def escape (label : String) : String :=
  String.ofList (label.toList.flatMap fun c =>
    if c = '\\' then ['\\', '\\']
    else if c = '"' then ['\\', '"']
    else if c = '\n' then ['\\', 'n']
    else [c])

/-- A line of the text: the part of the histogram, its labels, and a value. -/
def line (part labels value : String) : String :=
  metricName ++ part ++ "\x7b" ++ labels ++ "\x7d " ++ value ++ "\n"

/-- The label of a direction. -/
def directionLabel (label : String) : String := "direction=\"" ++ escape label ++ "\""

/-- The line of a bucket. -/
def bucketLine (label bound : String) (n : Nat) : String :=
  line "_bucket" (directionLabel label ++ ",le=\"" ++ bound ++ "\"") (toString n)

/-- The lines of a histogram. The last bucket has no bound and holds all observations. -/
def Histogram.render (label : String) (h : Histogram) : String :=
  String.join (List.zipWith (fun bound n => bucketLine label bound.shortest n) bounds h.below)
    ++ bucketLine label "+Inf" h.count
    ++ line "_sum" (directionLabel label) h.sum.shortest
    ++ line "_count" (directionLabel label) (toString h.count)

/-- The whole text, which is empty without observations. -/
def Registry.render (r : Registry) : String :=
  if r.series.isEmpty then ""
  else
    "# HELP " ++ metricName ++ " " ++ helpText ++ "\n"
      ++ "# TYPE " ++ metricName ++ " histogram\n"
      ++ String.join (r.series.map fun (label, h) => h.render label)

end SpeedTest.Metrics
