import SpeedTest.Stream.Peek
import SpeedTest.Log

/-!
Two streams joined: what one party sends reaches the other, in both directions at once.

Each direction is copied on its own, in steps that may come in any order. Only when both directions
have ended are the two streams shut down and released, so that neither end goes away while data
still moves towards it.
-/

namespace SpeedTest

/-- How far the copying in one direction has come. `moved` counts the bytes that were written. -/
inductive Copy where
  /-- The next bytes are awaited. Some that were written may not be flushed yet. -/
  | reading (moved : Nat) (unflushed : Bool)
  /-- Bytes that were read are being written. -/
  | writing (left : Bytes) (moved : Nat)
  | flushing (moved : Nat)
  | ended (result : Except IoError Nat)

namespace Copy

/-- The most bytes that one read takes. -/
def bufferSize : Nat := 8192

/-- How copying fails when a write accepts nothing. -/
def stuck : IoError := .other "write zero byte into writer"

/-- The beginning of a copy. -/
def fresh : Copy := .reading 0 false

/-- The next step, if there is one: a copy that has ended has none, nor has one that waits for data
and has flushed what it wrote. -/
def step {σ : Type} (read : Nat → Action σ IoError Bytes) (c : Copy) (source : σ) (sink : Stream) :
    Option (Copy × σ × Stream) :=
  match c with
  | reading moved unflushed =>
    match read bufferSize source with
    | (.pending, _) =>
      if unflushed then
        match Stream.flush sink with
        | (.pending, _) => none
        | (.failed e, sink') => some (.ended (.error e), source, sink')
        | (.done (), sink') => some (.reading moved false, source, sink')
      else none
    | (.failed e, source') => some (.ended (.error e), source', sink)
    | (.done bs, source') =>
      some (if bs.isEmpty then .flushing moved else .writing bs moved, source', sink)
  | writing left moved =>
    match Stream.write left sink with
    | (.pending, _) => none
    | (.failed e, sink') => some (.ended (.error e), source, sink')
    | (.done n, sink') =>
      if n = 0 then some (.ended (.error stuck), source, sink')
      else if (left.drop n).isEmpty then some (.reading (moved + n) true, source, sink')
      else some (.writing (left.drop n) (moved + n), source, sink')
  | flushing moved =>
    match Stream.flush sink with
    | (.pending, _) => none
    | (.failed e, sink') => some (.ended (.error e), source, sink')
    | (.done (), sink') => some (.ended (.ok moved), source, sink')
  | ended _ => none

/-- A bound on the steps to come, when `pending` bytes are still to be read. -/
def work (pending : Nat) : Copy → Nat
  | reading _ unflushed => 3 * pending + 2 + unflushed.toNat
  | writing left _ => 3 * pending + left.length + 3
  | flushing _ => 1
  | ended _ => 0

/-- The result of a copy that has ended. -/
def result? : Copy → Option (Except IoError Nat)
  | ended r => some r
  | _ => none

/-- The bytes that a copy reports. One that failed reports none. -/
def reported : Except IoError Nat → Nat
  | .ok n => n
  | .error _ => 0

end Copy

namespace Splice

/-- What has become of the two streams. -/
inductive Stage where
  | open
  | clientShut
  | bothShut
  | released
deriving Repr, DecidableEq

/-- How many bytes a splice reports in each direction. -/
structure Stats where
  clientToTarget : Nat
  targetToClient : Nat
deriving Repr, DecidableEq

/-- Two joined streams. -/
structure State where
  client : PeekStream
  target : Stream
  /-- The copying from the client to the target. -/
  up : Copy
  /-- The copying from the target to the client. -/
  down : Copy
  stage : Stage
  clientDrops : Nat
  targetDrops : Nat
  stats : Option Stats
  /-- The log, last entry first. -/
  log : List Log.Entry

/-- Join two streams. -/
def start (client : PeekStream) (target : Stream) : State :=
  ⟨client, target, .fresh, .fresh, .open, 0, 0, none, []⟩

namespace State

/-- A step from the client to the target. -/
def stepUp (s : State) : Option State :=
  (s.up.step PeekStream.read s.client s.target).map fun (up, client, target) =>
    { s with up := up, client := client, target := target }

/-- A step from the target to the client. -/
def stepDown (s : State) : Option State :=
  (s.down.step Stream.read s.target s.client.inner).map fun (down, target, inner) =>
    { s with down := down, target := target, client := { s.client with inner := inner } }

/-- The entry for a direction that failed. -/
def failureEntry (direction : String) : Except IoError Nat → List Log.Entry
  | .ok _ => []
  | .error e =>
    [Log.Source.splice.debug ("Proxy " ++ direction ++ " copy ended with error: " ++ e.message)]

/-- The entry for a stream that could not be shut down. -/
def shutdownEntry (party : String) : Outcome IoError Unit → List Log.Entry
  | .failed e => [Log.Source.splice.debug ("Proxy " ++ party ++ " shutdown: " ++ e.message)]
  | _ => []

/-- The entry for a splice that has finished. -/
def finishedEntry (t : Stats) : Log.Entry :=
  Log.Source.splice.debug ("Proxy finished: " ++ toString t.clientToTarget ++ " bytes up, "
    ++ toString t.targetToClient ++ " bytes down")

/-- Add entries to the log, in order. -/
def tell (es : List Log.Entry) (s : State) : State := { s with log := es.reverse ++ s.log }

/-- The statistics, once both directions have ended. -/
def outcome? (s : State) : Option Stats :=
  match s.up.result?, s.down.result? with
  | some u, some d => some ⟨Copy.reported u, Copy.reported d⟩
  | _, _ => none

/-- The entries for the ends of both directions. -/
def endEntries (s : State) : List Log.Entry :=
  match s.up.result?, s.down.result? with
  | some u, some d => failureEntry "client->target" u ++ failureEntry "target->client" d
  | _, _ => []

/-- A step of the party that waits for both directions. -/
def stepJoin (s : State) : Option State :=
  s.outcome?.bind fun stats =>
    match s.stage with
    | .open =>
      let (r, inner) := Stream.shutdown s.client.inner
      some (tell (s.endEntries ++ shutdownEntry "client" r)
        { s with client := { s.client with inner := inner }, stage := .clientShut })
    | .clientShut =>
      let (r, target) := Stream.shutdown s.target
      some (tell (shutdownEntry "target" r) { s with target := target, stage := .bothShut })
    | .bothShut =>
      some (tell [finishedEntry stats]
        { s with
          stage := .released
          clientDrops := s.clientDrops + 1
          targetDrops := s.targetDrops + 1
          stats := some stats })
    | .released => none

/-- The steps in which two joined streams may proceed, in any order. -/
inductive Step : State → State → Prop where
  | up {s t : State} (h : s.stepUp = some t) : Step s t
  | down {s t : State} (h : s.stepDown = some t) : Step s t
  | join {s t : State} (h : s.stepJoin = some t) : Step s t

/-- One of the possible steps. -/
def next? (s : State) : Option State :=
  match s.stepUp with
  | some t => some t
  | none =>
    match s.stepDown with
    | some t => some t
    | none => s.stepJoin

/-- A number for the steps that remain of the party that waits. -/
def Stage.left : Stage → Nat
  | .open => 3
  | .clientShut => 2
  | .bothShut => 1
  | .released => 0

/-- A bound on the steps to come. -/
def work (s : State) : Nat :=
  s.up.work (s.client.buffered.length + s.client.inner.incoming)
    + s.down.work s.target.incoming + Stage.left s.stage

end State

/-- Proceed for at most the given number of steps. -/
def proceed (steps : Nat) (s : State) : State :=
  match steps with
  | 0 => s
  | n + 1 =>
    match s.next? with
    | none => s
    | some t => proceed n t

/-- Proceed until nothing moves any more. -/
def run (s : State) : State := proceed s.work s

end Splice

end SpeedTest
