import SpeedTest.Splice

/-!
Splices over streams that keep their callers waiting.

Flushes and writes of a stream in memory answer at once, and its reads wait only where nothing will
ever come. Other streams answer late, and a copy makes use of the time: one that waits for bytes
flushes what it has written, and one that waits for room reads on into the rest of its buffer. What
it does then depends on how long it waits, so that a direction may proceed in more than one way.
A call that has not been answered yet is a direction that takes no step.
-/

namespace SpeedTest

namespace Copy

/-- What a copy may have to wait for. -/
structure Delays where
  /-- A read may find no bytes yet although some will come. -/
  lateReads : Bool
  /-- A write may find no room yet although there will be some. -/
  fullSink : Bool
deriving Repr, DecidableEq

/-- Nothing has to be waited for. -/
def Delays.none : Delays := ⟨false, false⟩

/-- What a copy does while it waits. -/
inductive Waits {σ : Type} (delays : Delays) (read : Nat → Action σ IoError Bytes) :
    Copy → σ → Stream → Copy → σ → Stream → Prop
  | settled {moved : Nat} {source : σ} {sink sink' : Stream} (hLate : delays.lateReads)
      (hFlush : Stream.flush sink = (.done (), sink')) :
      Waits delays read (.reading moved true) source sink (.reading moved false) source sink'
  | unsettled {moved : Nat} {source : σ} {sink sink' : Stream} {e : IoError}
      (hLate : delays.lateReads) (hFlush : Stream.flush sink = (.failed e, sink')) :
      Waits delays read (.reading moved true) source sink (.ended (.error e)) source sink'
  | toppedUp {left : Bytes} {moved n : Nat} {source source' : σ} {sink : Stream} {bs : Bytes}
      (hFull : delays.fullSink) (hSpace : 0 < n) (hFits : left.length + n ≤ bufferSize)
      (hRead : read n source = (.done bs, source')) (hBytes : bs ≠ []) :
      Waits delays read (.writing left moved) source sink (.writing (left ++ bs) moved) source' sink
  /-- The bytes that were waiting for room are lost. -/
  | broken {left : Bytes} {moved n : Nat} {source source' : σ} {sink : Stream} {e : IoError}
      (hFull : delays.fullSink) (hSpace : 0 < n) (hFits : left.length + n ≤ bufferSize)
      (hRead : read n source = (.failed e, source')) :
      Waits delays read (.writing left moved) source sink (.ended (.error e)) source' sink

end Copy

namespace Splice.State

/-- The ways in which two joined streams may proceed, in any order, when each direction may be kept
waiting. -/
inductive Turn (upDelays downDelays : Copy.Delays) : State → State → Prop
  | step {s t : State} (h : Step s t) : Turn upDelays downDelays s t
  | waitUp {s : State} {up : Copy} {client : PeekStream} {target : Stream}
      (h : Copy.Waits upDelays PeekStream.read s.up s.client s.target up client target) :
      Turn upDelays downDelays s { s with up := up, client := client, target := target }
  | waitDown {s : State} {down : Copy} {target inner : Stream}
      (h : Copy.Waits downDelays Stream.read s.down s.target s.client.inner down target inner) :
      Turn upDelays downDelays s
        { s with down := down, target := target, client := { s.client with inner := inner } }

end Splice.State

end SpeedTest
