import SpeedTest.Action
import SpeedTest.Bytes
import SpeedTest.IoError

/-!
Byte streams between two parties.

A stream is given by what its peer does: the pieces in which bytes arrive, where reads fail, what
comes after the last piece, how much each write accepts, and which flushes and shutdowns fail. It
records every byte written and every flush and shutdown, whether these succeed or not.
-/

namespace SpeedTest

/-- What one read may meet. -/
inductive Arrival where
  /-- Bytes that arrive together. -/
  | chunk (bytes : Bytes)
  /-- One read fails here. The bytes behind it are not lost. -/
  | failure (cause : IoError)
deriving Repr, DecidableEq

/-- What reads meet when everything has arrived. -/
inductive Ending where
  /-- The peer has finished sending. -/
  | finished
  /-- The peer stays silent, and a read never completes. -/
  | silent
deriving Repr, DecidableEq

/-- A byte stream, seen from one of its ends. -/
structure Stream where
  arrivals : List Arrival
  ending : Ending
  /-- How many bytes writes still accept in all; `none` for no limit. -/
  room : Option Nat
  /-- The most bytes that the write with the given number accepts; `none` for no limit. -/
  grant : Nat → Option Nat
  /-- How a write fails that finds no room. -/
  writeFault : IoError
  /-- Whether and how the flush with the given number fails. -/
  flushFault : Nat → Option IoError
  /-- Whether and how the shutdown with the given number fails. -/
  shutdownFault : Nat → Option IoError
  writes : Nat
  /-- The bytes of each write, last write first. -/
  sent : List Bytes
  flushes : Nat
  shutdowns : Nat

/-- One read of at most `n` bytes takes what it can of the first piece. -/
def Arrival.take (n : Nat) (ending : Ending) : List Arrival → Outcome IoError Bytes × List Arrival
  | [] =>
    match ending with
    | .finished => (.done [], [])
    | .silent => (.pending, [])
  | .failure e :: rest => (.failed e, rest)
  | .chunk [] :: rest => take n ending rest
  | .chunk (b :: bs) :: rest =>
    let left := (b :: bs).drop n
    (.done ((b :: bs).take n), if left.isEmpty then rest else .chunk left :: rest)

/-- The bytes of all pieces, in order. -/
def Arrival.payload (l : List Arrival) : Bytes :=
  l.flatMap fun
    | .chunk bs => bs
    | .failure _ => []

/-- The bytes up to the first failure, and that failure. -/
def Arrival.untilFailure : List Arrival → Bytes × Option IoError
  | [] => ([], none)
  | .failure e :: _ => ([], some e)
  | .chunk bs :: rest => (bs ++ (untilFailure rest).1, (untilFailure rest).2)

/-- What is left behind the first failure. -/
def Arrival.behindFailure : List Arrival → List Arrival
  | [] => []
  | .failure _ :: rest => rest
  | .chunk _ :: rest => behindFailure rest

namespace Stream

/-- A stream on which every write, flush and shutdown succeeds. -/
def ofArrivals (arrivals : List Arrival) (ending : Ending) : Stream where
  arrivals
  ending
  room := none
  grant := fun _ => none
  writeFault := .nothingWritten
  flushFault := fun _ => none
  shutdownFault := fun _ => none
  writes := 0
  sent := []
  flushes := 0
  shutdowns := 0

/-- All bytes written so far. -/
def written (s : Stream) : Bytes := s.sent.reverse.flatten

/-- How many bytes are still to arrive. -/
def incoming (s : Stream) : Nat := (Arrival.payload s.arrivals).length

/-- Read at most `n` bytes. No bytes at all mean that the peer has finished, unless `n` is zero. -/
def read (n : Nat) : Action Stream IoError Bytes := fun s =>
  match Arrival.take n s.ending s.arrivals with
  | (outcome, rest) => (outcome, { s with arrivals := rest })

/-- The bytes that a single write of `bs` accepts. -/
def accepts (s : Stream) (bs : Bytes) : Bytes :=
  match s.room, s.grant s.writes with
  | none, none => bs
  | some r, none => bs.take r
  | none, some g => bs.take g
  | some r, some g => bs.take (min r g)

/-- Write once: how many bytes were accepted. -/
def write (bs : Bytes) : Action Stream IoError Nat := fun s =>
  if s.room = some 0 then (.failed s.writeFault, { s with writes := s.writes + 1 })
  else
    let taken := s.accepts bs
    (.done taken.length,
      { s with
        room := s.room.map (· - taken.length)
        writes := s.writes + 1
        sent := taken :: s.sent })

/-- Write everything, in as many writes as it takes. -/
def writeAll (bs : Bytes) : Action Stream IoError Unit := fun s =>
  if _h : bs = [] then (.done (), s)
  else
    match write bs s with
    | (.failed e, s') => (.failed e, s')
    | (.pending, s') => (.pending, s')
    | (.done n, s') =>
      if _h' : n = 0 then (.failed .nothingWritten, s') else writeAll (bs.drop n) s'
termination_by bs.length
decreasing_by
  have := List.length_pos_iff.mpr _h
  simp only [List.length_drop]; omega

def flush : Action Stream IoError Unit := fun s =>
  let s' := { s with flushes := s.flushes + 1 }
  match s.flushFault s.flushes with
  | none => (.done (), s')
  | some e => (.failed e, s')

def shutdown : Action Stream IoError Unit := fun s =>
  let s' := { s with shutdowns := s.shutdowns + 1 }
  match s.shutdownFault s.shutdowns with
  | none => (.done (), s')
  | some e => (.failed e, s')

/-- Read until the peer has finished. What was read before a failure is lost. -/
def readToEnd : Action Stream IoError Bytes := fun s =>
  match Arrival.untilFailure s.arrivals with
  | (_, some e) => (.failed e, { s with arrivals := Arrival.behindFailure s.arrivals })
  | (bs, none) =>
    match s.ending with
    | .finished => (.done bs, { s with arrivals := [] })
    | .silent => (.pending, { s with arrivals := [] })

end Stream

/-- Read exactly `need` bytes by repeated reads. What was read before a failure is lost. `got`
holds the pieces read so far, last first. -/
def readExactFrom {σ : Type} (read : Nat → Action σ IoError Bytes) (need : Nat)
    (got : List Bytes) : Action σ IoError Bytes := fun s =>
  if _h : need = 0 then (.done got.reverse.flatten, s)
  else
    match read need s with
    | (.failed e, s') => (.failed e, s')
    | (.pending, s') => (.pending, s')
    | (.done bs, s') =>
      if _h' : bs.length = 0 then (.failed .earlyEnd, s')
      else readExactFrom read (need - bs.length) (bs :: got) s'
termination_by need

/-- Read exactly `need` bytes by repeated reads. -/
def readExact {σ : Type} (read : Nat → Action σ IoError Bytes) (need : Nat) :
    Action σ IoError Bytes := readExactFrom read need []

end SpeedTest
