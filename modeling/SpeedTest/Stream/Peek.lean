import SpeedTest.Stream.Basic

/-!
Streams whose first bytes can be looked at before anybody reads them. Bytes that were looked at
stay in a buffer and are delivered by the reads that follow, before anything else of the stream.
-/

namespace SpeedTest

/-- A stream with a buffer of bytes that were looked at and not yet read. -/
structure PeekStream where
  inner : Stream
  buffered : Bytes

namespace PeekStream

/-- The most bytes that one read behind a look takes from the stream. -/
def pieceSize : Nat := 1024

def ofStream (s : Stream) : PeekStream := ⟨s, []⟩

/-- An operation on the stream itself. -/
def onInner {ε α : Type} (x : Action Stream ε α) : Action PeekStream ε α :=
  Action.focus PeekStream.inner (fun s p => { p with inner := s }) x

/-- Read from the stream until the buffer holds `n` bytes or the peer has finished. -/
def fill (n : Nat) : Action PeekStream IoError Unit := fun p =>
  if _h : n ≤ p.buffered.length then (.done (), p)
  else
    match p.inner.read pieceSize with
    | (.failed e, s) => (.failed e, { p with inner := s })
    | (.pending, s) => (.pending, { p with inner := s })
    | (.done bs, s) =>
      if _h' : bs.length = 0 then (.done (), { p with inner := s })
      else fill n ⟨s, p.buffered ++ bs⟩
termination_by p => n - p.buffered.length
decreasing_by
  simp only [List.length_append]; omega

/-- The first `n` bytes that a read would deliver, or fewer where the peer has finished. -/
def peek (n : Nat) : Action PeekStream IoError Bytes := fun p =>
  match fill n p with
  | (.done (), p') => (.done (p'.buffered.take n), p')
  | (.failed e, p') => (.failed e, p')
  | (.pending, p') => (.pending, p')

/-- Read at most `n` bytes, from the buffer as long as it holds any. -/
def read (n : Nat) : Action PeekStream IoError Bytes := fun p =>
  if p.buffered.isEmpty then onInner (Stream.read n) p
  else (.done (p.buffered.take n), { p with buffered := p.buffered.drop n })

def readExact (n : Nat) : Action PeekStream IoError Bytes := SpeedTest.readExact read n

/-- Read until the peer has finished. What was read before a failure is lost. -/
def readToEnd : Action PeekStream IoError Bytes := fun p =>
  match p.inner.readToEnd with
  | (.done bs, s) => (.done (p.buffered ++ bs), ⟨s, []⟩)
  | (.failed e, s) => (.failed e, ⟨s, []⟩)
  | (.pending, s) => (.pending, ⟨s, []⟩)

def writeAll (bs : Bytes) : Action PeekStream IoError Unit := onInner (Stream.writeAll bs)

def flush : Action PeekStream IoError Unit := onInner Stream.flush

def shutdown : Action PeekStream IoError Unit := onInner Stream.shutdown

end PeekStream

end SpeedTest
