import SpeedTest.Http.Head

/-!
What the fields of a request say about its body, as far as it can be wrong.

A body is sent in chunks, which must be the last of its codings and is unknown to the older version
of the protocol, or its length is given. Fields are judged in their order, and the first fault
decides.
-/

namespace SpeedTest.Http

/-- Why what a request says about its body is refused. -/
inductive BodyFault where
  /-- Codings that the version does not know, or a length that is no number or not the only one. -/
  | malformed
  /-- A length beyond all bounds. -/
  | tooLong
deriving Repr, DecidableEq

namespace Body

/-- The greatest length. -/
def maxLength : Nat := 0xFFFFFFFFFFFFFFFD

/-- The greatest number that is read as a length. -/
def maxNumber : Nat := 0xFFFFFFFFFFFFFFFF

/-- The number that a value writes with digits alone. -/
def number? (value : Bytes) : Option Nat :=
  if value.isEmpty || !value.all Bytes.isDigit then none
  else
    let n := value.foldl (fun n b => 10 * n + (b.toNat - 0x30)) 0
    if n ≤ maxNumber then some n else none

/-- Whether the last of the codings in a value is that of chunks. -/
def endsInChunks (value : Bytes) : Bool :=
  let coding := (value.reverse.takeWhile (· != 0x2C)).reverse
  value.all (fun b => b.toNat == 9 || (0x20 ≤ b.toNat && b.toNat ≤ 0x7E))
    && Bytes.sameLetters (trimEnd (coding.dropWhile isSpace)) (Bytes.ofAscii "chunked")

/-- What the fields before have said. -/
structure Said where
  /-- Whether a coding was named, and if so, whether the last one is that of chunks. -/
  chunked : Option Bool
  length : Option Nat
deriving Repr, DecidableEq

/-- Judge one more field. Once a coding is named, lengths do not matter. -/
def hear (version : Version) (said : Said) (f : Field) : Except BodyFault Said :=
  if Bytes.sameLetters f.name (Bytes.ofAscii "transfer-encoding") then
    if version = .http11 then .ok { said with chunked := some (endsInChunks f.value) }
    else .error .malformed
  else if said.chunked.isNone && Bytes.sameLetters f.name (Bytes.ofAscii "content-length") then
    match number? f.value with
    | none => .error .malformed
    | some n =>
      if said.length.any (· != n) then .error .malformed
      else if maxLength < n then .error .tooLong
      else .ok { said with length := some n }
  else .ok said

/-- The fault in what a request says about its body, if there is one. -/
def fault? (h : Head) : Option BodyFault :=
  match h.fields.foldlM (hear h.version) ⟨none, none⟩ with
  | .error fault => some fault
  | .ok said => if said.chunked = some false then some .malformed else none

end Body

end SpeedTest.Http
