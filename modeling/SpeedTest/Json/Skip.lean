import SpeedTest.Json.Text

/-!
Passing over a JSON value of any kind and any depth.

The containers around the present place are kept on a list, so that nesting is limited by the text
alone: `skip mode outer input` passes over the rest of the outermost value when the containers
`outer` are still open, innermost first.
-/

namespace SpeedTest.Json

def isBlank (b : UInt8) : Bool := b = 0x20 || b = 0x0A || b = 0x09 || b = 0x0D

/-- The text behind leading blanks. -/
def skipBlank (input : Bytes) : Bytes := input.dropWhile isBlank

theorem skipBlank_length_le (input : Bytes) : (skipBlank input).length ≤ input.length :=
  (List.dropWhile_sublist _).length_le

/-- Pass over the letters of a name. -/
def skipIdent : Bytes → Bytes → Except Fault Bytes
  | [], input => .ok input
  | _ :: _, [] => faultAfter .endInValue []
  | c :: name, b :: rest => if b = c then skipIdent name rest else faultAfter .expectedIdent rest

theorem skipIdent_length {name input rest : Bytes} (h : skipIdent name input = .ok rest) :
    rest.length ≤ input.length := by
  fun_induction skipIdent name input with
  | case1 => cases h; exact Nat.le_refl _
  | case2 => simp [faultAfter] at h
  | case3 _ _ _ ih =>
    have := ih h
    simp only [List.length_cons]; omega
  | case4 => simp [faultAfter] at h

def skipDigits (input : Bytes) : Bytes := input.dropWhile Bytes.isDigit

theorem skipDigits_length_le (input : Bytes) : (skipDigits input).length ≤ input.length :=
  (List.dropWhile_sublist _).length_le

/-- Whether the next byte is a digit. -/
def atDigit : Bytes → Bool
  | [] => false
  | b :: _ => Bytes.isDigit b

/-- Whether the next byte is the letter of an exponent. -/
def atExponent : Bytes → Bool
  | [] => false
  | b :: _ => b = 0x65 || b = 0x45

/-- Pass over the sign of an exponent, if there is one. -/
def skipSign : Bytes → Bytes
  | [] => []
  | b :: rest => if b = 0x2B ∨ b = 0x2D then rest else b :: rest

theorem skipSign_length_le (input : Bytes) : (skipSign input).length ≤ input.length := by
  unfold skipSign
  split
  · simp
  · split <;> simp

/-- Pass over an exponent behind its letter. -/
def skipExponent (input : Bytes) : Except Fault Bytes :=
  match skipSign input with
  | [] => faultAfter .invalidNumber []
  | b :: rest => if Bytes.isDigit b then .ok (skipDigits rest) else faultAfter .invalidNumber rest

theorem skipExponent_length {input rest : Bytes} (h : skipExponent input = .ok rest) :
    rest.length ≤ input.length := by
  unfold skipExponent at h
  split at h
  · simp [faultAfter] at h
  · rename_i b tail hSign
    split at h
    · cases h
      have hTail := skipDigits_length_le tail
      have hLe := skipSign_length_le input
      rw [hSign] at hLe
      simp only [List.length_cons] at hLe; omega
    · simp [faultAfter] at h

/-- Pass over the exponent of a number, if there is one. -/
def skipExponentPart (input : Bytes) : Except Fault Bytes :=
  if atExponent input then skipExponent input.tail else .ok input

/-- Pass over what may follow the integer part of a number. -/
def skipFraction : Bytes → Except Fault Bytes
  | [] => .ok []
  | b :: rest =>
    if b = 0x2E then
      if atDigit rest then skipExponentPart (skipDigits rest) else faultAt .invalidNumber rest
    else skipExponentPart (b :: rest)

/-- Pass over a number without its sign. A leading zero stands alone. -/
def skipNumber : Bytes → Except Fault Bytes
  | [] => faultAfter .invalidNumber []
  | b :: rest =>
    if b = 0x30 then
      if atDigit rest then faultAt .invalidNumber rest else skipFraction rest
    else if Bytes.isDigit b then skipFraction (skipDigits rest)
    else faultAfter .invalidNumber rest

theorem skipExponentPart_length {input rest : Bytes} (h : skipExponentPart input = .ok rest) :
    rest.length ≤ input.length := by
  unfold skipExponentPart at h
  split at h
  · have := skipExponent_length h
    simp only [List.length_tail] at this; omega
  · cases h; exact Nat.le_refl _

theorem skipFraction_length {input rest : Bytes} (h : skipFraction input = .ok rest) :
    rest.length ≤ input.length := by
  unfold skipFraction at h
  split at h
  · cases h; exact Nat.le_refl _
  · rename_i tail
    split at h
    · split at h
      · have := skipExponentPart_length h
        have := skipDigits_length_le tail
        simp only [List.length_cons]; omega
      · simp [faultAt] at h
    · exact skipExponentPart_length h

theorem skipNumber_length {input rest : Bytes} (h : skipNumber input = .ok rest) :
    rest.length < input.length := by
  unfold skipNumber at h
  split at h
  · simp [faultAfter] at h
  · rename_i tail
    have := skipDigits_length_le tail
    split at h
    · split at h
      · simp [faultAt] at h
      · have := skipFraction_length h
        simp only [List.length_cons]; omega
    · split at h
      · have := skipFraction_length h
        simp only [List.length_cons]; omega
      · simp [faultAfter] at h

/-- A value that holds no other values: a name, a number or a text. `none` at an opening bracket
and at anything that starts no value. -/
def skipScalar? : Bytes → Option (Except Fault Bytes)
  | [] => none
  | b :: rest =>
    if b = 0x6E then some (skipIdent [0x75, 0x6C, 0x6C] rest)
    else if b = 0x74 then some (skipIdent [0x72, 0x75, 0x65] rest)
    else if b = 0x66 then some (skipIdent [0x61, 0x6C, 0x73, 0x65] rest)
    else if b = 0x2D then some (skipNumber rest)
    else if Bytes.isDigit b then some (skipNumber (b :: rest))
    else if b = 0x22 then some (skipText rest)
    else none

theorem skipScalar?_length {input rest : Bytes} (h : skipScalar? input = some (.ok rest)) :
    rest.length < input.length := by
  unfold skipScalar? at h
  split at h
  · simp at h
  · rename_i b tail
    have hLt : ∀ n : Nat, n ≤ tail.length → n < (b :: tail).length := by
      intro n hn
      simp only [List.length_cons]; omega
    repeat' split at h
    · exact hLt _ (skipIdent_length (Option.some.inj h))
    · exact hLt _ (skipIdent_length (Option.some.inj h))
    · exact hLt _ (skipIdent_length (Option.some.inj h))
    · exact hLt _ (Nat.le_of_lt (skipNumber_length (Option.some.inj h)))
    · exact skipNumber_length (Option.some.inj h)
    · exact hLt _ (Nat.le_of_lt (skipText_length (Option.some.inj h)))
    · simp at h

/-- A container of values. -/
inductive Container where
  | list
  | object
deriving Repr, DecidableEq

/-- The bracket that closes a container. -/
def Container.close : Container → UInt8
  | list => 0x5D
  | object => 0x7D

/-- The fault of a text that ends inside a container. -/
def Container.endCause : Container → Cause
  | list => .endInList
  | object => .endInObject

/-- The fault of a value that is followed by neither a comma nor the end of its container. -/
def Container.expectedEnd : Container → Cause
  | list => .expectedListEnd
  | object => .expectedObjectEnd

/-- What comes next while a value is passed over. -/
inductive Mode where
  /-- A value. -/
  | value
  /-- The end of the innermost container, or the first thing in it. -/
  | opened
  /-- A comma or the end of the innermost container. -/
  | closed
  /-- The key of a member of the innermost container, which is an object. -/
  | key
deriving Repr, DecidableEq

/-- The mode in which the next thing in a container is read. -/
def Container.member : Container → Mode
  | list => .value
  | object => .key

/-- How much a mode can still do before it reads a byte. -/
def Mode.rank : Mode → Nat
  | opened => 1
  | _ => 0

/-- Pass over the rest of the outermost value. -/
def skip (mode : Mode) (outer : List Container) (input : Bytes) : Except Fault Bytes :=
  match mode, outer with
  | .value, outer =>
    match _h : skipBlank input with
    | [] => faultAt .endInValue []
    | b :: rest =>
      match _h' : skipScalar? (b :: rest) with
      | some (.error f) => .error f
      | some (.ok rest') => skip .closed outer rest'
      | none =>
        if b = 0x5B then skip .opened (.list :: outer) rest
        else if b = 0x7B then skip .opened (.object :: outer) rest
        else faultAt .expectedValue (b :: rest)
  | .opened, [] => .ok input
  | .opened, c :: outer =>
    match _h : skipBlank input with
    | [] => faultAt c.endCause []
    | b :: rest =>
      if b = c.close then skip .closed outer rest else skip c.member (c :: outer) (b :: rest)
  | .closed, [] => .ok input
  | .closed, c :: outer =>
    match _h : skipBlank input with
    | [] => faultAt c.endCause []
    | b :: rest =>
      if b = 0x2C then skip c.member (c :: outer) rest
      else if b = c.close then skip .closed outer rest
      else faultAt c.expectedEnd (b :: rest)
  | .key, outer =>
    match _h : skipBlank input with
    | [] => faultAt .endInObject []
    | b :: rest =>
      if b = 0x22 then
        match _h' : skipText rest with
        | .error f => .error f
        | .ok rest' =>
          match _h'' : skipBlank rest' with
          | [] => faultAt .endInObject []
          | d :: rest'' =>
            if d = 0x3A then skip .value outer rest'' else faultAt .expectedColon (d :: rest'')
      else faultAt .keyNotText (b :: rest)
termination_by (input.length, mode.rank)
decreasing_by
  all_goals
    have hLe := skipBlank_length_le input
    rw [_h] at hLe
    simp only [List.length_cons] at hLe
    simp only [Prod.lex_def, Mode.rank]
  · have := skipScalar?_length _h'
    simp only [List.length_cons] at this; omega
  · omega
  · omega
  · omega
  · cases c <;> simp only [Container.member, List.length_cons] <;> omega
  · cases c <;> simp only [Container.member] <;> omega
  · omega
  · have := skipText_length _h'
    have hLe' := skipBlank_length_le rest'
    rw [_h''] at hLe'
    simp only [List.length_cons] at hLe'; omega

/-- Pass over one value. -/
def skipValue (input : Bytes) : Except Fault Bytes := skip .value [] input

end SpeedTest.Json
