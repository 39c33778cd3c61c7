import SpeedTest.Text.Printable

/-! Quoted texts: a text between double quotes on one line, as it stands in messages to people. -/

namespace SpeedTest.Text

/-- The hexadecimal digits of a number, in small letters. -/
def hexDigits (n : Nat) : List Char := Nat.toDigits 16 n

/-- One character inside quotes. Control characters with a short name take it, the quote and the
backslash are marked, and what cannot be shown or would merge with its neighbour is written by its
code point. -/
def quoteChar (c : Char) : List Char :=
  if c = '\x00' then ['\\', '0']
  else if c = '\t' then ['\\', 't']
  else if c = '\r' then ['\\', 'r']
  else if c = '\n' then ['\\', 'n']
  else if c = '\\' then ['\\', '\\']
  else if c = '"' then ['\\', '"']
  else if isExtending c || !isPrintable c then
    '\\' :: 'u' :: '\x7b' :: (hexDigits c.toNat ++ ['\x7d'])
  else [c]

def quotedChars (cs : List Char) : List Char := '"' :: (cs.flatMap quoteChar ++ ['"'])

def quoted (s : String) : String := String.ofList (quotedChars s.toList)

end SpeedTest.Text
