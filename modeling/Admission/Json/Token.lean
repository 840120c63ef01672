import Admission.Json.Numeral
import Admission.Text.Bytes

/-!
# Tokens of JSON text

The text of a string token may be missing: a string that holds half a surrogate pair, or bytes that
are no characters, is sound as a token but denotes no text.  The token `fault` stands for a place
where no token begins or a token breaks off; none follows it.

A string is written with `\"`, `\\`, `\b`, `\f`, `\n`, `\r` and `\t` for these characters, with
`\u00xx` for the other control characters, and with all else as it stands.
-/

namespace Admission.Json

open Admission.Text

/-- A token. -/
inductive Token where
  | openObject
  | closeObject
  | openArray
  | closeArray
  | colon
  | comma
  | null
  | bool (b : Bool)
  | number (x : Numeral)
  | string (text : Option String)
  | fault
  deriving DecidableEq, Repr

/-- The lower-case hexadecimal digit of a value below sixteen. -/
def lowerHexDigit (n : Nat) : Char := Nat.digitChar n

/-- A character inside a string. -/
def escaped (c : Char) : List Char :=
  if c = '"' then ['\\', '"']
  else if c = '\\' then ['\\', '\\']
  else if c = '\x08' then ['\\', 'b']
  else if c = '\x0c' then ['\\', 'f']
  else if c = '\n' then ['\\', 'n']
  else if c = '\r' then ['\\', 'r']
  else if c = '\t' then ['\\', 't']
  else if c.toNat < 32 then
    ['\\', 'u', '0', '0', lowerHexDigit (c.toNat / 16), lowerHexDigit (c.toNat % 16)]
  else [c]

/-- The written form of a text. -/
def stringChars (s : String) : List Char := '"' :: s.toList.flatMap escaped ++ ['"']

/-- The written form of a token.  A string without text is written as half a surrogate pair, and
nothing is written for a fault. -/
def Token.chars : Token → List Char
  | .openObject => ['\x7b']
  | .closeObject => ['\x7d']
  | .openArray => ['[']
  | .closeArray => [']']
  | .colon => [':']
  | .comma => [',']
  | .null => ['n', 'u', 'l', 'l']
  | .bool true => ['t', 'r', 'u', 'e']
  | .bool false => ['f', 'a', 'l', 's', 'e']
  | .number x => x.chars
  | .string (some s) => stringChars s
  | .string none => ['"', '\\', 'u', 'd', '8', '0', '0', '"']
  | .fault => []

end Admission.Json
