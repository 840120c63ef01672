import Admission.Text.Invisible

/-!
# Texts quoted in messages

A text is quoted between double quotes, so that its extent is plain and all of it shows: a quote and
a backslash follow a backslash, line ends, tabs and the null character are written as letters, and
every other character that does not show is written by its number.
-/

namespace Admission.Text

/-- A character by its number, in lower-case hexadecimal. -/
def byNumber (c : Char) : List Char :=
  ['\\', 'u', '\x7b'] ++ Nat.toDigits 16 c.toNat ++ ['\x7d']

/-- A character between quotes. -/
def quotedChar (c : Char) : List Char :=
  if c = '"' then ['\\', '"']
  else if c = '\\' then ['\\', '\\']
  else if c = '\n' then ['\\', 'n']
  else if c = '\r' then ['\\', 'r']
  else if c = '\t' then ['\\', 't']
  else if c = '\x00' then ['\\', '0']
  else if isInvisible c then byNumber c
  else [c]

/-- A text between quotes. -/
def quoted (s : String) : String :=
  String.ofList ('"' :: s.toList.flatMap quotedChar ++ ['"'])

end Admission.Text
