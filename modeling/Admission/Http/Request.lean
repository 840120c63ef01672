import Admission.Http.Target
import Admission.Text.Blank

/-!
# Requests

A request has a method, a path, headers and a body.  Header names are kept in lower case, and of
several headers of one name the first counts.
-/

namespace Admission.Http

open Admission.Text

/-- A character of a token, as methods and header names are. -/
def isTokenChar (c : Char) : Bool :=
  c.isAlphanum ||
    ['!', '#', '$', '%', '&', '\'', '*', '+', '-', '.', '^', '_', '\x60', '|', '~'].contains c

/-- A token has at least one character. -/
def isToken (s : String) : Bool := !s.isEmpty && s.toList.all isTokenChar

/-- Header names have at most this many characters. -/
def maxNameLength : Nat := 65535

/-- A byte that may stand in the value of a header. -/
def isValueByte (b : UInt8) : Bool := b == 0x09 || (0x20 ≤ b && b != 0x7F)

/-- A header. -/
structure Header where
  name : String
  value : List UInt8
  deriving DecidableEq, Repr

/-- The header with a name and a value, if there is one. -/
def Header.ofParts? (name : String) (value : List UInt8) : Option Header :=
  if isToken name && name.length ≤ maxNameLength && value.all isValueByte then
    some ⟨asciiLower name, value⟩
  else none

/-- A request. -/
structure Request where
  method : String
  path : List UInt8
  headers : List Header
  body : List UInt8
  deriving DecidableEq, Repr

namespace Request

/-- The request with the given parts, if there is one. -/
def ofParts? (method target : String) (headers : List (String × List UInt8)) (body : List UInt8) :
    Option Request := do
  if isToken method then
    let path ← targetPath? target
    let headers ← headers.mapM fun (name, value) => Header.ofParts? name value
    return ⟨method, path, headers, body⟩
  else none

/-- The value of the first header of a name in lower case. -/
def header? (r : Request) (name : String) : Option (List UInt8) :=
  (r.headers.find? fun h => h.name == name).map Header.value

end Request

/-- A byte of a header value that is ASCII text. -/
def isAsciiByte (b : UInt8) : Bool := b == 0x09 || (0x20 ≤ b && b ≤ 0x7E)

/-- The characters of a header value that is ASCII text. -/
def asciiChars? (value : List UInt8) : Option (List Char) :=
  if value.all isAsciiByte then some (value.map fun b => Char.ofNat b.toNat) else none

end Admission.Http
