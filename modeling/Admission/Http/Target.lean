import Admission.Text.Bytes

/-!
# Request targets

What a request is for is said by its target.  A target is a path and query that start with a slash,
an asterisk, the name of a host with nothing after it, or a full address, `http://host/path`.  A
fragment, from the first `#` on, does not count.

Only the path matters to routing; a target without one has the empty path.
-/

namespace Admission.Http

open Admission.Text

/-- Targets have at most this many bytes. -/
def maxTargetLength : Nat := 65534

/-- A byte that may stand in a path as it is.  Quotes and braces are let through, because callers
do send them. -/
def isPathByte (b : UInt8) : Bool :=
  b == 0x21 || b == 0x22 || (0x24 ≤ b && b ≤ 0x3B) || b == 0x3D || (0x40 ≤ b && b ≤ 0x5F) ||
    (0x61 ≤ b && b != 0x7F)

/-- A byte that may stand in a query as it is. -/
def isQueryByte (b : UInt8) : Bool :=
  b == 0x21 || (0x24 ≤ b && b ≤ 0x3B) || b == 0x3D || (0x3F ≤ b && b != 0x7F)

/-- A path with what follows it; only the path is kept, and an empty one is a slash. -/
def readPath? (bs : List UInt8) : Option (List UInt8) :=
  let target := bs.takeWhile (· != 0x23)
  let path := target.takeWhile (· != 0x3F)
  let query := (target.drop path.length).drop 1
  if path.all isPathByte && query.all isQueryByte then
    some (if path.isEmpty then [0x2F] else path)
  else none

/-- A byte that may stand in the name of a scheme. -/
def isSchemeByte (b : UInt8) : Bool :=
  (0x30 ≤ b && b ≤ 0x39) || (0x41 ≤ b && b ≤ 0x5A) || (0x61 ≤ b && b ≤ 0x7A) || b == 0x2B ||
    b == 0x2D || b == 0x2E

/-- What follows a scheme and `://`, and the length of the scheme; `none` if there is no scheme. -/
def splitScheme? (bs : List UInt8) : Option (Nat × List UInt8) :=
  let scheme := bs.takeWhile isSchemeByte
  match bs.drop scheme.length with
  | 0x3A :: 0x2F :: 0x2F :: rest => some (scheme.length, rest)
  | _ => none

/-- A byte that may stand in the name of a host or before it, a percent sign apart. -/
def isAuthorityByte (b : UInt8) : Bool :=
  b == 0x21 || b == 0x24 || (0x26 ≤ b && b ≤ 0x2E) || (0x30 ≤ b && b ≤ 0x3B) || b == 0x3D ||
    (0x40 ≤ b && b ≤ 0x5B) || b == 0x5D || b == 0x5F || (0x61 ≤ b && b ≤ 0x7A) || b == 0x7E

/-- What was seen of an authority so far: the colons and percent signs that the host has, whether
brackets were opened and closed, and whether the last byte was an at sign. -/
structure AuthorityScan where
  colons : Nat := 0
  opened : Bool := false
  closed : Bool := false
  percent : Bool := false
  endsInAt : Bool := false
  deriving DecidableEq, Repr

/-- Look at the next byte of an authority.  An at sign ends what stands before the host, and a
closing bracket ends an address, so their colons and percent signs no longer count. -/
def AuthorityScan.next? (s : AuthorityScan) (b : UInt8) : Option AuthorityScan :=
  let s := { s with endsInAt := false }
  if b == 0x3A then
    if 8 ≤ s.colons then none else some { s with colons := s.colons + 1 }
  else if b == 0x5B then
    if s.percent || s.opened then none else some { s with opened := true }
  else if b == 0x5D then
    if !s.opened || s.closed then none
    else some { s with closed := true, colons := 0, percent := false }
  else if b == 0x40 then some { s with colons := 0, percent := false, endsInAt := true }
  else if b == 0x25 then some { s with percent := true }
  else if isAuthorityByte b then some s
  else none

/-- An authority that may end where it was looked at. -/
def AuthorityScan.isFinal (s : AuthorityScan) : Bool :=
  s.opened == s.closed && s.colons ≤ 1 && !s.endsInAt && !s.percent

/-- A byte that ends an authority. -/
def endsAuthority (b : UInt8) : Bool := b == 0x2F || b == 0x3F || b == 0x23

/-- An authority, and what follows it. -/
def splitAuthority? (bs : List UInt8) : Option (List UInt8 × List UInt8) :=
  let authority := bs.takeWhile fun b => !endsAuthority b
  match authority.foldlM AuthorityScan.next? {} with
  | some s => if s.isFinal then some (authority, bs.drop authority.length) else none
  | none => none

/-- The path of a target, if it is one. -/
def targetPath? (target : String) : Option (List UInt8) :=
  let bs := utf8 target
  if maxTargetLength < bs.length then none
  else
    match bs with
    | [] => none
    | [0x2A] => some [0x2A]
    | 0x2F :: _ => readPath? bs
    | _ =>
      match splitScheme? bs with
      | none =>
        match splitAuthority? bs with
        | some (_, []) => some []
        | _ => none
      | some (length, rest) =>
        if 64 < length then none
        else
          match splitAuthority? rest with
          | some ([], _) => none
          | some (_, rest) => readPath? rest
          | none => none

end Admission.Http
