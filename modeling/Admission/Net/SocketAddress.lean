import Admission.Text.Decimal

/-!
# Socket addresses

A socket address is an address of four bytes and a port, `127.0.0.1:80`, or an address of eight
groups of sixteen bits between brackets, perhaps with a zone, and a port, `[fe80::1%2]:80`.

The groups are written in hexadecimal without leading zeros; the longest run of at least two zero
groups, the first of several, is written as `::`.  An address that holds one of four bytes in its
last two groups, after `ffff` and zeros, is written with these four bytes in decimal.  Reading takes
any `::` that stands for at least one group, and four decimal bytes in place of any last two groups.
-/

namespace Admission.Net

open Admission.Text

/-- A socket address. -/
inductive SocketAddress where
  | v4 (bytes : List UInt8) (port : UInt16)
  | v6 (groups : List UInt16) (zone : UInt32) (port : UInt16)
  deriving DecidableEq, Repr

/-! ## Writing -/

/-- Four bytes in decimal. -/
def bytesText (bytes : List UInt8) : String := ".".intercalate (bytes.map fun b => toString b.toNat)

/-- A group in hexadecimal. -/
def groupText (g : UInt16) : String := String.ofList (Nat.toDigits 16 g.toNat)

/-- Groups between colons. -/
def groupsText (gs : List UInt16) : String := ":".intercalate (gs.map groupText)

/-- The length of the run of zero groups at the front. -/
def zeroRun (gs : List UInt16) : Nat := (gs.takeWhile (· == 0)).length

/-- The place and length of the longest run of zero groups, the first of several, given the best so
far and the place of the groups. -/
def longestZeroRun (best : Nat × Nat) (i : Nat) : List UInt16 → Nat × Nat
  | [] => best
  | g :: gs =>
    let n := zeroRun (g :: gs)
    longestZeroRun (if best.2 < n then (i, n) else best) (i + 1) gs

/-- The two bytes of a group. -/
def groupBytes (g : UInt16) : List UInt8 := [(g >>> 8).toUInt8, g.toUInt8]

/-- An address of eight groups. -/
def addressText (gs : List UInt16) : String :=
  match gs with
  | [0, 0, 0, 0, 0, 0xffff, a, b] => "::ffff:" ++ bytesText (groupBytes a ++ groupBytes b)
  | _ =>
    let (start, n) := longestZeroRun (0, 0) 0 gs
    if 1 < n then groupsText (gs.take start) ++ "::" ++ groupsText (gs.drop (start + n))
    else groupsText gs

/-- The written form. -/
def SocketAddress.text : SocketAddress → String
  | .v4 bytes port => bytesText bytes ++ ":" ++ toString port.toNat
  | .v6 groups zone port =>
    "[" ++ addressText groups ++ (if zone = 0 then "" else "%" ++ toString zone.toNat) ++ "]:" ++
      toString port.toNat

/-! ## Reading

Each reader takes what it reads off the front of the text and returns the rest. -/

/-- A given character. -/
def readChar? (c : Char) : List Char → Option (List Char)
  | d :: rest => if d = c then some rest else none
  | [] => none

/-- A decimal number below a bound, of any number of digits. -/
def readNumber? (bound : Nat) (cs : List Char) : Option (Nat × List Char) :=
  let ds := cs.takeWhile Char.isDigit
  if ds ≠ [] ∧ digitsValue ds < bound then some (digitsValue ds, cs.drop ds.length) else none

/-- A decimal byte of at most three digits, without leading zeros. -/
def readByte? (cs : List Char) : Option (UInt8 × List Char) :=
  let ds := cs.takeWhile Char.isDigit
  if 3 < ds.length ∨ (1 < ds.length ∧ ds.head? = some '0') then none
  else (readNumber? 256 cs).map fun (n, rest) => (n.toUInt8, rest)

/-- Four decimal bytes with points between them. -/
def readBytes? (cs : List Char) : Option (List UInt8 × List Char) := do
  let (a, cs) ← readByte? cs
  let (b, cs) ← readByte? (← readChar? '.' cs)
  let (c, cs) ← readByte? (← readChar? '.' cs)
  let (d, cs) ← readByte? (← readChar? '.' cs)
  return ([a, b, c, d], cs)

/-- The value of a hexadecimal digit. -/
def hexDigitValue? (c : Char) : Option Nat :=
  if c.isDigit then some (c.toNat - 48)
  else if 'a' ≤ c ∧ c ≤ 'f' then some (c.toNat - 87)
  else if 'A' ≤ c ∧ c ≤ 'F' then some (c.toNat - 55)
  else none

/-- A group of one to four hexadecimal digits. -/
def readGroup? (cs : List Char) : Option (UInt16 × List Char) :=
  let ds := cs.takeWhile fun c => (hexDigitValue? c).isSome
  if ds = [] ∨ 4 < ds.length then none
  else
    let n := ds.foldl (fun n c => 16 * n + (hexDigitValue? c).getD 0) 0
    some (n.toUInt16, cs.drop ds.length)

/-- A colon, unless it would be the first of all. -/
def readSeparator? (isFirst : Bool) (cs : List Char) : Option (List Char) :=
  if isFirst then some cs else readChar? ':' cs

/-- The groups that four bytes make up. -/
def bytesGroups : List UInt8 → List UInt16
  | [a, b, c, d] => [a.toUInt16 * 256 + b.toUInt16, c.toUInt16 * 256 + d.toUInt16]
  | _ => []

/-- At most `limit` groups with colons between them, and whether they end in four decimal bytes. -/
def readGroups (isFirst : Bool) : Nat → List Char → (List UInt16 × Bool) × List Char
  | 0, cs => (([], false), cs)
  | limit + 1, cs =>
    let bytes := if limit = 0 then none else (readSeparator? isFirst cs).bind readBytes?
    match bytes with
    | some (bs, rest) => ((bytesGroups bs, true), rest)
    | none =>
      match (readSeparator? isFirst cs).bind readGroup? with
      | none => (([], false), cs)
      | some (g, rest) =>
        let ((gs, endsInBytes), rest) := readGroups false limit rest
        ((g :: gs, endsInBytes), rest)

/-- An address of eight groups; `::` stands for those that are left out. -/
def readAddress? (cs : List Char) : Option (List UInt16 × List Char) := do
  let ((front, endsInBytes), cs) := readGroups true 8 cs
  if front.length = 8 then some (front, cs)
  else if endsInBytes then none
  else
    let cs ← readChar? ':' (← readChar? ':' cs)
    let ((back, _), cs) := readGroups true (7 - front.length) cs
    some (front ++ List.replicate (8 - front.length - back.length) 0 ++ back, cs)

/-- A colon and a port. -/
def readPort? (cs : List Char) : Option (UInt16 × List Char) := do
  let (n, cs) ← readNumber? 0x10000 (← readChar? ':' cs)
  return (n.toUInt16, cs)

/-- A percent sign and a zone; no zone is zone zero. -/
def readZone? : List Char → Option (UInt32 × List Char)
  | '%' :: cs => (readNumber? 0x100000000 cs).map fun (n, cs) => (n.toUInt32, cs)
  | cs => some (0, cs)

/-- The four bytes and a port. -/
def readV4? (cs : List Char) : Option SocketAddress := do
  let (bytes, cs) ← readBytes? cs
  let (port, cs) ← readPort? cs
  if cs.isEmpty then some (.v4 bytes port) else none

/-- The eight groups and a port. -/
def readV6? (cs : List Char) : Option SocketAddress := do
  let (groups, cs) ← readAddress? (← readChar? '[' cs)
  let (zone, cs) ← readZone? cs
  let (port, cs) ← readPort? (← readChar? ']' cs)
  if cs.isEmpty then some (.v6 groups zone port) else none

/-- The socket address that a text is the form of. -/
def SocketAddress.ofText? (s : String) : Option SocketAddress :=
  (readV4? s.toList).or (readV6? s.toList)

/-! ## Binding -/

/-- A port that is kept for privileged users.  Port zero stands for any port that is free. -/
def isReservedPort (port : UInt16) : Bool := 0 < port && port < 1024

/-- An address of four bytes at which a machine with the given one answers: all of its addresses, a
loopback or its own. -/
def answersAt (own bytes : List UInt8) : Bool :=
  bytes == [0, 0, 0, 0] || bytes.head? == some 127 || bytes == own

/-- An address that a user without privileges can bind on a machine with the given one. -/
def SocketAddress.isBindable (own : List UInt8) : SocketAddress → Bool
  | .v4 bytes port => !isReservedPort port && answersAt own bytes
  | .v6 groups _ port =>
    !isReservedPort port &&
      match groups with
      | [0, 0, 0, 0, 0, 0xffff, a, b] => answersAt own (groupBytes a ++ groupBytes b)
      | [0, 0, 0, 0, 0, 0, 0, n] => n < 2
      | _ => false

end Admission.Net
