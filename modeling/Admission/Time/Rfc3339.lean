import Admission.Text.Blank
import Admission.Text.Decimal
import Admission.Time.Calendar
import Admission.Time.Instant

/-!
# Timestamps as text

Timestamps are written in the form of RFC 3339, always at UTC: `2026-03-01T12:00:00Z`.  A fraction
stands only if it is not zero, with the fewest of three, six or nine digits that are exact.  Years
from 0 to 9999 have four digits, the others a sign and at least four.  The point of a leap second is
written with second 60.

Reading is laxer.  A date may stand off its hyphens and a time off its colons; a blank or a small
`t` may part the two; the zone may be `Z`, `UTC` or an offset, whose hours and minutes may stand
together or apart; fraction digits after the ninth are dropped.
-/

namespace Admission.Time

open Admission.Text

/-! ## Writing -/

/-- Four digits for the years they suffice for; a sign and at least four for the others. -/
def yearChars (y : Int) : List Char :=
  if 0 ≤ y ∧ y ≤ 9999 then padded 4 y.toNat
  else (if y < 0 then '-' else '+') :: padded 4 y.natAbs

/-- The fraction of a second with its point, or nothing at a whole second. -/
def fractionChars (nanos : Nat) : List Char :=
  if nanos = 0 then []
  else if nanos % 1000000 = 0 then '.' :: padded 3 (nanos / 1000000)
  else if nanos % 1000 = 0 then '.' :: padded 6 (nanos / 1000)
  else '.' :: padded 9 nanos

/-- The written form of a timestamp, character by character. -/
def Timestamp.chars (t : Timestamp) : List Char :=
  let date := Date.ofDayNumber (t.instant.seconds / 86400)
  let second := (t.instant.seconds % 86400).toNat
  yearChars date.year ++ '-' :: padded 2 date.month ++ '-' :: padded 2 date.day ++
    'T' :: padded 2 (second / 3600) ++ ':' :: padded 2 (second / 60 % 60) ++
    ':' :: padded 2 (second % 60 + if t.leap then 1 else 0) ++
    fractionChars t.instant.nanos ++ ['Z']

/-- The written form of a timestamp. -/
def Timestamp.text (t : Timestamp) : String := String.ofList t.chars

/-! ## Reading

Each reader takes what it reads off the front of the text and returns the rest. -/

/-- One to `limit` digits. -/
def readDigits? (limit : Nat) (cs : List Char) : Option (Nat × List Char) :=
  let ds := (cs.takeWhile Char.isDigit).take limit
  if ds = [] then none else some (digitsValue ds, cs.drop ds.length)

/-- A number of at most two digits within bounds, after any blanks. -/
def readPart? (low high : Nat) (cs : List Char) : Option (Nat × List Char) := do
  let (n, rest) ← readDigits? 2 (trimStart cs)
  if low ≤ n ∧ n ≤ high then some (n, rest) else none

/-- A given character. -/
def readChar? (c : Char) : List Char → Option (List Char)
  | d :: rest => if d = c then some rest else none
  | [] => none

/-- A year after any blanks: up to four digits, or a sign and any number of them. -/
def readYear? (cs : List Char) : Option (Int × List Char) :=
  match trimStart cs with
  | '-' :: rest => (readDigits? rest.length rest).map fun (n, rest) => (-(n : Int), rest)
  | '+' :: rest => (readDigits? rest.length rest).map fun (n, rest) => ((n : Int), rest)
  | cs => (readDigits? 4 cs).map fun (n, rest) => ((n : Int), rest)

/-- A date of the calendar. -/
def readDate? (cs : List Char) : Option (Date × List Char) := do
  let (year, cs) ← readYear? cs
  let cs ← readChar? '-' (trimStart cs)
  let (month, cs) ← readPart? 1 12 cs
  let cs ← readChar? '-' (trimStart cs)
  let (day, cs) ← readPart? 1 31 cs
  let date : Date := ⟨year, month, day⟩
  if date.isValid then some (date, cs) else none

/-- A fraction of a second in nanoseconds; none is zero. -/
def readFraction? : List Char → Option (Nat × List Char)
  | '.' :: cs => do
    let digits := cs.takeWhile Char.isDigit
    let (n, _) ← readDigits? 9 cs
    some (n * Nat.pow 10 (9 - digits.length), cs.drop digits.length)
  | cs => some (0, cs)

/-- A time of day as seconds and nanoseconds, and whether it lies in a leap second. -/
def readTimeOfDay? (cs : List Char) : Option ((Nat × Nat × Bool) × List Char) := do
  let (hour, cs) ← readPart? 0 23 cs
  let cs ← readChar? ':' (trimStart cs)
  let (minute, cs) ← readPart? 0 59 cs
  let cs ← readChar? ':' (trimStart cs)
  let (second, cs) ← readPart? 0 60 cs
  let (nanos, cs) ← readFraction? cs
  some ((hour * 3600 + minute * 60 + min second 59, nanos, second == 60), cs)

/-- Two digits, neither more nor fewer read. -/
def readTwoDigits? : List Char → Option (Nat × List Char)
  | a :: b :: rest =>
    if a.isDigit ∧ b.isDigit then some (10 * digitValue a + digitValue b, rest) else none
  | _ => none

/-- Hours and minutes of an offset, less than a day, in seconds. -/
def readOffset? (cs : List Char) : Option (Nat × List Char) := do
  let (hours, cs) ← readTwoDigits? cs
  let (minutes, cs) ← readTwoDigits? (cs.dropWhile fun c => c == ':' || isBlankChar c)
  if minutes < 60 ∧ hours < 24 then some (hours * 3600 + minutes * 60, cs) else none

/-- A zone, as the seconds by which its clocks are ahead of UTC. -/
def readZone? : List Char → Option (Int × List Char)
  | 'Z' :: cs => some (0, cs)
  | 'z' :: cs => some (0, cs)
  | '+' :: cs => (readOffset? cs).map fun (n, cs) => ((n : Int), cs)
  | '-' :: cs => (readOffset? cs).map fun (n, cs) => (-(n : Int), cs)
  | '\u2212' :: cs => (readOffset? cs).map fun (n, cs) => (-(n : Int), cs)
  | u :: t :: c :: cs =>
    if u.toLower = 'u' ∧ t.toLower = 't' ∧ c.toLower = 'c' then some (0, cs) else none
  | _ => none

/-- A timestamp from its parts: a date and time of day at a zone. -/
def Timestamp.ofLocal? (date : Date) (second nanos : Nat) (leap : Bool) (zone : Int) :
    Option Timestamp := do
  let instant ← Instant.ofParts? (date.dayNumber * 86400 + second - zone) nanos
  ofMoment? ⟨instant, leap⟩

/-- The timestamp that a text is a form of. -/
def Timestamp.ofChars? (cs : List Char) : Option Timestamp := do
  let (date, cs) ← readDate? cs
  match cs with
  | [] => none
  | parting :: cs =>
    if parting = 'T' ∨ parting = 't' ∨ parting = ' ' then
      let ((second, nanos, leap), cs) ← readTimeOfDay? cs
      let (zone, cs) ← readZone? (trimStart cs)
      if trimStart cs = [] then Timestamp.ofLocal? date second nanos leap zone else none
    else none

/-- The timestamp that a text is a form of. -/
def Timestamp.ofText? (s : String) : Option Timestamp := Timestamp.ofChars? s.toList

end Admission.Time
