/-!
# Properties of characters

Standards define properties of characters by tables of code points.  A *character set* holds the
characters with a property as closed ranges, and a *character map* holds what each of some
characters stands for.

A table is written as words in hexadecimal.  In a set a word is a code point or a range, `41-5A`.
In a map a word is a code point or a range, a colon, and what it stands for, `DF:73,73`.  In a range
the last code point of what the first character stands for grows along, so `41-5A:61` takes each
capital letter to its small letter.  With a tilde for the hyphen only every second character of the
range is meant: in `100~12E:101` each capital letter stands before its small letter.
-/

namespace Admission.Text

/-- The pieces of a text, cut from its end on, since tables are long. -/
def cutPieces (cuts : Char → Bool) (cs : List Char) : List (List Char) :=
  cs.foldr (fun c ps =>
    if cuts c then [] :: ps
    else match ps with
      | [] => [[c]]
      | p :: ps => (c :: p) :: ps) [[]]

/-- The words of a table. -/
def tableWords (s : String) : List (List Char) :=
  (cutPieces (fun c => c == ' ' || c == '\n') s.toList).filter fun w => !w.isEmpty

/-- The number that digits of a table stand for, in upper-case hexadecimal. -/
def tableNumber (cs : List Char) : Nat :=
  cs.foldl (fun n c => 16 * n + (if c.isDigit then c.toNat - 48 else c.toNat - 55)) 0

/-- The numbers that a text of a table holds between signs. -/
def tableNumbers (sign : Char) (cs : List Char) : List Nat :=
  (cutPieces (· == sign) cs).map tableNumber

/-- A range from its word. -/
def tableRange (cs : List Char) : Nat × Nat :=
  match tableNumbers '-' cs with
  | first :: last :: _ => (first, last)
  | first :: [] => (first, first)
  | [] => (0, 0)

/-! ## Sets -/

/-- A set of characters: closed ranges of code points. -/
structure CharSet where
  ranges : List (Nat × Nat)
  deriving DecidableEq, Repr

namespace CharSet

/-- The set that a table holds. -/
def ofTable (s : String) : CharSet := ⟨(tableWords s).map tableRange⟩

/-- Whether a character is in a set. -/
def contains (s : CharSet) (c : Char) : Bool :=
  s.ranges.any fun r => r.1 ≤ c.toNat && c.toNat ≤ r.2

end CharSet

/-! ## Maps -/

/-- What the characters of a range stand for. -/
structure CharMap.Run where
  first : Nat
  last : Nat
  /-- The distance from one character of the run to the next. -/
  step : Nat
  /-- What the first character stands for. -/
  image : List Nat
  deriving DecidableEq, Repr

/-- A map from characters to texts. -/
structure CharMap where
  runs : List CharMap.Run
  deriving DecidableEq, Repr

namespace CharMap

/-- A run from its word. -/
def Run.ofWord (cs : List Char) : Run :=
  let key := cs.takeWhile (· != ':')
  let (first, last) := tableRange (key.map fun c => if c = '~' then '-' else c)
  ⟨first, last, if key.contains '~' then 2 else 1, tableNumbers ',' (cs.drop (key.length + 1))⟩

/-- The map that a table holds. -/
def ofTable (s : String) : CharMap := ⟨(tableWords s).map Run.ofWord⟩

/-- Whether a run is about a character. -/
def Run.isAbout (r : Run) (c : Char) : Bool :=
  r.first ≤ c.toNat && c.toNat ≤ r.last && (c.toNat - r.first) % r.step == 0

/-- What a character of a run stands for. -/
def Run.imageOf (r : Run) (c : Char) : List Char :=
  match r.image.reverse with
  | [] => []
  | n :: ns => ((n + (c.toNat - r.first)) :: ns).reverse.map Char.ofNat

/-- What a character stands for, if the map has it. -/
def get? (m : CharMap) (c : Char) : Option (List Char) :=
  (m.runs.find? fun r => r.isAbout c).map fun r => r.imageOf c

/-- What a character stands for; itself if the map does not have it. -/
def get (m : CharMap) (c : Char) : List Char := (m.get? c).getD [c]

end CharMap

end Admission.Text
