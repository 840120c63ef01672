import Admission.Net.Domain.Direction
import Admission.Net.Domain.Joiner
import Admission.Net.Domain.Mapping
import Admission.Net.Punycode
import Admission.Text.Split

/-!
# Domain names

A domain name is made of labels between dots.  Every way to write a name has one form in ASCII, in
which a label of other characters is written as `xn--` and its Punycode.  A label that is given in
that form must be the form of a label that could have been given as it is.  A label of small
letters, digits and hyphens that is not of that form stands as it is.
-/

namespace Admission.Net.Domain

open Admission.Text

/-- What the Punycode of a label starts with. -/
def codedMark : List Char := "xn--".toList

/-- A text in ASCII. -/
def isAscii (cs : List Char) : Bool := cs.all fun c => c.toNat < 128

/-- The characters of a label of a mapped name; a coded label is decoded. -/
def labelChars? (label : List Char) : Option (List Char) :=
  if codedMark.isPrefixOf label then do
    let cs ← Punycode.decode? (label.drop codedMark.length)
    if !isAscii cs && mapped? cs = some cs then some cs else none
  else some label

/-- A label that shows as what it is, whatever stands before it. -/
def isClear (label : List Char) : Bool :=
  !label.head?.any isMark && joinersFit [] label

/-- A label in ASCII. -/
def asciiLabel (label : List Char) : List Char :=
  if isAscii label then label else codedMark ++ Punycode.encode label

/-- A label that is in ASCII form as it stands. -/
def isPlain (label : List Char) : Bool :=
  label.all (fun c => c.isLower || c.isDigit || c == '-') && !codedMark.isPrefixOf label

/-- The form in ASCII of a name.  Names of plain labels do not need the tables. -/
def ofChars? (cs : List Char) : Option (List Char) :=
  if (pieces (· == '.') cs).all isPlain then some cs
  else do
    let labels := pieces (· == '.') (← mapped? cs)
    let shown ← labels.mapM labelChars?
    if shown.all isClear && (shown.all keepsDirection || !shown.any (·.any isRightward)) then
      some (".".toList.intercalate (labels.map asciiLabel))
    else none

end Admission.Net.Domain
