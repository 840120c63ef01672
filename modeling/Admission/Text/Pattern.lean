import Admission.Text.Blank
import Admission.Text.CharSet
import Admission.Text.Letter

/-!
# Patterns

A pattern describes texts: characters and classes of them, one after the other or as alternatives,
grouped and repeated.  Here it is only decided which texts are patterns that can be searched for.

Patterns are about characters, but they know properties of ASCII alone.  So a class that stands for
a property, or letters in any case, may be used only after the flag `u` is turned off; then in turn
nothing may match a part of a character, as a dot or what a class leaves out would.  Edges of words
can be found among ASCII characters alone.  A repetition by number has braces and is not known.
-/

namespace Admission.Text.Pattern

/-- Why a text cannot be searched for. -/
inductive Fault where
  | malformed
  /-- Edges of words of all scripts are asked for. -/
  | wordEdge
  deriving DecidableEq, Repr

/-- The flags that matter to what is a pattern. -/
structure Flags where
  /-- Letters in any case, `i`. -/
  anyCase : Bool := false
  /-- Characters of all scripts, `u`. -/
  allScripts : Bool := true
  /-- Blanks and comments between the parts, `x`. -/
  spaced : Bool := false
  deriving DecidableEq, Repr

/-- Turn a flag on or off. -/
def Flags.set (f : Flags) (flag : Char) (on : Bool) : Flags :=
  if flag = 'i' then { f with anyCase := on }
  else if flag = 'u' then { f with allScripts := on }
  else if flag = 'x' then { f with spaced := on }
  else f

/-- Characters can be compared: their case matters, or only that of ASCII letters does not. -/
def Flags.comparesChars (f : Flags) : Bool := !(f.anyCase && f.allScripts)

/-- A text without the blanks and comments at its start. -/
def skipBlank (f : Flags) : List Char → List Char
  | [] => []
  | c :: cs =>
    if f.spaced && isBlankChar c then skipBlank f cs
    else if f.spaced && c == '#' then skipComment cs
    else c :: cs
where
  /-- What follows a comment. -/
  skipComment : List Char → List Char
    | [] => []
    | c :: cs => if c == '\n' then skipBlank f cs else skipComment cs

/-! ## Characters after a backslash -/

/-- What a backslash and what follows it stand for. -/
inductive Escape where
  /-- A character, and whether it is given as a byte. -/
  | char (c : Char) (isByte : Bool)
  /-- A class of ASCII characters, or what it leaves out. -/
  | property (negated : Bool)
  /-- An end of the text. -/
  | edge
  /-- An edge of a word. -/
  | wordEdge
  deriving DecidableEq, Repr

/-- The value of hexadecimal digits. -/
def hexValue? (cs : List Char) : Option Nat :=
  cs.foldlM (fun n c => do
    let d ← if c.isDigit then some (c.toNat - 48)
      else if c.toLower.isAlpha && c.toLower ≤ 'f' then some (c.toLower.toNat - 87)
      else none
    return 16 * n + d) 0

/-- A character given by so many hexadecimal digits. -/
def readHex (size : Nat) (cs : List Char) : Option (Escape × List Char) := do
  let ds := cs.take size
  if ds.length = size then
    let n ← hexValue? ds
    if n.isValidChar then some (.char (Char.ofNat n) (size == 2), cs.drop size) else none
  else none

/-- The controls that have a letter. -/
def controls : List (Char × Char) :=
  [('a', '\x07'), ('f', '\x0c'), ('t', '\t'), ('n', '\n'), ('r', '\r'), ('v', '\x0b')]

/-- Read what follows a backslash. -/
def readEscape (f : Flags) : List Char → Option (Escape × List Char)
  | [] => none
  | c :: cs =>
    if c = 'x' then readHex 2 (skipBlank f cs)
    else if c = 'u' then readHex 4 (skipBlank f cs)
    else if c = 'U' then readHex 8 (skipBlank f cs)
    else if ['d', 's', 'w'].contains c then some (.property false, cs)
    else if ['D', 'S', 'W'].contains c then some (.property true, cs)
    else if ['A', 'z'].contains c then some (.edge, cs)
    else if ['b', 'B', '<', '>'].contains c then some (.wordEdge, cs)
    else
      match controls.lookup c with
      | some control => some (.char control false, cs)
      | none => if c.toNat < 128 && !c.isAlphanum then some (.char c false, cs) else none

/-! ## Classes -/

/-- The names of classes that have one. -/
def classNames : List String := ["alnum", "alpha", "ascii", "blank", "cntrl", "digit", "graph",
  "lower", "print", "punct", "space", "upper", "word", "xdigit"]

/-- A class by name, after its opening bracket: whether it is negated, and what follows it. -/
def namedClass? (cs : List Char) : Option (Bool × List Char) :=
  match cs with
  | ':' :: cs =>
    let (negated, cs) := match cs with
      | '^' :: cs => (true, cs)
      | cs => (false, cs)
    let name := cs.takeWhile (· != ':')
    match cs.drop name.length with
    | ':' :: ']' :: rest =>
      if classNames.contains (String.ofList name) then some (negated, rest) else none
    | _ => none
  | _ => none

/-- Read a member of a class. -/
def readMember (f : Flags) : List Char → Option (Escape × List Char)
  | [] => none
  | '\\' :: cs => readEscape f cs
  | c :: cs => some (.char c false, cs)

/-- A character that a class may hold. -/
def mayHold (f : Flags) (c : Char) : Bool := f.comparesChars && (f.allScripts || c.toNat < 128)

/-- A member that a class may hold. -/
def isMember (f : Flags) : Escape → Bool
  | .char c _ => mayHold f c
  | .property negated => !f.allScripts && !negated
  | _ => false

/-- Read a member or a range of a class; with it what follows. -/
def readRange (f : Flags) (cs : List Char) : Option (List Char) := do
  let (first, rest) ← readMember f cs
  let rest := skipBlank f rest
  let single := if isMember f first then some rest else none
  match rest with
  | [] => none
  | '-' :: more =>
    let more := skipBlank f more
    if more.head? = some ']' ∨ more.head? = some '-' then single
    else
      let (last, rest) ← readMember f more
      match first, last with
      | .char a _, .char b _ => if mayHold f a && mayHold f b && a ≤ b then some rest else none
      | _, _ => none
  | _ => single

/-- What follows the start of a class: maybe a sign that negates it, hyphens, and a closing bracket
that is its first member. -/
def openClass (f : Flags) (cs : List Char) : Option (List Char) :=
  let cs := skipBlank f cs
  let (negated, cs) := match cs with
    | '^' :: cs => (true, skipBlank f cs)
    | cs => (false, cs)
  if negated && !f.allScripts then none
  else
    match cs with
    | ']' :: cs => if mayHold f ']' then some (skipBlank f cs) else none
    | '-' :: _ => if mayHold f '-' then some (hyphens cs) else none
    | _ => some cs
where
  /-- What follows hyphens. -/
  hyphens : List Char → List Char
    | '-' :: cs => hyphens cs
    | cs => skipBlank f cs

/-- Read the next part of a class that is open so many times. -/
def classStep (f : Flags) (depth : Nat) (cs : List Char) : Option (Nat × List Char) :=
  match skipBlank f cs with
  | [] => none
  | '[' :: cs =>
    match namedClass? cs with
    | some (negated, rest) =>
      if f.comparesChars && (f.allScripts || !negated) then some (depth, rest) else none
    | none => (openClass f cs).map fun rest => (depth + 1, rest)
  | ']' :: cs => some (depth - 1, cs)
  | '&' :: '&' :: cs => some (depth, cs)
  | '-' :: '-' :: cs => some (depth, cs)
  | '~' :: '~' :: cs => some (depth, cs)
  | cs => (readRange f cs).map fun rest => (depth, rest)

/-- What follows a class that is open so many times. -/
def classRest? (f : Flags) (depth : Nat) (cs : List Char) : Option (List Char) :=
  match classStep f depth cs with
  | none => none
  | some (0, rest) => some rest
  | some (depth + 1, rest) =>
    if rest.length < cs.length then classRest? f (depth + 1) rest else none
termination_by cs.length

/-! ## Groups -/

/-- What was read of a pattern. -/
structure Scan where
  flags : Flags := {}
  /-- The flags outside each open group, innermost first. -/
  outside : List Flags := []
  /-- Whether there is something to repeat. -/
  canRepeat : Bool := false
  groupNames : List (List Char) := []
  seeksWords : Bool := false
  deriving DecidableEq, Repr

/-- Read flags up to the sign that ends them, given those that were seen, last one first; with them
the sign and what follows. -/
def readFlags (on : Bool) (seen : List Char) (f : Flags) :
    List Char → Option (Flags × Bool × Char × List Char)
  | [] => none
  | c :: cs =>
    if c = ':' ∨ c = ')' then
      if seen.head? = some '-' then none else some (f, seen.isEmpty, c, cs)
    else if seen.contains c then none
    else if c = '-' then readFlags false (c :: seen) f cs
    else if ['i', 'm', 's', 'U', 'u', 'R', 'x'].contains c then
      readFlags on (c :: seen) (f.set c on) cs
    else none

/-- A character of the name of a group. -/
def isNameChar (c : Char) : Bool := c == '_' || ['.', '[', ']'].contains c || isLetterOrNumber c

/-- The name of a group and what follows it. -/
def readName (cs : List Char) : Option (List Char × List Char) :=
  let name := cs.takeWhile (· != '>')
  match name, cs.drop name.length with
  | c :: _, _ :: rest =>
    if (c == '_' || isLetter c) && name.all isNameChar then some (name, rest) else none
  | _, _ => none

/-- Open a group with flags. -/
def Scan.openGroup (s : Scan) (f : Flags) : Scan :=
  { s with flags := f, outside := s.flags :: s.outside, canRepeat := false }

/-- Open a group with a name. -/
def Scan.openNamed (s : Scan) (cs : List Char) : Option (Scan × List Char) := do
  let (name, rest) ← readName cs
  if s.groupNames.contains name then none
  else some ({ s.openGroup s.flags with groupNames := name :: s.groupNames }, rest)

/-- Read what follows an opening parenthesis: a group, or flags for what follows. -/
def Scan.openParen (s : Scan) (cs : List Char) : Option (Scan × List Char) :=
  match skipBlank s.flags cs with
  | '?' :: 'P' :: '<' :: cs => s.openNamed cs
  | '?' :: '<' :: cs => s.openNamed cs
  | '?' :: cs => do
    let (f, noFlags, sign, rest) ← readFlags true [] s.flags cs
    if sign = ':' then some (s.openGroup f, rest)
    else if noFlags then none
    else some ({ s with flags := f, canRepeat := false }, rest)
  | cs => some (s.openGroup s.flags, cs)

/-! ## The whole -/

/-- Something to repeat was read. -/
def Scan.item (s : Scan) (rest : List Char) : Option (Scan × List Char) :=
  some ({ s with canRepeat := true }, rest)

/-- Read the next part of a pattern. -/
def Scan.step (s : Scan) : List Char → Option (Scan × List Char)
  | [] => none
  | '(' :: cs => s.openParen cs
  | ')' :: cs =>
    match s.outside with
    | [] => none
    | f :: outside => Scan.item { s with flags := f, outside := outside } cs
  | '|' :: cs => some ({ s with canRepeat := false }, cs)
  | '[' :: cs => do s.item (← classRest? s.flags 1 (← openClass s.flags cs))
  | '.' :: cs => if s.flags.allScripts then s.item cs else none
  | '\x7b' :: _ => none
  | '\\' :: cs => do
    match ← readEscape s.flags cs with
    | (.char c isByte, rest) =>
      if s.flags.comparesChars && (s.flags.allScripts || !isByte || c.toNat < 128) then s.item rest
      else none
    | (.property negated, rest) => if !s.flags.allScripts && !negated then s.item rest else none
    | (.edge, rest) => s.item rest
    | (.wordEdge, rest) =>
      Scan.item { s with seeksWords := s.seeksWords || s.flags.allScripts } rest
  | c :: cs =>
    if ['?', '*', '+'].contains c then
      if s.canRepeat then some (s, if cs.head? = some '?' then cs.drop 1 else cs) else none
    else if ['^', '$'].contains c || s.flags.comparesChars then s.item cs
    else none

/-- What is wrong with the rest of a pattern. -/
def Scan.fault? (s : Scan) (cs : List Char) : Option Fault :=
  match skipBlank s.flags cs with
  | [] =>
    if !s.outside.isEmpty then some .malformed
    else if s.seeksWords then some .wordEdge
    else none
  | c :: more =>
    match s.step (c :: more) with
    | none => some .malformed
    | some (s, rest) => if rest.length < cs.length then s.fault? rest else some .malformed
termination_by cs.length

/-- What is wrong with a pattern, if anything is. -/
def fault? (cs : List Char) : Option Fault := ({} : Scan).fault? cs

end Admission.Text.Pattern
