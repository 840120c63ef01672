import Admission.Text.Decimal
import Admission.Text.Pattern
import Admission.Text.Repaired
import Admission.Text.Split

/-!
# What is logged

A log filter is a list of directives between commas, each of which admits what is logged up to a
level, maybe only for what comes from a part of the program, or within a span, or with a field.  Of
the directives about an entry the most specific decides: the one with the longest target, and of two
with the same target the one with more fields, or else the later one.  Without any directive only
errors are logged.

The entries of the start come from `control_plane`, outside every span, and have no field but their
message.

Blanks around a directive do not count when its parts are told apart.  But the bytes of a part are
counted from the start of the text that is left, and its text is taken from the start of the whole
text, so blanks in front shift it.
-/

namespace Admission

open Admission.Text

/-- How much is logged, from nothing to everything. -/
inductive LogLevel where
  | off
  | error
  | warn
  | info
  | debug
  | trace
  deriving DecidableEq, Repr

namespace LogLevel

/-- Every level, from the one that logs least on. -/
def all : List LogLevel := [.off, .error, .warn, .info, .debug, .trace]

/-- The name of a level. -/
def name : LogLevel → String
  | .off => "off"
  | .error => "error"
  | .warn => "warn"
  | .info => "info"
  | .debug => "debug"
  | .trace => "trace"

/-- The place of a level among all, which is another name for it. -/
def rank (l : LogLevel) : Nat := all.idxOf l

/-- The level with a name, in any case, or a number. -/
def ofText? (s : String) : Option LogLevel :=
  match readNat? s with
  | some n => all[n]?
  | none => all.find? fun l => l.name == asciiLower s

end LogLevel

/-- Why a directive is no part of a filter. -/
inductive DirectiveError where
  | malformed
  | unknownLevel
  /-- The value of a field is not a pattern that can be searched for. -/
  | badPattern (fault : Pattern.Fault)
  /-- A part would start or end within a character.  There is no going on after that. -/
  | torn
  deriving DecidableEq, Repr

/-- The wording of what is wrong with a directive. -/
def DirectiveError.message : DirectiveError → String
  | .malformed => "invalid filter directive"
  | .unknownLevel =>
    "error parsing level filter: expected one of \"off\", \"error\", \"warn\", \"info\", " ++
      "\"debug\", \"trace\", or a number 0-5"
  | .badPattern .malformed => "invalid field filter: error building NFA"
  | .badPattern .wordEdge =>
    "invalid field filter: unsupported regex feature for DFAs: cannot build DFAs for regexes " ++
      "with Unicode word boundaries; switch to ASCII word boundaries, or heuristically enable " ++
      "Unicode word boundaries or use a different regex engine"
  | .torn => "a part starts or ends within a character"

/-- A field that a directive asks for, and whether it asks for a value too. -/
structure FieldMatch where
  name : String
  hasValue : Bool
  deriving DecidableEq, Repr

/-- A part of a filter. -/
structure Directive where
  level : LogLevel
  target : Option String
  span : Option String
  fields : List FieldMatch
  deriving DecidableEq, Repr

namespace Directive

/-- A character that a directive may start with, a bracket apart. -/
def startsWithChar (c : Char) : Bool := ['-', ':', '_'].contains c || isLetterOrNumber c

/-- Whether a character of a text starts, or the text ends, after so many bytes. -/
def isBoundary (text : List UInt8) (n : Nat) : Bool := (text[n]?).all fun b => !isContinuation b

/-- The part of a text between two numbers of bytes. -/
def part (text : List UInt8) (first last : Nat) : Except DirectiveError String :=
  if isBoundary text first && isBoundary text last then
    match text? ((text.take last).drop first) with
    | some s => .ok s
    | none => .error .torn
  else .error .torn

/-- A number as it may stand for a value: digits with a point or an exponent, or the name of a
number that is not finite, after a sign. -/
def isNumeral (cs : List Char) : Bool :=
  let cs := (splitSign cs).2
  let whole := cs.takeWhile Char.isDigit
  let rest := cs.drop whole.length
  let fraction := if rest.head? = some '.' then (rest.drop 1).takeWhile Char.isDigit else []
  let rest := if rest.head? = some '.' then rest.drop (1 + fraction.length) else rest
  let power := match rest with
    | [] => true
    | c :: rest =>
      let digits := (splitSign rest).2
      (c == 'e' || c == 'E') && !digits.isEmpty && digits.all Char.isDigit
  (!(whole ++ fraction).isEmpty && power) ||
    ["inf", "infinity", "nan"].contains (String.ofList (cs.map Char.toLower))

/-- A field: a name, and maybe a value up to another equals sign.  A value that is no number is a
pattern. -/
def fieldOfText (s : String) : Except DirectiveError FieldMatch :=
  match pieces (· == '=') s.toList with
  | name :: value :: _ =>
    match if isNumeral value then none else Pattern.fault? value with
    | some fault => .error (.badPattern fault)
    | none => .ok ⟨String.ofList name, true⟩
  | _ => .ok ⟨s, false⟩

/-- The level that a part names; none stands for everything. -/
def levelOfText (s : String) : Except DirectiveError LogLevel :=
  if s.isEmpty then .ok .trace
  else
    match LogLevel.ofText? s with
    | some level => .ok level
    | none => .error .unknownLevel

/-- What is being read of a directive; a number says after how many bytes it starts. -/
inductive Place where
  | start
  | head
  | span (first : Nat)
  | field (first : Nat)
  | afterFields
  | afterSpan
  | level (first : Nat)
  deriving DecidableEq, Repr

/-- Look at the character after so many bytes of a directive, of which a part was read. -/
def step (text : List UInt8) (d : Directive) (i : Nat) (c : Char) :
    Place → Except DirectiveError (Directive × Place)
  | .start =>
    if c = '[' then .ok (d, .span (i + 1))
    else if startsWithChar c then .ok (d, .head)
    else .error .malformed
  | .head =>
    if c = '=' then do return ({ d with target := some (← part text 0 i) }, .level (i + 1))
    else if c = '[' then do return ({ d with target := some (← part text 0 i) }, .span (i + 1))
    else .ok (d, .head)
  | .span first =>
    if c = ']' then do return ({ d with span := some (← part text first i) }, .afterSpan)
    else if c = '\x7b' then do
      let name ← part text first i
      return ({ d with span := if name.isEmpty then none else some name }, .field (i + 1))
    else .ok (d, .span first)
  | .field first =>
    if c = '\x7d' then do
      let field ← part text first i
      if field.isEmpty then throw .malformed
      return ({ d with fields := d.fields ++ [← fieldOfText field] }, .afterFields)
    else .ok (d, .field first)
  | .afterFields => if c = ']' then .ok (d, .afterSpan) else .error .malformed
  | .afterSpan => if c = '=' then .ok (d, .level (i + 1)) else .error .malformed
  | .level first => .ok (d, .level first)

/-- A directive that was read up to its end. -/
def finish (text : List UInt8) (d : Directive) : Place → Except DirectiveError Directive
  | .head => do
    let name ← part text 0 text.length
    match LogLevel.ofText? name with
    | some level => return { d with level := level }
    | none => return { d with target := some name }
  | .level first => do return { d with level := ← levelOfText (← part text first text.length) }
  | .afterSpan => .ok d
  | _ => .error .malformed

/-- Read the characters of a directive from after so many bytes on. -/
def readFrom (text : List UInt8) (d : Directive) (place : Place) (i : Nat) :
    List Char → Except DirectiveError Directive
  | [] => d.finish text place
  | c :: cs => do
    let (d, place) ← d.step text i c place
    d.readFrom text place (i + c.utf8Size) cs

/-- A directive: a level, or a target with a span or a level or neither, or a span. -/
def ofChars (cs : List Char) : Except DirectiveError Directive :=
  readFrom (utf8Chars cs) ⟨.trace, none, none, []⟩ .start 0 (trimEnd (trimStart cs))

/-- Whether a directive is about the entries of the start. -/
def isAboutStart (d : Directive) : Bool :=
  d.target.all (fun t => t.toList.isPrefixOf "control_plane".toList) && d.span.isNone &&
    d.fields.all fun f => f.name == "message" && !f.hasValue

/-- Whether a directive is at most as specific as another. -/
def le (a b : Directive) : Bool :=
  let length := fun (d : Directive) => (d.target.map fun t => t.length + 1).getD 0
  length a < length b || (length a == length b && a.fields.length ≤ b.fields.length)

/-- The directives between commas, each as it is written, with what it says or what is wrong. -/
def ofText (s : String) : List (String × Except DirectiveError Directive) :=
  ((pieces (· == ',') s.toList).filter fun cs => !cs.isEmpty).map fun cs =>
    (String.ofList cs, ofChars cs)

end Directive

/-- A filter. -/
abbrev LogFilter := List Directive

namespace LogFilter

/-- The filter with a text of which every directive is one. -/
def ofText (s : String) : Except DirectiveError LogFilter :=
  (Directive.ofText s).mapM fun d => d.2

/-- The filter that the directives of a text make up, and a remark on each that is none; `none` if
there is no going on after one. -/
def ofTextLossy? (s : String) : Option (LogFilter × List String) :=
  let ds := Directive.ofText s
  if ds.any fun d => d.2 matches .error .torn then none
  else
    some (ds.filterMap fun d => d.2.toOption, ds.filterMap fun (text, d) =>
      match d with
      | .ok _ => none
      | .error e => some ("ignoring \x60" ++ text ++ "\x60: " ++ e.message))

/-- Whether the entries of the start are logged. -/
def admitsStart (f : LogFilter) : Bool :=
  if f.isEmpty then false
  else
    let best := (f.filter Directive.isAboutStart).foldl (fun best d =>
      match best with
      | none => some d
      | some b => if b.le d then some d else best) none
    best.any fun d => LogLevel.info.rank ≤ d.level.rank

end LogFilter

end Admission
