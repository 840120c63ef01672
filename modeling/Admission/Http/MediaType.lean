import Admission.Http.Request

/-!
# Media types

A body is taken for JSON if its media type is `application` with the subtype `json`, whatever
suffix follows it, or with any subtype and the suffix `json`, whatever parameters follow.  Case does
not matter.  A text that is no media type is none of these.
-/

namespace Admission.Http

/-- Where the reading of parameters stands. -/
inductive ParameterState where
  | beforeName
  | inName
  | beforeValue
  | inValue
  | afterOpeningQuote
  | inQuotes
  | afterClosingQuote
  deriving DecidableEq, Repr

namespace ParameterState

/-- A character that may stand between quotes. -/
def isQuotedChar (c : Char) : Bool := 32 ≤ c.toNat && c.toNat != 127

/-- Read the next character of parameters.  Blanks may stand before a name and after a closing
quote, and between quotes there is at least one character. -/
def next? (s : ParameterState) (c : Char) : Option ParameterState :=
  match s with
  | beforeName => if c == ' ' then some beforeName else if isTokenChar c then some inName else none
  | inName => if isTokenChar c then some inName else if c == '=' then some beforeValue else none
  | beforeValue =>
    if c == '"' then some afterOpeningQuote else if isTokenChar c then some inValue else none
  | inValue => if isTokenChar c then some inValue else if c == ';' then some beforeName else none
  | afterOpeningQuote => if isQuotedChar c then some inQuotes else none
  | inQuotes =>
    if c == '"' then some afterClosingQuote else if isQuotedChar c then some inQuotes else none
  | afterClosingQuote =>
    if c == ';' then some beforeName else if c == ' ' then some afterClosingQuote else none

/-- Whether parameters may end here. -/
def isFinal : ParameterState → Bool
  | beforeName => true
  | inName => false
  | beforeValue => true
  | inValue => true
  | afterOpeningQuote => false
  | inQuotes => false
  | afterClosingQuote => true

end ParameterState

/-- Whether a text is a list of parameters, which may be empty. -/
def areParameters (cs : List Char) : Bool :=
  match cs.foldlM ParameterState.next? .beforeName with
  | some s => s.isFinal
  | none => false

/-- A subtype split at its last plus sign that does not stand first: the part before it, and the
suffix after it. -/
def splitSuffix (subtype : List Char) : List Char × Option (List Char) :=
  let suffix := (subtype.drop 1).reverse.takeWhile (· != '+')
  if (subtype.drop 1).contains '+' then
    (subtype.take (subtype.length - suffix.length - 1), some suffix.reverse)
  else (subtype, none)

/-- The name of the format. -/
def jsonName : List Char := ['j', 's', 'o', 'n']

/-- Whether a media type says that a body is JSON. -/
def isJsonMediaType (cs : List Char) : Bool :=
  let cs := cs.map Char.toLower
  let type := cs.takeWhile isTokenChar
  match cs.drop type.length with
  | '/' :: cs =>
    let subtype := cs.takeWhile isTokenChar
    let parametersOk := match cs.drop subtype.length with
      | [] => true
      | ';' :: cs => areParameters cs
      | _ => false
    let (name, suffix) := splitSuffix subtype
    type == "application".toList && !subtype.isEmpty && parametersOk &&
      (name == jsonName || suffix == some jsonName)
  | _ => false

end Admission.Http
