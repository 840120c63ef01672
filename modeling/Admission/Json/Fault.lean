import Admission.Json.Basic
import Admission.Text.Quoted

/-!
# Faults of JSON values

A text is no JSON, or it is JSON of the wrong shape.  Faults of the second kind say what is wrong
and may say where: at a member, by its key as written, or at an item.
-/

namespace Admission.Json

open Admission.Text

/-- The kind of a value, with as much of the value as messages show. -/
inductive Found where
  | null
  | bool (b : Bool)
  | integer (n : Int)
  | real
  | text (s : String)
  | array
  | object
  deriving DecidableEq, Repr

/-- What is wrong with the shape of a value. -/
inductive Problem where
  | missingField (name : String)
  | duplicateField (name : String)
  | unknownVariant (name : String) (expected : List String)
  | unexpected (found : Found) (expected : String)
  | outOfRange (n : Int) (expected : String)
  | invalidLength (count : Nat) (expected : String)
  | invalidTimestamp
  deriving DecidableEq, Repr

/-- A part of a container. -/
inductive Place where
  | member (key : String)
  | item (index : Nat)
  deriving DecidableEq, Repr

/-- Why a text is not read as a value of some type. -/
inductive Fault where
  | malformed
  | mismatch (place : Option Place) (problem : Problem)
  deriving DecidableEq, Repr

/-! ## Wording -/

/-- A text between backticks. -/
def ticked (s : String) : String := "`" ++ s ++ "`"

/-- A choice between names. -/
def oneOf : List String → String
  | [a] => ticked a
  | [a, b] => ticked a ++ " or " ++ ticked b
  | names => "one of " ++ ", ".intercalate (names.map ticked)

/-- The kind of a value in messages. -/
def Found.wording : Found → String
  | .null => "null"
  | .bool b => "boolean " ++ ticked (if b then "true" else "false")
  | .integer n => "integer " ++ ticked (toString n)
  | .real => "floating point"
  | .text s => "string " ++ quoted s
  | .array => "sequence"
  | .object => "map"

/-- The wording of a problem. -/
def Problem.message : Problem → String
  | .missingField name => "missing field " ++ ticked name
  | .duplicateField name => "duplicate field " ++ ticked name
  | .unknownVariant name expected =>
    "unknown variant " ++ ticked name ++ ", expected " ++ oneOf expected
  | .unexpected found expected => "invalid type: " ++ found.wording ++ ", expected " ++ expected
  | .outOfRange n expected =>
    "invalid value: integer " ++ ticked (toString n) ++ ", expected " ++ expected
  | .invalidLength count expected =>
    "invalid length " ++ toString count ++ ", expected " ++ expected
  | .invalidTimestamp => "invalid timestamp"

/-- A part of a container in messages. -/
def Place.wording : Place → String
  | .member key => key
  | .item index => "[" ++ toString index ++ "]"

/-- A problem with its place, if that is known. -/
def placedMessage (place : Option Place) (problem : Problem) : String :=
  match place with
  | none => problem.message
  | some p => p.wording ++ ": " ++ problem.message

/-! ## Faults of values -/

/-- The kind of a value, unless a fault of the text stands in the way. -/
def found? : Json → Option Found
  | .null => some .null
  | .bool b => some (.bool b)
  | .number x =>
    match x.value with
    | .integer n => some (.integer n)
    | .real => some .real
    | .tooLarge => none
  | .string text => text.map .text
  | .array _ _ => some .array
  | .object _ _ => some .object
  | .cut => none

/-- The fault of a value that is not what was expected. -/
def unexpected (v : Json) (expected : String) : Fault :=
  match v.found? with
  | some found => .mismatch none (.unexpected found expected)
  | none => .malformed

/-- A fault inside a part of a container. -/
def Fault.within (place : Place) : Fault → Fault
  | .mismatch none problem => .mismatch (some place) problem
  | fault => fault

end Admission.Json
