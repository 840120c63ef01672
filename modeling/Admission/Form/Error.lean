import Admission.Language

/-!
# Faults of request forms

A request names the first of its fields that is at fault.
-/

namespace Admission

/-- Why a request is refused before it reaches a store. -/
inductive FormError where
  | missingField (name : String)
  | blankId
  | unsupportedLanguage (name : String)
  | nonPositiveTtl (seconds : Int64)
  | ttlOutOfRange (seconds : Int64)
  | malformedBody (reason : String)
  deriving DecidableEq, Repr

namespace FormError

/-- The wording of a fault. -/
def message : FormError → String
  | .missingField name => name ++ " is required and must not be empty"
  | .blankId => "id must not be blank when supplied"
  | .unsupportedLanguage name =>
    "unsupported language '" ++ name ++ "' (supported: " ++ Language.supported ++ ")"
  | .nonPositiveTtl seconds =>
    "ttlSeconds must be greater than zero (got " ++ toString seconds ++ ")"
  | .ttlOutOfRange seconds => "ttlSeconds " ++ toString seconds ++ " is out of range"
  | .malformedBody reason => "malformed request body: " ++ reason

/-- The field at fault, by its name in requests. -/
def field? : FormError → Option String
  | .missingField name => some name
  | .blankId => some "id"
  | .unsupportedLanguage _ => some "language"
  | .nonPositiveTtl _ => some "ttlSeconds"
  | .ttlOutOfRange _ => some "ttlSeconds"
  | .malformedBody _ => none

end FormError

end Admission
