import Admission.Json.Codec

/-!
# Records as JSON

A record is a fixed list of fields, each with a name, perhaps further names, and perhaps a value
that stands in for it when it is absent.  It is written as an object with the fields in order.  It
is read from an object, with the members in any order, or from an array of the field values in
order.

In an object the members are looked at in the order of the text.  A field that comes twice, under
one name or two, is a fault at its second key.  Members of other names are skipped, and so is what
is wrong with them, as long as they are JSON.  Only then are absent fields told, in the order of
the record.
-/

namespace Admission.Json

/-- A field of a record. -/
structure Field (α : Type) where
  name : String
  aliases : List String
  codec : Codec α
  /-- What an absent field stands for, if it may be absent. -/
  absent : Option α
  /-- Whether a value is written by leaving the field out. -/
  isOmitted : α → Bool

namespace Field

/-- A field that must be there. -/
def required {α : Type} (name : String) (codec : Codec α) : Field α :=
  ⟨name, [], codec, none, fun _ => false⟩

/-- A field that may be missing, under any of its names. -/
def nullable {α : Type} (name : String) (aliases : List String) (codec : Codec α) :
    Field (Option α) :=
  ⟨name, aliases, codec.optional, some none, fun _ => false⟩

/-- A field that may be missing, and is then left out in writing. -/
def omissible {α : Type} (name : String) (codec : Codec α) : Field (Option α) :=
  ⟨name, [], codec.optional, some none, Option.isNone⟩

variable {α : Type}

/-- Whether a key names the field. -/
def isNamed (f : Field α) (key : String) : Bool := key == f.name || f.aliases.contains key

/-- The first member that a field has. -/
def member? (f : Field α) : List (Json × Json) → Option (String × Json)
  | (.string (some key), v) :: ms => if f.isNamed key then some (key, v) else f.member? ms
  | _ :: ms => f.member? ms
  | [] => none

/-- The value of a field in an object. -/
def ofMembers (f : Field α) (ms : List (Json × Json)) : Except Fault α :=
  match f.member? ms with
  | some (key, v) => (f.codec.read v).mapError (Fault.within (.member key))
  | none =>
    match f.absent with
    | some a => .ok a
    | none => .error (.mismatch none (.missingField f.name))

/-- The member that is written for a value. -/
def toMembers (f : Field α) (a : α) : List (String × Json) :=
  if f.isOmitted a then [] else [(f.name, f.codec.write a)]

end Field

/-- The fields of a record, with a tuple of their values. -/
inductive Fields : Type → Type 1 where
  | nil : Fields Unit
  | cons {α β : Type} (f : Field α) (fs : Fields β) : Fields (α × β)

namespace Fields

/-- The number of fields. -/
def size {β : Type} : Fields β → Nat
  | nil => 0
  | cons _ fs => fs.size + 1

/-- The field that a key names, with what its values must satisfy. -/
def find? {β : Type} (key : String) : Fields β → Option (String × (Json → Except Fault Unit))
  | nil => none
  | cons f fs =>
    if f.isNamed key then some (f.name, fun v => (f.codec.read v).map fun _ => ()) else fs.find? key

/-- Look at members in the order of the text, given the fields that came before. -/
def scan {β : Type} (fs : Fields β) (seen : List String) : List (Json × Json) → Except Fault Unit
  | [] => .ok ()
  | (.string (some key), v) :: ms =>
    match fs.find? key with
    | none => if v.isWhole then fs.scan seen ms else .error .malformed
    | some (name, accepts) =>
      if seen.contains name then .error (.mismatch none (.duplicateField name))
      else
        match accepts v with
        | .error fault => .error (fault.within (.member key))
        | .ok () => fs.scan (name :: seen) ms
  | _ :: _ => .error .malformed

/-- The values of the fields in an object. -/
def ofMembers {β : Type} (ms : List (Json × Json)) : Fields β → Except Fault β
  | nil => .ok ()
  | cons f fs => do
    let a ← f.ofMembers ms
    let b ← fs.ofMembers ms
    return (a, b)

/-- The values of the fields in the items of an array from an index on.  A shorter array is a fault
unless the fields that it lacks may be absent, and a longer one is no JSON of the record. -/
def ofItems {β : Type} (expected : String) (closed : Bool) :
    Nat → List Json → Fields β → Except Fault β
  | _, vs, nil => if vs.isEmpty && closed then .ok () else .error .malformed
  | i, v :: vs, cons f fs => do
    let a ← (f.codec.read v).mapError (Fault.within (.item i))
    let b ← fs.ofItems expected closed (i + 1) vs
    return (a, b)
  | i, [], cons f fs =>
    if closed then
      match f.absent with
      | none => .error (.mismatch none (.invalidLength i expected))
      | some a => do
        let b ← fs.ofItems expected closed (i + 1) []
        return (a, b)
    else .error .malformed

/-- The members that are written for values. -/
def toMembers {β : Type} : Fields β → β → List (String × Json)
  | nil, () => []
  | cons f fs, (a, b) => f.toMembers a ++ fs.toMembers b

end Fields

/-- A type whose values are records: its name in messages, its fields, and how they make up a
value. -/
structure Record (ρ : Type) where
  name : String
  {β : Type}
  fields : Fields β
  pack : β → ρ
  unpack : ρ → β

namespace Record

variable {ρ : Type}

/-- What messages call the record. -/
def expectation (r : Record ρ) : String := "struct " ++ r.name

/-- What messages call an array of the record's values. -/
def lengthExpectation (r : Record ρ) : String :=
  r.expectation ++ " with " ++ toString r.fields.size ++ " elements"

/-- Read a record from an object or an array. -/
def read (r : Record ρ) : Json → Except Fault ρ
  | .object ms closed => do
    r.fields.scan [] ms
    if closed then
      let b ← r.fields.ofMembers ms
      return r.pack b
    else throw .malformed
  | .array items closed => do
    let b ← r.fields.ofItems r.lengthExpectation closed 0 items
    return r.pack b
  | v => .error (unexpected v r.expectation)

/-- Write a record as an object. -/
def write (r : Record ρ) (a : ρ) : Json := Json.ofMembers (r.fields.toMembers (r.unpack a))

/-- Records as JSON. -/
def codec (r : Record ρ) : Codec ρ := ⟨r.read, r.write⟩

end Record

end Admission.Json
