import Admission.Json.Lexer

/-!
# JSON values

A value is kept in the order in which it was written, and may be incomplete: reading stops at the
first fault of the text, what it came to so far stays, and the fault stands as `cut` where a value
was due or as a container that is not closed.  So what is wrong with a value can be told in the
order of the text, whatever its kind.

Any value may stand where a key is due, because it depends on the reader whether that is a fault of
the text.  The tokens of a value are those that it was read from, up to the first fault.

## Main results

* `isWhole_object`, `isWhole_array`: when a value is complete.
-/

namespace Admission

open Admission.Json Admission.Text

/-- A value, or what came of it before a fault. -/
inductive Json where
  | null
  | bool (b : Bool)
  | number (x : Numeral)
  | string (text : Option String)
  | array (items : List Json) (closed : Bool)
  | object (members : List (Json × Json)) (closed : Bool)
  | cut
  deriving Repr, BEq, Inhabited

namespace Json

/-! ## Reading -/

/-- A container that is being read, with what it holds so far, last first. -/
inductive Frame where
  /-- An array. -/
  | array (items : List Json)
  /-- An object in which a key is due or was just read. -/
  | key (members : List (Json × Json))
  /-- An object in which the value of a key is due or was just read. -/
  | member (members : List (Json × Json)) (key : Json)
  deriving Repr

/-- A value with all that holds it, none of it closed. -/
def abandon (v : Json) : List Frame → Json
  | [] => v
  | .array items :: stack => abandon (.array (v :: items).reverse false) stack
  | .key members :: stack => abandon (.object ((v, .cut) :: members).reverse false) stack
  | .member members key :: stack => abandon (.object ((key, v) :: members).reverse false) stack

mutual

/-- Read on where a value is due. -/
def expect (stack : List Frame) : List Token → Json × List Token
  | .null :: ts => proceed .null stack ts
  | .bool b :: ts => proceed (.bool b) stack ts
  | .number x :: ts => proceed (.number x) stack ts
  | .string text :: ts => proceed (.string text) stack ts
  | .openArray :: .closeArray :: ts => proceed (.array [] true) stack ts
  | .openArray :: ts => expect (.array [] :: stack) ts
  | .openObject :: .closeObject :: ts => proceed (.object [] true) stack ts
  | .openObject :: ts => expect (.key [] :: stack) ts
  | ts => (abandon .cut stack, ts)

/-- Read on after a value. -/
def proceed (v : Json) : List Frame → List Token → Json × List Token
  | [], ts => (v, ts)
  | .array items :: stack, .comma :: ts => expect (.array (v :: items) :: stack) ts
  | .array items :: stack, .closeArray :: ts => proceed (.array (v :: items).reverse true) stack ts
  | .key members :: stack, .colon :: ts => expect (.member members v :: stack) ts
  | .member members key :: stack, .comma :: ts => expect (.key ((key, v) :: members) :: stack) ts
  | .member members key :: stack, .closeObject :: ts =>
    proceed (.object ((key, v) :: members).reverse true) stack ts
  | stack, ts => (abandon v stack, ts)

end

/-- The first value of a text, and the tokens after it. -/
def ofTokens (ts : List Token) : Json × List Token := expect [] ts

/-- The first value of a text, and the tokens after it. -/
def ofSymbols (xs : List Symbol) : Json × List Token := ofTokens (lex xs)

/-! ## Completeness -/

mutual

/-- A value without a fault of the text. -/
def isWhole : Json → Bool
  | .array items closed => closed && itemsWhole items
  | .object members closed => closed && membersWhole members
  | .cut => false
  | .null => true
  | .bool _ => true
  | .number _ => true
  | .string _ => true

/-- Every item is without a fault. -/
def itemsWhole : List Json → Bool
  | [] => true
  | v :: vs => v.isWhole && itemsWhole vs

/-- Every key is a string and every value without a fault. -/
def membersWhole : List (Json × Json) → Bool
  | [] => true
  | (k, v) :: ms => (match k with | .string _ => true | _ => false) && v.isWhole && membersWhole ms

end

/-! ## Writing -/

mutual

/-- The tokens of a value. -/
def tokens : Json → List Token
  | .null => [.null]
  | .bool b => [.bool b]
  | .number x => [.number x]
  | .string text => [.string text]
  | .array items closed => .openArray :: itemTokens items ++ if closed then [.closeArray] else []
  | .object members closed =>
    .openObject :: memberTokens members ++ if closed then [.closeObject] else []
  | .cut => [.fault]

/-- The tokens of items, with commas between them. -/
def itemTokens : List Json → List Token
  | [] => []
  | [v] => v.tokens
  | v :: vs => v.tokens ++ .comma :: itemTokens vs

/-- The tokens of members, with commas between them. -/
def memberTokens : List (Json × Json) → List Token
  | [] => []
  | [(k, v)] => k.tokens ++ .colon :: v.tokens
  | (k, v) :: ms => k.tokens ++ .colon :: v.tokens ++ .comma :: memberTokens ms

end

/-- The compact text of a value, character by character. -/
def chars (v : Json) : List Char := v.tokens.flatMap Token.chars

/-- The compact text of a value. -/
def text (v : Json) : String := String.ofList v.chars

/-- The start of a line at a depth; two blanks stand for each level. -/
def newLine (depth : Nat) : List Char := '\n' :: List.replicate (2 * depth) ' '

mutual

/-- The text of a value over several lines, at a depth. -/
def prettyChars (depth : Nat) : Json → List Char
  | .array [] _ => ['[', ']']
  | .object [] _ => ['\x7b', '\x7d']
  | .array items _ => '[' :: prettyItems (depth + 1) items ++ newLine depth ++ [']']
  | .object members _ => '\x7b' :: prettyMembers (depth + 1) members ++ newLine depth ++ ['\x7d']
  | .null => Token.null.chars
  | .bool b => (Token.bool b).chars
  | .number x => (Token.number x).chars
  | .string text => (Token.string text).chars
  | .cut => []

/-- Items, each on lines of its own. -/
def prettyItems (depth : Nat) : List Json → List Char
  | [] => []
  | [v] => newLine depth ++ prettyChars depth v
  | v :: vs => newLine depth ++ prettyChars depth v ++ ',' :: prettyItems depth vs

/-- Members, each on lines of its own, with a blank after each colon. -/
def prettyMembers (depth : Nat) : List (Json × Json) → List Char
  | [] => []
  | [(k, v)] =>
    newLine depth ++ prettyChars depth k ++ ':' :: ' ' :: prettyChars depth v
  | (k, v) :: ms =>
    newLine depth ++ prettyChars depth k ++ ':' :: ' ' :: prettyChars depth v ++
      ',' :: prettyMembers depth ms

end

/-- The text of a value over several lines. -/
def pretty (v : Json) : String := String.ofList (v.prettyChars 0)

/-! ## Simple values -/

/-- A string value. -/
def ofText (s : String) : Json := .string (some s)

/-- A number value. -/
def ofInt (n : Int) : Json := .number (.ofInt n)

/-- A complete object. -/
def ofMembers (ms : List (String × Json)) : Json :=
  .object (ms.map fun (k, v) => (ofText k, v)) true

theorem isWhole_array (items : List Json) (closed : Bool) :
    (array items closed).isWhole = (closed && itemsWhole items) := by
  rw [isWhole]

theorem isWhole_object (members : List (Json × Json)) (closed : Bool) :
    (object members closed).isWhole = (closed && membersWhole members) := by
  rw [isWhole]

end Json

end Admission
