import Admission.Text.Blank

/-!
# Languages of job code

Jobs are written in one of two languages.  Each has one canonical name and some further names under
which executors send it; names are read without regard to surrounding blanks and ASCII case.

## Main results

* `Language.ofName?_name`: the canonical name is read as its language.
-/

namespace Admission

open Admission.Text

/-- A language that executors run. -/
inductive Language where
  | python
  | node
  deriving DecidableEq, Repr

namespace Language

/-- Every language, in the order in which they are listed to callers. -/
def all : List Language := [.python, .node]

/-- The canonical name. -/
def name : Language → String
  | .python => "python"
  | .node => "node"

/-- The names that are read as the language, the canonical one first. -/
def names : Language → List String
  | .python => ["python", "python3", "py"]
  | .node => ["node", "nodejs", "javascript", "js"]

/-- The language with a given name. -/
def ofName? (s : String) : Option Language :=
  all.find? fun l => l.names.contains (asciiLower (trim s))

/-- The language whose canonical name it is, letter for letter. -/
def ofCanonicalName? (s : String) : Option Language := all.find? fun l => l.name == s

/-- The canonical names as one list for messages. -/
def supported : String := ", ".intercalate (all.map name)

@[simp] theorem ofCanonicalName?_name (l : Language) : ofCanonicalName? l.name = some l := by
  cases l <;> rfl

@[simp] theorem ofName?_name (l : Language) : ofName? l.name = some l := by
  cases l <;> decide +kernel

/-- The complaint about a name that is read as no language. -/
def unknownMessage (s : String) : String := "unsupported language: " ++ s

end Language

end Admission
