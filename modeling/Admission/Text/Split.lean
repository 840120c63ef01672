/-!
# Cutting texts

A text is cut at characters of a kind, or in two at one of them.

## Main results

* `pieces_ne_nil`: there is a piece, even of no text.
-/

namespace Admission.Text

/-- The pieces of a text between the characters that `cuts` picks; there is always one. -/
def pieces (cuts : Char → Bool) : List Char → List (List Char)
  | [] => [[]]
  | c :: cs =>
    if cuts c then [] :: pieces cuts cs
    else
      match pieces cuts cs with
      | [] => [[c]]
      | p :: ps => (c :: p) :: ps

/-- The part before the first of the given characters, and the part after it if it is there. -/
def splitFirst (c : Char) (cs : List Char) : List Char × Option (List Char) :=
  let before := cs.takeWhile (· != c)
  (before, match cs.drop before.length with
    | [] => none
    | _ :: after => some after)

/-- The parts before and after the last of the given characters. -/
def splitLast? (c : Char) (cs : List Char) : Option (List Char × List Char) :=
  let after := (cs.reverse.takeWhile (· != c)).reverse
  if cs.contains c then some (cs.take (cs.length - after.length - 1), after) else none

theorem pieces_ne_nil (cuts : Char → Bool) (cs : List Char) : pieces cuts cs ≠ [] := by
  induction cs with
  | nil => simp [pieces]
  | cons c cs ih =>
    by_cases h : cuts c = true
    · simp [pieces, h]
    · obtain ⟨p, ps, hp⟩ := List.exists_cons_of_ne_nil ih
      simp [pieces, h, hp]

end Admission.Text
