/-!
# Punycode

A label of a host name that is not ASCII is written in ASCII by the encoding of RFC 3492: the ASCII
characters first, then for each other character, in ascending order, how far it is from the one
before, in variable-length digits of base 36.

## Main results

* `length_readDistance`: reading a distance uses up some digits.
-/

namespace Admission.Net.Punycode

/-- The digit of a value below thirty-six. -/
def digit (d : Nat) : Char := if d < 26 then Char.ofNat (97 + d) else Char.ofNat (22 + d)

/-- The value of a digit, in either case. -/
def digitValue? (c : Char) : Option Nat :=
  if c.isDigit then some (c.toNat - 22)
  else if c.isAlpha then some (c.toLower.toNat - 97)
  else none

/-- The least value that makes a digit not the last one. -/
def threshold (k bias : Nat) : Nat :=
  if k ≤ bias then 1 else if bias + 26 ≤ k then 26 else k - bias

theorem one_le_threshold (k bias : Nat) : 1 ≤ threshold k bias := by
  unfold threshold
  split
  · omega
  · split <;> omega

/-- The digits of a distance. -/
def digits (bias k q : Nat) : List Char :=
  let t := threshold k bias
  if q < t then [digit q]
  else digit (t + (q - t) % (36 - t)) :: digits bias (k + 36) ((q - t) / (36 - t))
termination_by q
decreasing_by
  have := one_le_threshold k bias
  exact Nat.lt_of_le_of_lt (Nat.div_le_self _ _) (by omega)

/-- Divide by 35 until at most 455 is left, counting 36 for each division. -/
def shrink (delta k : Nat) : Nat × Nat :=
  if 455 < delta then shrink (delta / 35) (k + 36) else (delta, k)
termination_by delta
decreasing_by exact Nat.div_lt_self (by omega) (by omega)

/-- The bias after a distance was written. -/
def adapt (delta written : Nat) (isFirst : Bool) : Nat :=
  let d := if isFirst then delta / 700 else delta / 2
  let (d, k) := shrink (d + d / written) 0
  k + 36 * d / (d + 38)

/-! ## Writing -/

/-- What was written so far: digits, distance since the last, bias, and number of characters. -/
structure State where
  out : List Char
  delta : Nat
  bias : Nat
  written : Nat

/-- Pass a character of the label while the character `m` is being written. -/
def pass (basic m : Nat) (s : State) (c : Char) : State :=
  if c.toNat < m then { s with delta := s.delta + 1 }
  else if c.toNat = m then
    ⟨s.out ++ digits s.bias 36 s.delta, 0, adapt s.delta (s.written + 1) (s.written == basic),
      s.written + 1⟩
  else s

/-- Write the characters with the given code points, which ascend; `n` is the first one that may
come next. -/
def writeAll (label : List Char) (basic : Nat) : List Nat → Nat → State → State
  | [], _, s => s
  | m :: ms, n, s =>
    let s := { s with delta := s.delta + (m - n) * (s.written + 1) }
    let s := label.foldl (pass basic m) s
    writeAll label basic ms (m + 1) { s with delta := s.delta + 1 }

/-- The encoding of a label. -/
def encode (label : List Char) : List Char :=
  let ascii := label.filter fun c => c.toNat < 128
  let others := ((label.map Char.toNat).filter (128 ≤ ·)).mergeSort.eraseDups
  let s := writeAll label ascii.length others 128 ⟨[], 0, 72, ascii.length⟩
  ascii ++ (if ascii.isEmpty then [] else ['-']) ++ s.out

/-! ## Reading -/

/-- Add a distance to `i`, of which the next digit counts `weight`; with it what follows. -/
def readDistance? (bias k weight i : Nat) : List Char → Option (Nat × List Char)
  | [] => none
  | c :: cs => do
    let d ← digitValue? c
    let t := threshold k bias
    if d < t then some (i + d * weight, cs)
    else readDistance? bias (k + 36) (weight * (36 - t)) (i + d * weight) cs

/-- Reading a distance uses up some digits. -/
theorem length_readDistance {bias k weight i n : Nat} {cs rest : List Char}
    (h : readDistance? bias k weight i cs = some (n, rest)) : rest.length < cs.length := by
  induction cs generalizing k weight i with
  | nil => simp [readDistance?] at h
  | cons c cs ih =>
    rw [readDistance?] at h
    cases hd : digitValue? c with
    | none => simp [hd] at h
    | some d =>
      simp only [hd, Option.bind_eq_bind, Option.bind_some] at h
      split at h
      · simp only [Option.some.injEq, Prod.mk.injEq] at h
        simp [← h.2]
      · have := ih h
        simp only [List.length_cons]
        omega

/-- Put in characters one after the other.  The next one is at least `n`, and its place is counted
from `i`. -/
def insertAll (bias n i : Nat) (out : List Char) (cs : List Char) : Option (List Char) :=
  match cs with
  | [] => some out
  | c :: cs =>
    match _h : readDistance? bias 36 1 i (c :: cs) with
    | none => none
    | some (j, rest) =>
      let size := out.length + 1
      let m := n + j / size
      if m.isValidChar then
        insertAll (adapt (j - i) size (i == 0)) m (j % size + 1)
          (out.insertIdx (j % size) (Char.ofNat m)) rest
      else none
termination_by cs.length
decreasing_by exact length_readDistance _h

/-- The label of which a text is the encoding. -/
def decode? (cs : List Char) : Option (List Char) :=
  let digits := (cs.reverse.takeWhile (· != '-')).reverse
  let ascii := cs.take (cs.length - digits.length - 1)
  if ascii.isEmpty then insertAll 72 128 0 [] cs
  else if ascii.all fun c => c.toNat < 128 then insertAll 72 128 0 ascii digits
  else none

end Admission.Net.Punycode
