/-!
# Checks in a row

Whatever can be refused is a row of checks, each of which gives a value or the cause of the refusal,
and the first cause ends the row.  The lemmas here say when such a row succeeds, so that a proof
takes it apart check by check, and what it is refused for, if none of its checks depends on the one
before.

## Main results

* `bind_eq_ok_iff`: a row succeeds exactly if each check in it does.
* `cause?_bind`: what a row is refused for.
* `ChecksAlike.bind`: two rows side by side.
-/

namespace Admission

variable {ε ε' α β : Type}

/-- Two checks in a row succeed exactly if the first does, and the second does on what it returned.
-/
theorem bind_eq_ok_iff {x : Except ε α} {f : α → Except ε β} {b : β} :
    (x >>= f) = .ok b ↔ ∃ a, x = .ok a ∧ f a = .ok b := by
  cases x with
  | error e =>
      constructor
      · intro h
        cases h
      · rintro ⟨a, hFirst, _⟩
        cases hFirst
  | ok a =>
      constructor
      · intro h
        exact ⟨a, rfl, h⟩
      · rintro ⟨a', hFirst, hSecond⟩
        cases hFirst
        exact hSecond

theorem ok_bind (a : α) (f : α → Except ε β) : ((Except.ok a : Except ε α) >>= f) = f a := rfl

theorem pure_eq_ok_iff {a b : α} : (pure a : Except ε α) = .ok b ↔ a = b := by
  constructor
  · intro h
    cases h
    rfl
  · rintro rfl
    rfl

/-- Another wording of the cause refuses nothing more. -/
theorem mapError_eq_ok_iff {x : Except ε α} {f : ε → ε'} {a : α} :
    x.mapError f = .ok a ↔ x = .ok a := by
  cases x with
  | error e =>
      constructor
      · intro h
        cases h
      · intro h
        cases h
  | ok b =>
      constructor
      · intro h
        cases h
        rfl
      · intro h
        cases h
        rfl

/-- Two checks that look the same through a function are refused for one cause, or both return
values that do. -/
theorem alike_of_map_eq {x x' : Except ε α} {f : α → β} (h : x.map f = x'.map f) :
    (∃ e, x = .error e ∧ x' = .error e) ∨ ∃ a a', x = .ok a ∧ x' = .ok a' ∧ f a = f a' := by
  cases x with
  | error e =>
      cases x' with
      | error e' =>
          cases h
          exact .inl ⟨e, rfl, rfl⟩
      | ok a' => cases h
  | ok a =>
      cases x' with
      | error e' => cases h
      | ok a' => exact .inr ⟨a, a', rfl, rfl, Except.ok.inj h⟩

/-- What goes on alike, as seen through a function, after a check is alike with it. -/
theorem map_bind_congr {γ : Type} {x : Except ε α} {f f' : α → Except ε β} {g : β → γ}
    (h : ∀ a, (f a).map g = (f' a).map g) : (x >>= f).map g = (x >>= f').map g := by
  cases x with
  | error e => rfl
  | ok a => exact h a

/-- Two checks are refused for one cause, or both return values, and these are related. -/
inductive ChecksAlike (R : α → β → Prop) : Except ε α → Except ε β → Prop
  | refused (e : ε) : ChecksAlike R (.error e) (.error e)
  | passed {a : α} {b : β} (h : R a b) : ChecksAlike R (.ok a) (.ok b)

/-- Rows that go on alike from related values are alike. -/
theorem ChecksAlike.bind {γ δ : Type} {R : α → β → Prop} {S : γ → δ → Prop}
    {x : Except ε α} {y : Except ε β} {f : α → Except ε γ} {g : β → Except ε δ}
    (h : ChecksAlike R x y) (hRest : ∀ a b, R a b → ChecksAlike S (f a) (g b)) :
    ChecksAlike S (x >>= f) (y >>= g) := by
  cases h with
  | refused e => exact .refused e
  | passed h => exact hRest _ _ h

/-- A check goes on alike from whatever it returns. -/
theorem ChecksAlike.bind_same {γ δ : Type} {S : γ → δ → Prop} {x : Except ε α}
    {f : α → Except ε γ} {g : α → Except ε δ} (hRest : ∀ a, ChecksAlike S (f a) (g a)) :
    ChecksAlike S (x >>= f) (x >>= g) := by
  cases x with
  | error e => exact .refused e
  | ok a => exact hRest a

/-! ## Causes -/

/-- What a refused check is refused for. -/
def cause? : Except ε α → Option ε
  | .error e => some e
  | .ok _ => none

@[simp] theorem cause?_error (e : ε) : cause? (.error e : Except ε α) = some e := rfl

@[simp] theorem cause?_ok (a : α) : cause? (.ok a : Except ε α) = none := rfl

theorem cause?_eq_some_iff {x : Except ε α} {e : ε} :
    cause? x = some e ↔ x = .error e := by
  cases x <;> simp

theorem cause?_eq_none_iff {x : Except ε α} :
    cause? x = none ↔ ∃ a, x = .ok a := by
  cases x <;> simp

theorem cause?_isSome_iff {x : Except ε α} : (cause? x).isSome ↔ ¬∃ a, x = .ok a := by
  cases x <;> simp

/-- A row is refused for what its first check is refused for, or else for what the rest of it is. -/
theorem cause?_bind {x : Except ε α} {f : α → Except ε β} {rest : Option ε}
    (h : ∀ a, x = .ok a → cause? (f a) = rest) :
    cause? (x >>= f) = (cause? x).or rest := by
  cases x with
  | error e => rfl
  | ok a => exact h a rfl

theorem findSome?_cons_or (f : α → Option β) (a : α) (as : List α) :
    (a :: as).findSome? f = (f a).or (as.findSome? f) := by
  rw [List.findSome?_cons]
  cases f a <;> rfl

theorem findSome?_congr {f g : α → Option β} {as : List α}
    (h : ∀ a ∈ as, f a = g a) : as.findSome? f = as.findSome? g := by
  have hMap : (as.map f).findSome? id = (as.map g).findSome? id := by
    rw [List.map_congr_left h]
  simpa only [List.findSome?_map, Function.id_comp] using hMap

end Admission
