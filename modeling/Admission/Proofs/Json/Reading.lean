import Admission.Json.Basic
import Admission.Proofs.Json.Lexing

/-!
# Written values are read

A value without a fault reads back from its text, written on one line or on several.  The text
spells the tokens of the value, and from its tokens the value is put together again, container by
container.

## Main results

* `IsSound.isWhole`: a value without a fault is complete.
* `IsSound.spells`, `IsSound.spells_pretty`: both texts of a value spell its tokens.
* `IsSound.expect_tokens`: the tokens of a value are read as the value, in every container.
* `IsSound.ofSymbols_chars`: a value reads back from its text.
-/

namespace Admission.Json

open Admission.Text

/-- A value without a fault: every container is closed, every key is a string, and every numeral
can be read. -/
inductive IsSound : Json → Prop
  | null : IsSound .null
  | bool (b : Bool) : IsSound (.bool b)
  | number {x : Numeral} (hx : x.IsSound) : IsSound (.number x)
  | string (text : Option String) : IsSound (.string text)
  | array {items : List Json} (hItems : ∀ v ∈ items, IsSound v) : IsSound (.array items true)
  | object {members : List (Json × Json)} (hKeys : ∀ m ∈ members, ∃ text, m.1 = .string text)
      (hValues : ∀ m ∈ members, IsSound m.2) : IsSound (.object members true)

/-! ## Values that are written -/

/-- No zero stands in front of a number but zero itself. -/
theorem head?_toDigits_ne {n : Nat} (h : 0 < n) : (Nat.toDigits 10 n).head? ≠ some '0' := by
  induction n using Nat.strongRecOn with
  | ind n ih =>
      by_cases hn : n < 10
      · have hDigits : ∀ d < 10, 0 < d → [Nat.digitChar d].head? ≠ some '0' := by decide
        rw [Nat.toDigits_of_lt_base hn]
        exact hDigits n hn h
      · obtain ⟨d, ds, hd⟩ := List.exists_cons_of_ne_nil
          (Nat.toDigits_ne_nil (n := n / 10) (b := 10))
        have hHead := ih (n / 10) (by omega) (by omega)
        rw [Nat.toDigits_of_base_le (by decide) (by omega), hd]
        rwa [hd] at hHead

theorem Numeral.isSound_ofInt (n : Int) : (Numeral.ofInt n).IsSound where
  whole_ne_nil := Nat.toDigits_ne_nil
  whole_digits := fun _ hc => Nat.isDigit_of_mem_toDigits (by decide) (by decide) hc
  no_zero := by
    intro cs hcs
    by_cases hn : n.natAbs = 0
    · rw [Numeral.ofInt, hn] at hcs
      cases hcs
      rfl
    · have := head?_toDigits_ne (Nat.pos_of_ne_zero hn)
      simp only [Numeral.ofInt] at hcs
      rw [hcs] at this
      exact absurd rfl this
  fraction_digits := fun _ hc => absurd hc List.not_mem_nil
  exponent_ne_nil := fun _ he => nomatch he
  exponent_digits := fun _ he => nomatch he

theorem isSound_ofText (s : String) : (ofText s).IsSound := .string _

theorem isSound_ofInt (n : Int) : (ofInt n).IsSound := .number (Numeral.isSound_ofInt n)

theorem isSound_ofMembers {ms : List (String × Json)} (h : ∀ m ∈ ms, m.2.IsSound) :
    (ofMembers ms).IsSound := by
  refine .object ?_ ?_
  · intro m hm
    obtain ⟨⟨k, v⟩, -, rfl⟩ := List.mem_map.1 hm
    exact ⟨_, rfl⟩
  · intro m hm
    obtain ⟨⟨k, v⟩, hk, rfl⟩ := List.mem_map.1 hm
    exact h _ hk

/-! ## Values without a fault are complete -/

theorem itemsWhole_eq_true {items : List Json} (h : ∀ v ∈ items, v.isWhole = true) :
    itemsWhole items = true := by
  induction items with
  | nil => rfl
  | cons v vs ih =>
      obtain ⟨hv, hvs⟩ := List.forall_mem_cons.1 h
      rw [itemsWhole, hv, ih hvs]
      rfl

theorem membersWhole_eq_true {members : List (Json × Json)}
    (hKeys : ∀ m ∈ members, ∃ text, m.1 = .string text)
    (hValues : ∀ m ∈ members, m.2.isWhole = true) : membersWhole members = true := by
  induction members with
  | nil => rfl
  | cons m ms ih =>
      obtain ⟨⟨text, hKey⟩, hLaterKeys⟩ := List.forall_mem_cons.1 hKeys
      obtain ⟨hValue, hLaterValues⟩ := List.forall_mem_cons.1 hValues
      obtain ⟨k, v⟩ := m
      obtain rfl : k = .string text := hKey
      rw [membersWhole, hValue, ih hLaterKeys hLaterValues]
      rfl

theorem IsSound.isWhole {v : Json} (hv : v.IsSound) : v.isWhole = true := by
  induction hv with
  | array _ ih =>
      rw [isWhole_array, itemsWhole_eq_true ih]
      rfl
  | object hKeys _ ih =>
      rw [isWhole_object, membersWhole_eq_true hKeys ih]
      rfl
  | _ => rw [Json.isWhole]

/-! ## From tokens to text -/

theorem spells_itemTokens {items : List Json} (h : ∀ v ∈ items, Spells v.chars v.tokens) :
    Spells ((itemTokens items).flatMap Token.chars) (itemTokens items) := by
  match items with
  | [] => exact .nil
  | [v] => exact h v List.mem_cons_self
  | v :: w :: vs =>
      have hRest := spells_itemTokens fun u hu => h u (List.mem_cons_of_mem v hu)
      have hComma := Spells.cons (t := .comma) trivial rfl hRest
      rw [itemTokens.eq_3 _ _ (by simp), List.flatMap_append, List.flatMap_cons]
      exact (h v List.mem_cons_self).append rfl hComma

theorem spells_memberTokens {members : List (Json × Json)}
    (hKeys : ∀ m ∈ members, ∃ text, m.1 = .string text)
    (hValues : ∀ m ∈ members, Spells m.2.chars m.2.tokens) :
    Spells ((memberTokens members).flatMap Token.chars) (memberTokens members) := by
  match members with
  | [] => exact .nil
  | [(k, v)] =>
      obtain ⟨text, rfl⟩ := hKeys _ List.mem_cons_self
      have hValue := Spells.cons (t := .colon) trivial rfl (hValues _ List.mem_cons_self)
      exact Spells.cons (t := .string text) trivial rfl hValue
  | (k, v) :: m :: ms =>
      obtain ⟨text, rfl⟩ := hKeys _ List.mem_cons_self
      have hRest := spells_memberTokens (fun n hn => hKeys n (List.mem_cons_of_mem _ hn))
        fun n hn => hValues n (List.mem_cons_of_mem _ hn)
      have hComma := Spells.cons (t := .comma) trivial rfl hRest
      have hValue := (hValues _ List.mem_cons_self).append rfl hComma
      have hColon := Spells.cons (t := .colon) trivial rfl hValue
      rw [memberTokens.eq_3 _ _ _ (by simp)]
      simpa [tokens, chars] using Spells.cons (t := .string text) trivial rfl hColon

/-- The text of a value on one line spells its tokens. -/
theorem IsSound.spells {v : Json} (hv : v.IsSound) : Spells v.chars v.tokens := by
  induction hv with
  | null => simpa [tokens, chars] using Spells.token (t := .null) trivial
  | bool b => simpa [tokens, chars] using Spells.token (t := .bool b) trivial
  | @number x hx => simpa [tokens, chars] using Spells.token (t := .number x) hx
  | string text => simpa [tokens, chars] using Spells.token (t := .string text) trivial
  | array _ ih =>
      have hClose := (spells_itemTokens ih).append rfl
        (Spells.token (t := .closeArray) trivial)
      simpa [tokens, chars] using Spells.cons (t := .openArray) trivial rfl hClose
  | object hKeys _ ih =>
      have hClose := (spells_memberTokens hKeys ih).append rfl
        (Spells.token (t := .closeObject) trivial)
      simpa [tokens, chars] using Spells.cons (t := .openObject) trivial rfl hClose

theorem isSpace_newLine (depth : Nat) : ∀ c ∈ newLine depth, isSpace (some c) = true := by
  intro c hc
  simp only [newLine, List.mem_cons, List.mem_replicate] at hc
  rcases hc with rfl | ⟨-, rfl⟩ <;> decide

theorem spells_prettyItems {depth : Nat} {items : List Json}
    (h : ∀ v ∈ items, Spells (v.prettyChars depth) v.tokens) :
    Spells (prettyItems depth items) (itemTokens items) := by
  match items with
  | [] => exact .nil
  | [v] => exact .blanks (isSpace_newLine depth) (h v List.mem_cons_self)
  | v :: w :: vs =>
      have hRest := spells_prettyItems fun u hu => h u (List.mem_cons_of_mem v hu)
      have hComma := Spells.cons (t := .comma) trivial rfl hRest
      have hItem := (h v List.mem_cons_self).append rfl hComma
      rw [itemTokens.eq_3 _ _ (by simp), prettyItems.eq_3 _ _ _ (by simp), List.append_assoc]
      exact .blanks (isSpace_newLine depth) hItem

theorem spells_prettyMembers {depth : Nat} {members : List (Json × Json)}
    (hKeys : ∀ m ∈ members, ∃ text, m.1 = .string text)
    (hValues : ∀ m ∈ members, Spells (m.2.prettyChars depth) m.2.tokens) :
    Spells (prettyMembers depth members) (memberTokens members) := by
  have hBlank : ∀ c ∈ [' '], isSpace (some c) = true := by
    intro c hc
    rw [List.mem_singleton.1 hc]
    decide
  match members with
  | [] => exact .nil
  | [(k, v)] =>
      obtain ⟨text, rfl⟩ := hKeys _ List.mem_cons_self
      have hValue := Spells.blanks hBlank (hValues _ List.mem_cons_self)
      have hColon := Spells.cons (t := .colon) trivial rfl hValue
      have hKey := Spells.cons (t := .string text) trivial rfl hColon
      simpa [prettyMembers, memberTokens, prettyChars, tokens, Token.chars] using
        Spells.blanks (isSpace_newLine depth) hKey
  | (k, v) :: m :: ms =>
      obtain ⟨text, rfl⟩ := hKeys _ List.mem_cons_self
      have hRest := spells_prettyMembers (fun n hn => hKeys n (List.mem_cons_of_mem _ hn))
        fun n hn => hValues n (List.mem_cons_of_mem _ hn)
      have hComma := Spells.cons (t := .comma) trivial rfl hRest
      have hValue := (hValues _ List.mem_cons_self).append rfl hComma
      have hColon := Spells.cons (t := .colon) trivial rfl (Spells.blanks hBlank hValue)
      have hKey := Spells.cons (t := .string text) trivial rfl hColon
      rw [memberTokens.eq_3 _ _ _ (by simp), prettyMembers.eq_3 _ _ _ _ (by simp)]
      simpa [prettyChars, tokens, Token.chars] using Spells.blanks (isSpace_newLine depth) hKey

/-- The text of a value on several lines spells its tokens. -/
theorem IsSound.spells_pretty {v : Json} (hv : v.IsSound) :
    ∀ depth, Spells (v.prettyChars depth) v.tokens := by
  induction hv with
  | null => exact fun _ => .token (t := .null) trivial
  | bool b => exact fun _ => .token (t := .bool b) trivial
  | @number x hx => exact fun _ => .token (t := .number x) hx
  | string text => exact fun _ => .token (t := .string text) trivial
  | @array items _ ih =>
      intro depth
      cases items with
      | nil => exact .cons (t := .openArray) trivial rfl (.token (t := .closeArray) trivial)
      | cons v vs =>
          have hItems := spells_prettyItems fun u hu => ih u hu (depth + 1)
          have hEnd := Spells.blanks (isSpace_newLine depth)
            (Spells.token (t := .closeArray) trivial)
          have hClose := hItems.append rfl hEnd
          rw [prettyChars.eq_3 _ _ _ (by simp)]
          simpa [tokens, Token.chars] using Spells.cons (t := .openArray) trivial rfl hClose
  | @object members hKeys _ ih =>
      intro depth
      cases members with
      | nil => exact .cons (t := .openObject) trivial rfl (.token (t := .closeObject) trivial)
      | cons m ms =>
          have hMembers := spells_prettyMembers hKeys fun n hn => ih n hn (depth + 1)
          have hEnd := Spells.blanks (isSpace_newLine depth)
            (Spells.token (t := .closeObject) trivial)
          have hClose := hMembers.append rfl hEnd
          rw [prettyChars.eq_4 _ _ _ (by simp)]
          simpa [tokens, Token.chars] using Spells.cons (t := .openObject) trivial rfl hClose

/-! ## From tokens to values -/

/-- The first token of a value closes nothing. -/
theorem IsSound.exists_tokens_eq_cons {v : Json} (hv : v.IsSound) :
    ∃ t ts, v.tokens = t :: ts ∧ t ≠ .closeArray ∧ t ≠ .closeObject := by
  cases hv <;> simp [tokens]

theorem expect_openArray {stack : List Frame} {ts : List Token}
    (h : ts.head? ≠ some .closeArray) :
    expect stack (.openArray :: ts) = expect (.array [] :: stack) ts := by
  rw [expect]
  intro us hus
  exact h (by rw [hus]; rfl)

theorem expect_openObject {stack : List Frame} {ts : List Token}
    (h : ts.head? ≠ some .closeObject) :
    expect stack (.openObject :: ts) = expect (.key [] :: stack) ts := by
  rw [expect]
  intro us hus
  exact h (by rw [hus]; rfl)

section Containers

/-- The tokens of a value are read as the value, whatever holds it and whatever follows. -/
def ReadsOn (v : Json) : Prop :=
  ∀ stack ts, expect stack (v.tokens ++ ts) = proceed v stack ts

/-- Items are read up to the end of their array. -/
theorem expect_itemTokens {items : List Json} (hNe : items ≠ []) (h : ∀ v ∈ items, ReadsOn v)
    (done : List Json) (stack : List Frame) (ts : List Token) :
    expect (.array done :: stack) (itemTokens items ++ .closeArray :: ts) =
      proceed (.array (done.reverse ++ items) true) stack ts := by
  match items with
  | [] => exact absurd rfl hNe
  | [v] =>
      rw [itemTokens, h v List.mem_cons_self, proceed, List.reverse_cons]
  | v :: w :: vs =>
      have hRest := expect_itemTokens (by simp) (fun u hu => h u (List.mem_cons_of_mem v hu))
        (v :: done) stack ts
      rw [itemTokens.eq_3 _ _ (by simp), List.append_assoc, List.cons_append,
        h v List.mem_cons_self, proceed, hRest, List.reverse_cons, List.append_assoc,
        List.cons_append, List.nil_append]

/-- Members are read up to the end of their object. -/
theorem expect_memberTokens {members : List (Json × Json)} (hNe : members ≠ [])
    (hKeys : ∀ m ∈ members, ∃ text, m.1 = .string text) (h : ∀ m ∈ members, ReadsOn m.2)
    (done : List (Json × Json)) (stack : List Frame) (ts : List Token) :
    expect (.key done :: stack) (memberTokens members ++ .closeObject :: ts) =
      proceed (.object (done.reverse ++ members) true) stack ts := by
  match members with
  | [] => exact absurd rfl hNe
  | [(k, v)] =>
      obtain ⟨text, rfl⟩ := hKeys _ List.mem_cons_self
      have hValue := h _ List.mem_cons_self (.member done (.string text) :: stack)
        (.closeObject :: ts)
      rw [memberTokens, tokens, List.append_assoc, List.cons_append, List.nil_append,
        List.cons_append, expect, proceed, hValue, proceed, List.reverse_cons]
  | (k, v) :: m :: ms =>
      obtain ⟨text, rfl⟩ := hKeys _ List.mem_cons_self
      have hValue := h _ List.mem_cons_self (.member done (.string text) :: stack)
        (.comma :: (memberTokens (m :: ms) ++ .closeObject :: ts))
      have hRest := expect_memberTokens (by simp)
        (fun n hn => hKeys n (List.mem_cons_of_mem _ hn))
        (fun n hn => h n (List.mem_cons_of_mem _ hn)) ((.string text, v) :: done) stack ts
      rw [memberTokens.eq_3 _ _ _ (by simp), tokens]
      simp only [List.append_assoc, List.cons_append, List.nil_append]
      rw [expect, proceed, hValue, proceed, hRest, List.reverse_cons, List.append_assoc,
        List.cons_append, List.nil_append]

end Containers

/-- The tokens of a value are read as the value. -/
theorem IsSound.expect_tokens {v : Json} (hv : v.IsSound) : ReadsOn v := by
  induction hv with
  | null => exact fun _ _ => by rw [tokens, List.cons_append, List.nil_append, expect]
  | bool => exact fun _ _ => by rw [tokens, List.cons_append, List.nil_append, expect]
  | number => exact fun _ _ => by rw [tokens, List.cons_append, List.nil_append, expect]
  | string => exact fun _ _ => by rw [tokens, List.cons_append, List.nil_append, expect]
  | @array items hItems ih =>
      intro stack ts
      rw [tokens, if_pos rfl, List.cons_append, List.cons_append, List.append_assoc,
        List.cons_append, List.nil_append]
      match items with
      | [] => rw [itemTokens, List.nil_append, expect]
      | v :: vs =>
          obtain ⟨t, us, ht, hClose, -⟩ := (hItems v List.mem_cons_self).exists_tokens_eq_cons
          rw [expect_openArray, expect_itemTokens (by simp) ih, List.reverse_nil, List.nil_append]
          cases vs <;> simp [itemTokens, ht, hClose]
  | @object members hKeys hValues ih =>
      intro stack ts
      rw [tokens, if_pos rfl, List.cons_append, List.cons_append, List.append_assoc,
        List.cons_append, List.nil_append]
      match members with
      | [] => rw [memberTokens, List.nil_append, expect]
      | m :: ms =>
          rw [expect_openObject, expect_memberTokens (by simp) hKeys ih, List.reverse_nil,
            List.nil_append]
          obtain ⟨text, hk⟩ := hKeys m List.mem_cons_self
          cases ms <;> simp [memberTokens, hk, tokens]

theorem IsSound.ofSymbols_eq {v : Json} (hv : v.IsSound) {cs : List Char}
    (h : Spells cs v.tokens) : ofSymbols (cs.map some) = (v, []) := by
  have hRead := hv.expect_tokens [] []
  rw [List.append_nil] at hRead
  rw [ofSymbols, h.lex, ofTokens, hRead, proceed]

/-- A value reads back from its text on one line. -/
theorem IsSound.ofSymbols_chars {v : Json} (hv : v.IsSound) :
    ofSymbols (v.chars.map some) = (v, []) :=
  hv.ofSymbols_eq hv.spells

theorem IsSound.ofSymbols_text {v : Json} (hv : v.IsSound) {s : String} (h : v.text = s) :
    ofSymbols (s.toList.map some) = (v, []) := by
  rw [← h, text, String.toList_ofList]
  exact hv.ofSymbols_chars

end Admission.Json
