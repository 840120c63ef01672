import Admission.Proofs.Time.Calendar
import Admission.Time.Rfc3339

/-!
# Written timestamps are read

Each part of a written timestamp is read up to the mark that follows it, and the parts make up the
timestamp again, also in a leap second.

## Main results

* `digitsValue_padded`, `length_padded`: what filled-up digits come to.
* `readYear?_yearChars`, `readDate?_chars`, `readTimeOfDay?_chars`: the parts are read as written.
* `Timestamp.ofText?_text`: a timestamp reads back from its text.
-/

namespace Admission.Time

open Admission.Text

/-! ## Digits -/

theorem digitsValue_replicate_append (k : Nat) (ds : List Char) :
    digitsValue (List.replicate k '0' ++ ds) = digitsValue ds := by
  induction k with
  | zero => rfl
  | succ k ih =>
      rw [List.replicate_succ, List.cons_append, ← ih]
      rfl

/-- Zeros in front do not change the value. -/
theorem digitsValue_padded (width n : Nat) : digitsValue (padded width n) = n := by
  rw [padded, digitsValue_replicate_append, digitsValue_toDigits]

theorem isDigit_of_mem_padded {width n : Nat} : ∀ c ∈ padded width n, c.isDigit = true := by
  intro c hc
  rcases List.mem_append.1 hc with hc | hc
  · rw [(List.mem_replicate.1 hc).2]
    decide
  · exact Nat.isDigit_of_mem_toDigits (by decide) (by decide) hc

theorem padded_ne_nil (width n : Nat) : padded width n ≠ [] := by
  simp [padded, Nat.toDigits_ne_nil]

/-- A number that fits takes up the width. -/
theorem length_padded {width n : Nat} (hWidth : 0 < width) (h : n < 10 ^ width) :
    (padded width n).length = width := by
  have hLength := (Nat.length_toDigits_le_iff (by decide) hWidth).2 h
  rw [padded, List.length_append, List.length_replicate]
  omega

theorem exists_padded_eq_cons (width n : Nat) :
    ∃ d ds, padded width n = d :: ds ∧ d.isDigit = true := by
  obtain ⟨d, ds, h⟩ := List.exists_cons_of_ne_nil (padded_ne_nil width n)
  exact ⟨d, ds, h, isDigit_of_mem_padded d (by rw [h]; exact List.mem_cons_self)⟩

/-! ## Readers -/

/-- A text that does not go on with digits. -/
def EndsDigits (cs : List Char) : Prop := ∀ c ∈ cs.head?, c.isDigit = false

theorem endsDigits_cons {c : Char} (h : c.isDigit = false) (cs : List Char) :
    EndsDigits (c :: cs) := by
  intro d hd
  cases hd
  exact h

theorem takeWhile_isDigit_append {ds rest : List Char} (hds : ∀ c ∈ ds, c.isDigit = true)
    (hRest : EndsDigits rest) : (ds ++ rest).takeWhile Char.isDigit = ds := by
  have hStop : rest.takeWhile Char.isDigit = [] := by
    match rest, hRest with
    | [], _ => rfl
    | c :: cs, hRest => exact List.takeWhile_cons_of_neg (by rw [hRest c rfl]; decide)
  rw [List.takeWhile_append_of_pos hds, hStop, List.append_nil]

/-- Digits are read up to their end, or up to the limit. -/
theorem readDigits?_append {limit : Nat} {ds rest : List Char} (hNe : ds ≠ [])
    (hds : ∀ c ∈ ds, c.isDigit = true)
    (hEnd : ds.length = limit ∨ ds.length ≤ limit ∧ EndsDigits rest) :
    readDigits? limit (ds ++ rest) = some (digitsValue ds, rest) := by
  have hTaken : ((ds ++ rest).takeWhile Char.isDigit).take limit = ds := by
    rcases hEnd with rfl | ⟨hLimit, hRest⟩
    · rw [List.takeWhile_append_of_pos hds, List.take_left]
    · rw [takeWhile_isDigit_append hds hRest, List.take_of_length_le hLimit]
  rw [readDigits?, hTaken, if_neg hNe, List.drop_left]

theorem isBlankChar_of_isDigit {c : Char} (h : c.isDigit = true) : isBlankChar c = false := by
  have hBounds : 48 ≤ c.toNat ∧ c.toNat ≤ 57 := Char.isDigit_iff_toNat.1 h
  simp only [isBlankChar, Bool.or_eq_false_iff, Bool.and_eq_false_iff, decide_eq_false_iff_not,
    beq_eq_false_iff_ne]
  omega

theorem trimStart_cons {c : Char} (h : isBlankChar c = false) (cs : List Char) :
    trimStart (c :: cs) = c :: cs :=
  List.dropWhile_cons_of_neg (by rw [h]; decide)

theorem trimStart_padded_append (width n : Nat) (rest : List Char) :
    trimStart (padded width n ++ rest) = padded width n ++ rest := by
  obtain ⟨d, ds, h, hd⟩ := exists_padded_eq_cons width n
  rw [h, List.cons_append, trimStart_cons (isBlankChar_of_isDigit hd)]

/-- Two digits are read as a part within its bounds. -/
theorem readPart?_padded {low high n : Nat} (hLow : low ≤ n) (hHigh : n ≤ high) (h : n < 100)
    (rest : List Char) : readPart? low high (padded 2 n ++ rest) = some (n, rest) := by
  have hRead : readDigits? 2 (padded 2 n ++ rest) = some (n, rest) := by
    rw [readDigits?_append (padded_ne_nil 2 n) isDigit_of_mem_padded
      (.inl (length_padded (by decide) h)), digitsValue_padded]
  rw [readPart?, trimStart_padded_append, hRead]
  simp only [Option.bind_eq_bind, Option.bind_some]
  rw [if_pos ⟨hLow, hHigh⟩]

theorem readChar?_trimStart {c : Char} (h : isBlankChar c = false) (rest : List Char) :
    readChar? c (trimStart (c :: rest)) = some rest := by
  rw [trimStart_cons h, readChar?, if_pos rfl]

/-! ## Parts of a timestamp -/

/-- A year is read up to the hyphen that follows it. -/
theorem readYear?_yearChars (y : Int) (rest : List Char) :
    readYear? (yearChars y ++ '-' :: rest) = some (y, '-' :: rest) := by
  have hEnds : EndsDigits ('-' :: rest) := endsDigits_cons (by decide) rest
  unfold yearChars
  split
  · next hy =>
    obtain ⟨d, ds, hd, hDigit⟩ := exists_padded_eq_cons 4 y.toNat
    have hRead : readDigits? 4 (padded 4 y.toNat ++ '-' :: rest) = some (y.toNat, '-' :: rest) := by
      rw [readDigits?_append (padded_ne_nil 4 _) isDigit_of_mem_padded
        (.inl (length_padded (by decide) (by omega))), digitsValue_padded]
    unfold readYear?
    rw [trimStart_padded_append, hd, List.cons_append]
    split
    · next h =>
      cases h
      exact absurd hDigit (by decide)
    · next h =>
      cases h
      exact absurd hDigit (by decide)
    · rw [← List.cons_append, ← hd, hRead, Option.map_some]
      simp only [Int.toNat_of_nonneg hy.1]
  · have hRead : readDigits? (padded 4 y.natAbs ++ '-' :: rest).length
        (padded 4 y.natAbs ++ '-' :: rest) = some (y.natAbs, '-' :: rest) := by
      have hLength : (padded 4 y.natAbs).length ≤ (padded 4 y.natAbs ++ '-' :: rest).length := by
        rw [List.length_append]
        omega
      rw [readDigits?_append (padded_ne_nil 4 _) isDigit_of_mem_padded (.inr ⟨hLength, hEnds⟩),
        digitsValue_padded]
    split
    · next hNeg =>
      have hValue : -(y.natAbs : Int) = y := by omega
      rw [List.cons_append, readYear?, trimStart_cons (by decide)]
      simp only [hRead, Option.map_some, hValue]
    · next hPos =>
      have hValue : (y.natAbs : Int) = y := by omega
      rw [List.cons_append, readYear?, trimStart_cons (by decide)]
      simp only [hRead, Option.map_some, hValue]

/-- The written form of a date. -/
def Date.chars (d : Date) : List Char :=
  yearChars d.year ++ '-' :: (padded 2 d.month ++ '-' :: padded 2 d.day)

theorem daysInMonth_le (y : Int) (m : Nat) : daysInMonth y m ≤ 31 := by
  unfold daysInMonth
  split
  · split <;> decide
  · split
    · decide
    · split <;> decide

/-- A date of the calendar is read as written. -/
theorem readDate?_chars {d : Date} (hd : d.isValid = true) (rest : List Char) :
    readDate? (d.chars ++ rest) = some (d, rest) := by
  have hValid := hd
  simp only [Date.isValid, Bool.and_eq_true, decide_eq_true_eq] at hValid
  obtain ⟨⟨⟨-, hMonth⟩, hMonth'⟩, hDay⟩ := hValid.1
  have hDay' : d.day ≤ 31 := Nat.le_trans hValid.2 (daysInMonth_le _ _)
  simp only [Date.chars, List.append_assoc, List.cons_append]
  rw [readDate?, readYear?_yearChars]
  simp only [Option.bind_eq_bind, Option.bind_some]
  rw [readChar?_trimStart (by decide)]
  simp only [Option.bind_some]
  rw [readPart?_padded hMonth hMonth' (by omega)]
  simp only [Option.bind_some]
  rw [readChar?_trimStart (by decide)]
  simp only [Option.bind_some]
  rw [readPart?_padded hDay hDay' (by omega)]
  simp only [Option.bind_some]
  rw [if_pos hd]

/-- A fraction is read up to the zone. -/
theorem readFraction?_fractionChars {nanos : Nat} (h : nanos < 1000000000) (rest : List Char) :
    readFraction? (fractionChars nanos ++ 'Z' :: rest) = some (nanos, 'Z' :: rest) := by
  have hEnds : EndsDigits ('Z' :: rest) := endsDigits_cons (by decide) rest
  have hRead : ∀ width n, 0 < width → width ≤ 9 → n < 10 ^ width →
      readFraction? ('.' :: padded width n ++ 'Z' :: rest) =
        some (n * Nat.pow 10 (9 - width), 'Z' :: rest) := by
    intro width n hWidth hWidth' hn
    have hLength := length_padded hWidth hn
    have hDigits : (padded width n ++ 'Z' :: rest).takeWhile Char.isDigit = padded width n :=
      takeWhile_isDigit_append isDigit_of_mem_padded hEnds
    have hValue : readDigits? 9 (padded width n ++ 'Z' :: rest) = some (n, 'Z' :: rest) := by
      rw [readDigits?_append (padded_ne_nil _ _) isDigit_of_mem_padded
        (.inr ⟨by omega, hEnds⟩), digitsValue_padded]
    rw [List.cons_append, readFraction?]
    have hDrop : (padded width n ++ 'Z' :: rest).drop width = 'Z' :: rest := by
      rw [List.drop_append_of_le_length (by omega), List.drop_of_length_le (by omega),
        List.nil_append]
    simp only [hDigits, hValue, Option.bind_eq_bind, Option.bind_some, hLength, hDrop]
  unfold fractionChars
  split
  · next hZero =>
    rw [hZero]
    rfl
  · split
    · next hMilli =>
      have hValue : nanos / 1000000 * Nat.pow 10 (9 - 3) = nanos :=
        Nat.div_mul_cancel (Nat.dvd_of_mod_eq_zero hMilli)
      rw [hRead 3 _ (by decide) (by decide) (by omega), hValue]
    · split
      · next hMicro =>
        have hValue : nanos / 1000 * Nat.pow 10 (9 - 6) = nanos :=
          Nat.div_mul_cancel (Nat.dvd_of_mod_eq_zero hMicro)
        rw [hRead 6 _ (by decide) (by decide) (by omega), hValue]
      · have hValue : nanos * Nat.pow 10 (9 - 9) = nanos := Nat.mul_one nanos
        rw [hRead 9 _ (by decide) (by decide) (by omega), hValue]

/-- The written form of a time of day: the second of the day, whether it is followed by a leap
second that is meant, and nanoseconds. -/
def timeChars (second : Nat) (leap : Bool) (nanos : Nat) : List Char :=
  padded 2 (second / 3600) ++ ':' :: (padded 2 (second / 60 % 60) ++
    ':' :: (padded 2 (second % 60 + if leap then 1 else 0) ++ fractionChars nanos))

/-- A time of day is read up to the zone. -/
theorem readTimeOfDay?_chars {second nanos : Nat} {leap : Bool} (hSecond : second < 86400)
    (hNanos : nanos < 1000000000) (hLeap : leap = true → second % 60 = 59) (rest : List Char) :
    readTimeOfDay? (timeChars second leap nanos ++ 'Z' :: rest) =
      some ((second, nanos, leap), 'Z' :: rest) := by
  have hBound : (second % 60 + if leap = true then 1 else 0) ≤ 60 := by
    split <;> omega
  have hShown : min (second % 60 + if leap = true then 1 else 0) 59 = second % 60 := by
    split
    · next h =>
      have := hLeap h
      omega
    · omega
  have hSixty : ((second % 60 + if leap = true then 1 else 0) == 60) = leap := by
    cases leap with
    | true => simp [hLeap rfl]
    | false =>
        rw [if_neg (by decide), beq_eq_false_iff_ne]
        omega
  have hSum : second / 3600 * 3600 + second / 60 % 60 * 60 + second % 60 = second := by omega
  simp only [timeChars, List.append_assoc, List.cons_append]
  rw [readTimeOfDay?, readPart?_padded (by omega) (by omega) (by omega)]
  simp only [Option.bind_eq_bind, Option.bind_some]
  rw [readChar?_trimStart (by decide)]
  simp only [Option.bind_some]
  rw [readPart?_padded (by omega) (by omega) (by omega)]
  simp only [Option.bind_some]
  rw [readChar?_trimStart (by decide)]
  simp only [Option.bind_some]
  rw [readPart?_padded (Nat.zero_le _) hBound (by omega)]
  simp only [Option.bind_some]
  rw [readFraction?_fractionChars hNanos]
  simp only [Option.bind_some, hShown, hSixty, hSum]

/-! ## Timestamps -/

namespace Timestamp

/-- The day of a timestamp. -/
def dayNumber (t : Timestamp) : Int := t.instant.seconds / 86400

/-- The second of the day of a timestamp. -/
def secondOfDay (t : Timestamp) : Nat := (t.instant.seconds % 86400).toNat

theorem chars_eq (t : Timestamp) : t.chars =
    (Date.ofDayNumber t.dayNumber).chars ++
      'T' :: (timeChars t.secondOfDay t.leap t.instant.nanos ++ ['Z']) := by
  simp [Timestamp.chars, Date.chars, timeChars, dayNumber, secondOfDay]

theorem isValid_day (t : Timestamp) : (Date.ofDayNumber t.dayNumber).isValid = true := by
  have hFirst := t.instant.first_le
  have hLast := t.instant.le_last
  simp only [firstNs, lastNs, nsPerSecond] at hFirst hLast
  apply Date.isValid_ofDayNumber
  · simp only [dayNumber, Instant.seconds, nsPerSecond]
    omega
  · simp only [dayNumber, Instant.seconds, nsPerSecond]
    omega

/-- The parts of a timestamp make it up. -/
theorem ofLocal?_parts (t : Timestamp) :
    ofLocal? (Date.ofDayNumber t.dayNumber) t.secondOfDay t.instant.nanos t.leap 0 = some t := by
  have hNs : (t.dayNumber * 86400 + t.secondOfDay - 0) * nsPerSecond + t.instant.nanos =
      t.instant.ns := by
    simp only [dayNumber, secondOfDay, Instant.seconds, Instant.nanos, nsPerSecond]
    omega
  have hInstant : Instant.ofParts? (t.dayNumber * 86400 + t.secondOfDay - 0) t.instant.nanos =
      some t.instant := by
    rw [Instant.ofParts?, hNs, Instant.ofNs?_eq_some_iff]
  rw [ofLocal?, Date.dayNumber_ofDayNumber, hInstant]
  simp only [Option.bind_eq_bind, Option.bind_some]
  rw [ofMoment?, dif_pos t.leap_ends_minute]

/-- A timestamp reads back from its text. -/
theorem ofText?_text (t : Timestamp) : ofText? t.text = some t := by
  have hSecond : t.secondOfDay < 86400 := by
    simp only [secondOfDay]
    omega
  have hNanos : t.instant.nanos < 1000000000 := by
    simp only [Instant.nanos, nsPerSecond]
    omega
  have hLeap : t.leap = true → t.secondOfDay % 60 = 59 := by
    intro h
    have := t.leap_ends_minute h
    simp only [secondOfDay]
    omega
  rw [ofText?, text, String.toList_ofList, ofChars?, chars_eq, readDate?_chars t.isValid_day]
  simp only [Option.bind_eq_bind, Option.bind_some, true_or, if_true]
  rw [readTimeOfDay?_chars hSecond hNanos hLeap]
  simp only [Option.bind_some]
  rw [trimStart_cons (by decide), readZone?]
  simp only [Option.bind_some]
  rw [trimStart, List.dropWhile_nil, if_pos rfl, ofLocal?_parts]

end Timestamp

end Admission.Time
