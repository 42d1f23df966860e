import Mathlib.Control.Basic
import Mathlib.Data.List.TakeWhile
import MediaGrid.Calendar.IsoText
import MediaGrid.Proofs.Text.Digit

/-!
# Days read back from ISO text

Numbers of full width are read back whatever follows them, and a year is read back up to the dash
behind it, with its sign or without. So every day that exists is read back from its text, and what
stands behind the text is left to the reader. Texts that name a day in another way are no part
of it.
-/

namespace MediaGrid

namespace IsDay

variable {year : Int} {month day : Nat}

theorem month_le (h : IsDay year month day) : month ≤ 12 := by
  obtain ⟨-, -, hfirst, hlast⟩ := h
  unfold monthLength at hlast
  by_contra hmonth
  have hnone : month ∉ [4, 6, 9, 11] := by
    simp only [List.mem_cons, List.not_mem_nil, or_false]
    omega
  rw [if_neg (by omega), if_neg hnone, if_neg (by omega)] at hlast
  omega

theorem day_le (h : IsDay year month day) : day ≤ 31 := by
  refine h.2.2.2.trans ?_
  unfold monthLength
  repeat' split
  all_goals decide

end IsDay

/-! ## Padded numbers -/

theorem toList_zeroPadded (width n : Nat) : (zeroPadded width n).toList =
    List.replicate (width - (Nat.toDigits 10 n).length) '0' ++ Nat.toDigits 10 n := by
  rw [zeroPadded, Nat.toString_eq_ofList_toDigits, String.toList_append, String.toList_ofList,
    String.toList_ofList, String.length_ofList]

theorem isDigit_of_mem_zeroPadded {width n : Nat} {c : Char}
    (h : c ∈ (zeroPadded width n).toList) : Text.isDigit c = true := by
  rw [toList_zeroPadded, List.mem_append] at h
  rcases h with hm | hm
  · rw [List.eq_of_mem_replicate hm]
    decide
  · exact Text.isDigit_of_mem_toDigits hm

@[simp]
theorem numeral_zeroPadded (width n : Nat) : Text.numeral (zeroPadded width n).toList = n := by
  rw [toList_zeroPadded, Text.numeral_replicate_append]

/-- A number has at least the digits that were asked for. -/
theorem le_length_zeroPadded (width n : Nat) : width ≤ (zeroPadded width n).toList.length := by
  rw [toList_zeroPadded, List.length_append, List.length_replicate]
  omega

/-- A number that fits has exactly the digits that were asked for. -/
theorem length_zeroPadded {width n : Nat} (hwidth : 0 < width) (h : n < 10 ^ width) :
    (zeroPadded width n).toList.length = width := by
  have hfits := (Nat.length_toDigits_le_iff (by decide) hwidth).mpr h
  rw [toList_zeroPadded, List.length_append, List.length_replicate]
  omega

/-- A padded number begins with a digit. -/
theorem exists_zeroPadded_eq_cons {width n : Nat} (hwidth : 0 < width) :
    ∃ first rest, (zeroPadded width n).toList = first :: rest ∧ Text.isDigit first = true := by
  have hlength := le_length_zeroPadded width n
  cases h : (zeroPadded width n).toList with
  | nil =>
    rw [h, List.length_nil] at hlength
    omega
  | cons first rest =>
    exact ⟨first, rest, rfl, isDigit_of_mem_zeroPadded (h ▸ List.mem_cons_self)⟩

namespace Calendar

/-! ## Numbers -/

/-- Digits are read up to the greatest count, or up to the first other character. -/
theorem readDigits_append {digits : List Char} (rest : List Char) {least most : Nat}
    (hdigits : ∀ c ∈ digits, Text.isDigit c = true) (hleast : least ≤ digits.length)
    (hmost : digits.length ≤ most)
    (hstop : digits.length = most ∨ ∀ c ∈ rest.head?, Text.isDigit c = false) :
    readDigits least most (digits ++ rest) = some (Text.numeral digits, rest) := by
  have htaken : (rest.take (most - digits.length)).takeWhile Text.isDigit = [] := by
    rcases hstop with hfull | hother
    · rw [hfull, Nat.sub_self, List.take_zero, List.takeWhile_nil]
    · cases rest with
      | nil => rw [List.take_nil, List.takeWhile_nil]
      | cons c rest =>
        have hc := hother c rfl
        cases most - digits.length with
        | zero => rfl
        | succ n => rw [List.take_succ_cons, List.takeWhile_cons_of_neg (by simp [hc])]
  have hread : ((digits ++ rest).take most).takeWhile Text.isDigit = digits := by
    rw [List.take_append, List.take_of_length_le hmost, List.takeWhile_append_of_pos hdigits,
      htaken, List.append_nil]
  simp only [readDigits, hread, if_neg (Nat.not_lt.mpr hleast), List.drop_left]

/-- A number of full width is read back, whatever follows it. -/
theorem readDigits_zeroPadded {least width n : Nat} (hleast : least ≤ width) (hwidth : 0 < width)
    (h : n < 10 ^ width) (rest : List Char) :
    readDigits least width ((zeroPadded width n).toList ++ rest) = some (n, rest) := by
  have hlength := length_zeroPadded hwidth h
  have hread := readDigits_append rest (fun _ hm => isDigit_of_mem_zeroPadded hm)
    (hleast.trans hlength.ge) hlength.le (Or.inl hlength)
  rwa [numeral_zeroPadded] at hread

theorem skipBlank_cons {c : Char} (h : Text.isBlank c = false) (rest : List Char) :
    skipBlank (c :: rest) = c :: rest :=
  List.dropWhile_cons_of_neg (by simp [h])

/-- There are no blanks to skip before a padded number. -/
theorem skipBlank_zeroPadded {width n : Nat} (hwidth : 0 < width) (rest : List Char) :
    skipBlank ((zeroPadded width n).toList ++ rest) = (zeroPadded width n).toList ++ rest := by
  obtain ⟨first, digits, hcons, hfirst⟩ := exists_zeroPadded_eq_cons (n := n) hwidth
  rw [hcons, List.cons_append, skipBlank_cons (Text.isBlank_of_isDigit hfirst)]

/-- A number of two digits is read back, whatever follows it. -/
theorem readDigits_pair {n : Nat} (h : n < 100) (rest : List Char) :
    readDigits 2 2 ((zeroPadded 2 n).toList ++ rest) = some (n, rest) :=
  readDigits_zeroPadded (by decide) (by decide) h rest

theorem readPair_zeroPadded {n : Nat} (h : n < 100) (rest : List Char) :
    readPair ((zeroPadded 2 n).toList ++ rest) = some (n, rest) := by
  rw [readPair, skipBlank_zeroPadded (by decide),
    readDigits_zeroPadded (by decide) (by decide) h]

/-- Digits behind a sign are read up to the dash. -/
theorem readDigits_signed (n : Nat) (rest : List Char) :
    let digits := (zeroPadded 4 n).toList ++ '-' :: rest
    readDigits 1 digits.length digits = some (n, '-' :: rest) := by
  intro digits
  have hone : 1 ≤ (zeroPadded 4 n).toList.length :=
    Nat.le_trans (by decide) (le_length_zeroPadded 4 n)
  have hdash : ∀ c ∈ ('-' :: rest).head?, Text.isDigit c = false := by
    rintro c ⟨⟩
    decide
  have hmost : (zeroPadded 4 n).toList.length ≤ digits.length := by
    rw [List.length_append]
    omega
  have hread := readDigits_append _ (fun _ hm => isDigit_of_mem_zeroPadded hm) hone hmost
    (Or.inr hdash)
  rwa [numeral_zeroPadded] at hread

theorem readYear_minus (n : Nat) (rest : List Char) :
    readYear ('-' :: ((zeroPadded 4 n).toList ++ '-' :: rest)) =
      some (-(n : Int), '-' :: rest) := by
  rw [readYear, skipBlank_cons (by decide)]
  simp only [readDigits_signed n rest, Option.map_some]

theorem readYear_plus (n : Nat) (rest : List Char) :
    readYear ('+' :: ((zeroPadded 4 n).toList ++ '-' :: rest)) = some ((n : Int), '-' :: rest) := by
  rw [readYear, skipBlank_cons (by decide)]
  simp only [readDigits_signed n rest, Option.map_some]

/-- A year of four digits is read back, whatever follows it. -/
theorem readYear_plain {n : Nat} (h : n < 10000) (rest : List Char) :
    readYear ((zeroPadded 4 n).toList ++ rest) = some ((n : Int), rest) := by
  obtain ⟨first, digits, hcons, hfirst⟩ :=
    exists_zeroPadded_eq_cons (n := n) (Nat.zero_lt_succ 3)
  have hread : readDigits 1 4 ((zeroPadded 4 n).toList ++ rest) = some (n, rest) :=
    readDigits_zeroPadded (by decide) (by decide) h rest
  rw [readYear, skipBlank_zeroPadded (by decide)]
  rw [hcons, List.cons_append] at hread ⊢
  -- A digit is neither of the two signs.
  split
  · rename_i heq
    rw [(List.cons.inj heq).1] at hfirst
    exact absurd hfirst (by decide)
  · rename_i heq
    rw [(List.cons.inj heq).1] at hfirst
    exact absurd hfirst (by decide)
  · simp only [hread, Option.map_some]

/-- A year is read back up to the dash behind it. -/
theorem readYear_yearText (year : Int) (rest : List Char) :
    readYear ((yearText year).toList ++ '-' :: rest) = some (year, '-' :: rest) := by
  have hminus : "-".toList = ['-'] := rfl
  have hplus : "+".toList = ['+'] := rfl
  unfold yearText
  split
  · rename_i hplain
    rw [readYear_plain (by omega), Int.toNat_of_nonneg hplain.1]
  · split
    · rename_i hneg
      have hyear : -(year.natAbs : Int) = year := by omega
      rw [String.toList_append, hminus, List.append_assoc, List.singleton_append,
        readYear_minus, hyear]
    · rename_i hpos
      have hyear : (year.natAbs : Int) = year := by omega
      rw [String.toList_append, hplus, List.append_assoc, List.singleton_append,
        readYear_plus, hyear]

/-! ## Days -/

theorem toList_text (d : Day) : d.text.toList =
    (yearText d.year).toList ++ '-' :: ((zeroPadded 2 d.month).toList ++ '-' ::
      (zeroPadded 2 d.day).toList) := by
  simp [Day.text]

/-- The numbers of a day are read back from its text, and what follows the text is left. -/
theorem readDayWith_text (gap : List Char → List Char)
    (hgap : ∀ rest, gap ('-' :: rest) = '-' :: rest) (d : Day) (rest : List Char) :
    readDayWith gap (d.text.toList ++ rest) = some ((d.year, d.month, d.day), rest) := by
  have hmonth := d.valid.month_le
  have hday := d.valid.day_le
  simp only [readDayWith, toList_text, List.append_assoc, List.cons_append, readYear_yearText,
    readPair_zeroPadded (show d.month < 100 by omega),
    readPair_zeroPadded (show d.day < 100 by omega), hgap, readMark, if_true, Option.bind_eq_bind,
    Option.bind_some]
  rfl

/-- A day is read back from its text. -/
theorem dayOfTight?_text (d : Day) : dayOfTight? d.text.toList = some d := by
  have hread := readDayWith_text id (fun _ => rfl) d []
  rw [List.append_nil] at hread
  simp [dayOfTight?, hread, Day.of?_self, guard]

/-- A text with more behind the day names no day. -/
theorem dayOfTight?_append (d : Day) {rest : List Char} (h : rest ≠ []) :
    dayOfTight? (d.text.toList ++ rest) = none := by
  have hread := readDayWith_text id (fun _ => rfl) d rest
  have hmore : ¬rest.isEmpty := by simpa using h
  simp only [dayOfTight?, hread, guard, if_neg hmore, Option.bind_eq_bind, Option.bind_some]
  rfl

end Calendar

end MediaGrid
