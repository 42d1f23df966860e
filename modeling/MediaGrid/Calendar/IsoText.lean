import MediaGrid.Calendar.Day
import MediaGrid.Text.Blank
import MediaGrid.Text.Digit

/-!
# Days as ISO text

Writing a day as `YYYY-MM-DD` and reading it back. Years from 0 to 9999 have four digits
and no sign; other years carry a sign and at least four digits. Readers are lenient about
blanks and leading zeros, and each says where blanks may stand.
-/

namespace MediaGrid

/-- A number with at least `width` digits, zeros in front. -/
def zeroPadded (width n : Nat) : String :=
  let digits := toString n
  String.ofList (List.replicate (width - digits.length) '0') ++ digits

/-- A year in ISO text. -/
def yearText (year : Int) : String :=
  if 0 ≤ year ∧ year ≤ 9999 then zeroPadded 4 year.toNat
  else (if year < 0 then "-" else "+") ++ zeroPadded 4 year.natAbs

/-- A day in ISO text. -/
def Day.text (d : Day) : String :=
  yearText d.year ++ "-" ++ zeroPadded 2 d.month ++ "-" ++ zeroPadded 2 d.day

namespace Calendar

/-- Reads the leading digits, at most `most` of them, and needs at least `least`. -/
def readDigits (least most : Nat) (chars : List Char) : Option (Nat × List Char) :=
  let digits := (chars.take most).takeWhile Text.isDigit
  if digits.length < least then none else some (Text.numeral digits, chars.drop digits.length)

/-- Reads one given character. -/
def readMark (mark : Char) : List Char → Option (List Char)
  | [] => none
  | c :: rest => if c = mark then some rest else none

/-- Skips blanks. -/
def skipBlank (chars : List Char) : List Char := chars.dropWhile Text.isBlank

/-- Reads a number of one or two digits after optional blanks. -/
def readPair (chars : List Char) : Option (Nat × List Char) :=
  readDigits 1 2 (skipBlank chars)

/-- Reads a year after optional blanks: any number of digits after a sign, else up to four. -/
def readYear (chars : List Char) : Option (Int × List Char) :=
  match skipBlank chars with
  | '-' :: rest => (readDigits 1 rest.length rest).map fun (n, rest) => (-(n : Int), rest)
  | '+' :: rest => (readDigits 1 rest.length rest).map fun (n, rest) => ((n : Int), rest)
  | rest => (readDigits 1 4 rest).map fun (n, rest) => ((n : Int), rest)

/-- Reads year, month and day with dashes between them, at the front of a text. Before each
dash, `gap` is skipped. -/
def readDayWith (gap : List Char → List Char) (chars : List Char) :
    Option ((Int × Nat × Nat) × List Char) := do
  let (year, rest) ← readYear chars
  let rest ← readMark '-' (gap rest)
  let (month, rest) ← readPair rest
  let rest ← readMark '-' (gap rest)
  let (day, rest) ← readPair rest
  return ((year, month, day), rest)

/-- The day that a whole text names; blanks may stand before each number only. -/
def dayOfTight? (chars : List Char) : Option Day := do
  let ((year, month, day), rest) ← readDayWith id chars
  guard rest.isEmpty
  Day.of? year month day

/-- The day that a whole text names; blanks may stand around each number. -/
def dayOfLoose? (chars : List Char) : Option Day := do
  let ((year, month, day), rest) ← readDayWith skipBlank chars
  guard (skipBlank rest).isEmpty
  Day.of? year month day

end Calendar

/-- Reads a day from its data form, ISO text with blanks allowed around each number. -/
def Day.ofText? (text : String) : Option Day :=
  Calendar.dayOfLoose? text.toList

example : (Day.ofText? " 2022 - 3- 01 ").map Day.text = some "2022-03-01" := by decide

end MediaGrid
