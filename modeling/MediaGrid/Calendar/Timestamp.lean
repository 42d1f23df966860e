import MediaGrid.Calendar.IsoText

/-!
# The day of a timestamp

Timestamps name a day and a time of day. Two notations are read: the strict one, where
every number has its full width and an offset from universal time must follow, and the
loose one without offset. Only the day as written is kept; an offset never moves it.
-/

namespace MediaGrid.Calendar

/-- Whether hours, minutes and seconds name a time of day; second 60 is a leap second. -/
def IsClock (hour minute second : Nat) : Prop :=
  hour ≤ 23 ∧ minute ≤ 59 ∧ second ≤ 60

instance (hour minute second : Nat) : Decidable (IsClock hour minute second) := by
  unfold IsClock; infer_instance

/-- Skips an optional decimal fraction; a point needs a digit after it. -/
def readFraction : List Char → Option (List Char)
  | '.' :: rest =>
    if rest.head?.any Text.isDigit then some (rest.dropWhile Text.isDigit) else none
  | rest => some rest

/-- Reads an offset from universal time: `Z`, or a sign and `hh:mm` below twenty-four hours.
The sign may also be the mathematical minus. -/
def readOffset : List Char → Option (List Char)
  | [] => none
  | c :: rest =>
    if c = 'Z' ∨ c = 'z' then some rest
    else if c = '+' ∨ c = '-' ∨ c = '\u2212' then do
      let (hours, rest) ← readDigits 2 2 rest
      let rest ← readMark ':' rest
      let (minutes, rest) ← readDigits 2 2 rest
      guard (hours ≤ 23 ∧ minutes ≤ 59)
      return rest
    else none

/-- Reads `hh:mm:ss` with numbers read by `field`. -/
def readClock (field : List Char → Option (Nat × List Char)) (chars : List Char) :
    Option (List Char) := do
  let (hour, rest) ← field chars
  let rest ← readMark ':' rest
  let (minute, rest) ← field rest
  let rest ← readMark ':' rest
  let (second, rest) ← field rest
  guard (IsClock hour minute second)
  return rest

/-- The day of a timestamp in strict notation: full-width numbers, a `T`, `t` or space
between day and time, an optional fraction of a second, and an offset. -/
def dayOfStrictTimestamp? (chars : List Char) : Option Day := do
  let (year, rest) ← readDigits 4 4 chars
  let rest ← readMark '-' rest
  let (month, rest) ← readDigits 2 2 rest
  let rest ← readMark '-' rest
  let (day, rest) ← readDigits 2 2 rest
  guard (rest.head?.any fun c => c = 'T' || c = 't' || c = ' ')
  let rest ← readClock (readDigits 2 2) (rest.drop 1)
  let rest ← readFraction rest
  let rest ← readOffset rest
  guard rest.isEmpty
  Day.of? year month day

/-- The day of a timestamp in loose notation: numbers as in a day's text, a `T` between day
and time, and nothing after the seconds. -/
def dayOfLooseTimestamp? (chars : List Char) : Option Day := do
  let ((year, month, day), rest) ← readDayWith id chars
  let rest ← readMark 'T' rest
  let rest ← readClock readPair rest
  guard rest.isEmpty
  Day.of? year month day

/-- The day that a text names, as a day or as a timestamp in either notation, apart from
blanks at its ends. -/
def dayOf? (text : String) : Option Day :=
  let chars := Text.trimChars text.toList
  dayOfTight? chars <|> dayOfStrictTimestamp? chars <|> dayOfLooseTimestamp? chars

example : (dayOf? "2022-03-01T23:30:00.25-05:00").map Day.text = some "2022-03-01" := by decide

end MediaGrid.Calendar
