/-!
# Calendar days

A day of the proleptic Gregorian calendar, with signed years. The type holds only days that
exist, in the range of years the grid accepts; days are compared in calendar order.
-/

namespace MediaGrid

/-- Whether a year has a 29th of February. -/
def isLeapYear (year : Int) : Bool :=
  year % 4 == 0 && (year % 100 != 0 || year % 400 == 0)

/-- The number of days of a month; no days for a month that does not exist. -/
def monthLength (year : Int) (month : Nat) : Nat :=
  if month = 2 then if isLeapYear year then 29 else 28
  else if month ∈ [4, 6, 9, 11] then 30
  else if 1 ≤ month ∧ month ≤ 12 then 31
  else 0

/-- Whether year, month and day name a day of the accepted range. -/
def IsDay (year : Int) (month day : Nat) : Prop :=
  -262143 ≤ year ∧ year ≤ 262142 ∧ 1 ≤ day ∧ day ≤ monthLength year month

instance (year : Int) (month day : Nat) : Decidable (IsDay year month day) := by
  unfold IsDay; infer_instance

/-- A calendar day. -/
structure Day where
  /-- The year, with year zero and negative years before it. -/
  year : Int
  /-- The month, from one. -/
  month : Nat
  /-- The day of the month, from one. -/
  day : Nat
  /-- The day exists and its year is in range. -/
  valid : IsDay year month day
  deriving DecidableEq, Repr

namespace Day

/-- The day with these numbers, if there is one. -/
def of? (year : Int) (month day : Nat) : Option Day :=
  if h : IsDay year month day then some ⟨year, month, day, h⟩ else none

/-- Whether the first day lies before the second. -/
def before (a b : Day) : Bool :=
  a.year < b.year ||
    (a.year == b.year && (a.month < b.month || (a.month == b.month && a.day < b.day)))

theorem of?_self (d : Day) : of? d.year d.month d.day = some d := by
  simp [of?, d.valid]

example : of? 2000 2 29 ≠ none ∧ of? 1900 2 29 = none ∧ of? (-4) 2 29 ≠ none := by decide

end Day

end MediaGrid
