import MediaGrid.Calendar.Timestamp
import MediaGrid.Proofs.Calendar.IsoText
import MediaGrid.Proofs.Text.Blank

/-!
# The day of a timestamp, as written

A day is found again in its own text, and, if its year has four digits, in front of any time of day.
Behind the seconds there may be nothing, or a fraction and an offset from universal time. The three
readers do not get into each other's way: one that reads a day refuses what stands behind it, and
one that needs an offset refuses a timestamp without. Whatever the offset, the day is the one that
was written. Leap seconds and the other notations that are understood are no part of it.
-/

namespace MediaGrid.Calendar

/-! ## Timestamps -/

/-- A time of day. -/
structure Clock where
  /-- The hour. -/
  hour : Nat
  /-- The minute. -/
  minute : Nat
  /-- The second. -/
  second : Nat
  /-- There is such a time on every day. -/
  valid : hour ≤ 23 ∧ minute ≤ 59 ∧ second ≤ 59

/-- A time of day in ISO text. -/
def Clock.text (clock : Clock) : String :=
  zeroPadded 2 clock.hour ++ ":" ++ zeroPadded 2 clock.minute ++ ":" ++ zeroPadded 2 clock.second

/-- An offset from universal time. -/
inductive Zone where
  /-- Universal time itself. -/
  | universal
  /-- Hours and minutes ahead of universal time, or behind it. -/
  | offset (ahead : Bool) (hours minutes : Nat) (valid : hours ≤ 23 ∧ minutes ≤ 59)

/-- An offset in ISO text. -/
def Zone.text : Zone → String
  | .universal => "Z"
  | .offset ahead hours minutes _ =>
    (if ahead then "+" else "-") ++ zeroPadded 2 hours ++ ":" ++ zeroPadded 2 minutes

/-- What follows the seconds of a timestamp. -/
inductive ClockEnd where
  /-- Nothing. -/
  | bare
  /-- The digits of a fraction, if there are any, and an offset. -/
  | zoned (fraction : List (Fin 10)) (zone : Zone)

/-- A fraction of a second; nothing if it has no digits. -/
def fractionText (digits : List (Fin 10)) : String :=
  if digits = [] then ""
  else "." ++ String.ofList (digits.map fun digit => Nat.digitChar digit.val)

/-- What follows the seconds, as text. -/
def ClockEnd.text : ClockEnd → String
  | .bare => ""
  | .zoned fraction zone => fractionText fraction ++ zone.text

/-- A timestamp: a day, a time of day and what follows it. -/
def timestampText (d : Day) (clock : Clock) (ending : ClockEnd) : String :=
  d.text ++ "T" ++ clock.text ++ ending.text

/-! ## Reading the parts -/

theorem toList_clock (clock : Clock) : clock.text.toList =
    (zeroPadded 2 clock.hour).toList ++ ':' :: ((zeroPadded 2 clock.minute).toList ++ ':' ::
      (zeroPadded 2 clock.second).toList) := by
  simp [Clock.text]

/-- A time of day is read back, whatever follows it. -/
theorem readClock_text {field : List Char → Option (Nat × List Char)}
    (hfield : ∀ n < 100, ∀ rest, field ((zeroPadded 2 n).toList ++ rest) = some (n, rest))
    (clock : Clock) (rest : List Char) :
    readClock field (clock.text.toList ++ rest) = some rest := by
  obtain ⟨hour, minute, second, hhour, hminute, hsecond⟩ := clock
  have hclock : IsClock hour minute second := ⟨hhour, hminute, by omega⟩
  simp only [readClock, toList_clock, List.append_assoc, List.cons_append,
    hfield hour (by omega), hfield minute (by omega), hfield second (by omega), readMark, if_true,
    guard, if_pos hclock, Option.bind_eq_bind, Option.bind_some]
  rfl

theorem toList_offset (ahead : Bool) {hours minutes : Nat} (valid : hours ≤ 23 ∧ minutes ≤ 59) :
    (Zone.offset ahead hours minutes valid).text.toList =
      (if ahead then '+' else '-') ::
        ((zeroPadded 2 hours).toList ++ ':' :: (zeroPadded 2 minutes).toList) := by
  cases ahead <;> simp [Zone.text]

/-- Offsets begin with a letter or a sign. -/
theorem exists_zone_eq_cons (zone : Zone) :
    ∃ first rest, zone.text.toList = first :: rest ∧ first ∈ ['Z', '+', '-'] := by
  cases zone with
  | universal => exact ⟨'Z', [], rfl, by decide⟩
  | offset ahead hours minutes valid =>
    exact ⟨_, _, toList_offset ahead valid, by cases ahead <;> decide⟩

/-- An offset is read to its end. -/
theorem readOffset_text (zone : Zone) : readOffset zone.text.toList = some [] := by
  cases zone with
  | universal => rfl
  | offset ahead hours minutes valid =>
    have hhours := readDigits_pair (show hours < 100 by omega)
    have hminutes := readDigits_pair (show minutes < 100 by omega) []
    rw [List.append_nil] at hminutes
    have hsign : ∀ ahead : Bool, (if ahead then '+' else '-') = '+' ∨
        (if ahead then '+' else '-') = '-' ∨ (if ahead then '+' else '-') = '\u2212' := by decide
    have hletter : ∀ ahead : Bool, ¬((if ahead then '+' else '-') = 'Z' ∨
        (if ahead then '+' else '-') = 'z') := by decide
    rw [toList_offset]
    simp only [readOffset, if_neg (hletter ahead), if_pos (hsign ahead), hhours, hminutes, readMark,
      if_true, guard, if_pos valid, Option.bind_eq_bind, Option.bind_some]
    rfl

theorem isDigit_digitChar (digit : Fin 10) : Text.isDigit (Nat.digitChar digit.val) = true := by
  revert digit
  decide

/-- A fraction is skipped, up to the offset behind it. -/
theorem readFraction_text (digits : List (Fin 10)) (zone : Zone) :
    readFraction ((fractionText digits).toList ++ zone.text.toList) = some zone.text.toList := by
  obtain ⟨first, rest, hzone, hfirst⟩ := exists_zone_eq_cons zone
  have hpoint : first ≠ '.' := by
    rintro rfl
    exact absurd hfirst (by decide)
  have hdigit : Text.isDigit first = false := by
    have hall : ∀ mark ∈ ['Z', '+', '-'], Text.isDigit mark = false :=
      Text.forall_mem_of_all (by decide)
    exact hall first hfirst
  rw [hzone]
  cases digits with
  | nil =>
    have hnone : (fractionText []).toList = [] := rfl
    rw [hnone, List.nil_append, readFraction]
    exact fun rest heq => hpoint (List.cons.inj heq).1
  | cons digit more =>
    have hall : ∀ c ∈ (digit :: more).map (fun digit : Fin 10 => Nat.digitChar digit.val),
        Text.isDigit c = true := by
      intro c hm
      obtain ⟨d, -, rfl⟩ := List.mem_map.mp hm
      exact isDigit_digitChar d
    have hsome : (fractionText (digit :: more)).toList =
        '.' :: (digit :: more).map fun digit : Fin 10 => Nat.digitChar digit.val := by
      simp [fractionText]
    have hhead : (((digit :: more).map fun digit : Fin 10 => Nat.digitChar digit.val) ++
        first :: rest).head?.any Text.isDigit = true := isDigit_digitChar digit
    rw [hsome, List.cons_append, readFraction, if_pos hhead, List.dropWhile_append_of_pos hall,
      List.dropWhile_cons_of_neg (by simp [hdigit])]

/-! ## Reading the whole -/

theorem toList_timestamp (d : Day) (clock : Clock) (ending : ClockEnd) :
    (timestampText d clock ending).toList =
      d.text.toList ++ 'T' :: (clock.text.toList ++ ending.text.toList) := by
  simp [timestampText]

/-- The strict notation names the day up to the seconds, and needs an offset behind them. -/
theorem dayOfStrictTimestamp?_text {d : Day} (hfirst : 0 ≤ d.year) (hlast : d.year ≤ 9999)
    (clock : Clock) (ending : ClockEnd) :
    dayOfStrictTimestamp? (timestampText d clock ending).toList =
      (readFraction ending.text.toList >>= readOffset).bind fun rest =>
        if rest.isEmpty then some d else none := by
  have hmonth := d.valid.month_le
  have hday := d.valid.day_le
  have hyear : ∀ rest, readDigits 4 4 ((zeroPadded 4 d.year.toNat).toList ++ rest) =
      some (d.year.toNat, rest) :=
    readDigits_zeroPadded (by decide) (by decide) (by omega)
  have hclock := readClock_text (fun n hn rest => readDigits_pair hn rest)
  have htext : yearText d.year = zeroPadded 4 d.year.toNat := if_pos ⟨hfirst, hlast⟩
  have hmark : ∀ rest : List Char,
      (('T' :: rest).head?.any fun c => c = 'T' || c = 't' || c = ' ') = true := fun _ => rfl
  have hback : Day.of? (d.year.toNat : Int) d.month d.day = some d := by
    rw [Int.toNat_of_nonneg hfirst, Day.of?_self]
  simp only [dayOfStrictTimestamp?, toList_timestamp, toList_text, htext, List.append_assoc,
    List.cons_append, hyear, readDigits_pair (show d.month < 100 by omega),
    readDigits_pair (show d.day < 100 by omega), readMark, if_true,
    hmark, guard, List.drop_succ_cons, List.drop_zero, hclock, hback,
    Option.bind_eq_bind, Option.bind_some, Option.pure_def]
  cases readFraction ending.text.toList with
  | none => rfl
  | some rest =>
    cases hoffset : readOffset rest with
    | none => simp [hoffset]
    | some rest => by_cases hend : rest = [] <;> simp [hoffset, hend]

/-- The loose notation names the day if nothing follows the seconds. -/
theorem dayOfLooseTimestamp?_text (d : Day) (clock : Clock) :
    dayOfLooseTimestamp? (timestampText d clock .bare).toList = some d := by
  have hclock := readClock_text (fun n hn rest => readPair_zeroPadded hn rest) clock []
  have hbare : ClockEnd.bare.text.toList = [] := rfl
  rw [List.append_nil] at hclock
  simp [dayOfLooseTimestamp?, toList_timestamp, hbare, readDayWith_text id (fun _ => rfl),
    readMark, hclock, Day.of?_self, guard]

/-! ## Nothing to trim -/

theorem noBlank_zeroPadded (width n : Nat) :
    ∀ c ∈ (zeroPadded width n).toList, Text.isBlank c = false :=
  fun _ hm => Text.isBlank_of_isDigit (isDigit_of_mem_zeroPadded hm)

theorem noBlank_text (d : Day) : ∀ c ∈ d.text.toList, Text.isBlank c = false := by
  have hyear : ∀ c ∈ (yearText d.year).toList, Text.isBlank c = false := by
    unfold yearText
    split
    · exact noBlank_zeroPadded 4 _
    · rw [String.toList_append, List.forall_mem_append]
      exact ⟨by split <;> exact Text.forall_mem_of_all (by decide), noBlank_zeroPadded 4 _⟩
  simp only [toList_text, List.forall_mem_append, List.forall_mem_cons]
  exact ⟨hyear, by decide, noBlank_zeroPadded 2 _, by decide, noBlank_zeroPadded 2 _⟩

theorem noBlank_clock (clock : Clock) : ∀ c ∈ clock.text.toList, Text.isBlank c = false := by
  simp only [toList_clock, List.forall_mem_append, List.forall_mem_cons]
  exact ⟨noBlank_zeroPadded 2 _, by decide, noBlank_zeroPadded 2 _, by decide,
    noBlank_zeroPadded 2 _⟩

theorem noBlank_clockEnd (ending : ClockEnd) :
    ∀ c ∈ ending.text.toList, Text.isBlank c = false := by
  cases ending with
  | bare => exact fun _ hm => absurd hm (List.not_mem_nil)
  | zoned fraction zone =>
    have hfraction : ∀ c ∈ (fractionText fraction).toList, Text.isBlank c = false := by
      unfold fractionText
      split
      · exact fun _ hm => absurd hm (List.not_mem_nil)
      · simp only [String.toList_append, String.toList_ofList, List.forall_mem_append,
          List.forall_mem_map]
        exact ⟨Text.forall_mem_of_all (by decide),
          fun digit _ => Text.isBlank_of_isDigit (isDigit_digitChar digit)⟩
    have hzone : ∀ c ∈ zone.text.toList, Text.isBlank c = false := by
      cases zone with
      | universal => exact Text.forall_mem_of_all (by decide)
      | offset ahead hours minutes valid =>
        simp only [toList_offset, List.forall_mem_append, List.forall_mem_cons]
        exact ⟨by cases ahead <;> decide, noBlank_zeroPadded 2 _, by decide,
          noBlank_zeroPadded 2 _⟩
    rw [ClockEnd.text, String.toList_append, List.forall_mem_append]
    exact ⟨hfraction, hzone⟩

/-! ## The day as written -/

/-- A day is named by its own text. -/
theorem dayOf?_text (d : Day) : dayOf? d.text = some d := by
  simp only [dayOf?, Text.trimChars_eq_self (noBlank_text d), dayOfTight?_text]
  rfl

/-- The day of a timestamp is the one that was written, whatever the time and the offset. -/
theorem dayOf?_timestampText {d : Day} (hfirst : 0 ≤ d.year) (hlast : d.year ≤ 9999)
    (clock : Clock) (ending : ClockEnd) : dayOf? (timestampText d clock ending) = some d := by
  have hsolid : ∀ c ∈ (timestampText d clock ending).toList, Text.isBlank c = false := by
    simp only [toList_timestamp, List.forall_mem_append, List.forall_mem_cons]
    exact ⟨noBlank_text d, by decide, noBlank_clock clock, noBlank_clockEnd ending⟩
  have htight : dayOfTight? (timestampText d clock ending).toList = none := by
    rw [toList_timestamp, dayOfTight?_append d (List.cons_ne_nil _ _)]
  simp only [dayOf?, Text.trimChars_eq_self hsolid, htight,
    dayOfStrictTimestamp?_text hfirst hlast]
  cases ending with
  | bare =>
    have hbare : readFraction ClockEnd.bare.text.toList >>= readOffset = none := rfl
    rw [hbare, dayOfLooseTimestamp?_text]
    rfl
  | zoned fraction zone =>
    have hzoned : readFraction (ClockEnd.zoned fraction zone).text.toList >>= readOffset =
        some [] := by
      rw [ClockEnd.text, String.toList_append, readFraction_text]
      exact readOffset_text zone
    rw [hzoned]
    rfl

end MediaGrid.Calendar
