import Mathlib.Data.List.Forall2
import MediaGrid.Proofs.Calendar.Timestamp
import MediaGrid.Search.Directive

/-!
# Date directives name the day that was written

A keyword in any mix of letter case, a colon and the text of a day make a directive for that day,
whatever the year. The same holds of a timestamp of the day: the value is everything behind the
first colon, so the colons of the time belong to it, and the offset does not move the day. Values
in other notations are no part of it.
-/

namespace MediaGrid

/-- The keywords, each with the condition it stands for. -/
def Condition.names : List (String × Condition) :=
  [("before", .before), ("after", .after), ("on", .on), ("date", .on)]

/-- A word of small letters is typed with any of its letters as capitals. -/
def InAnyCase (typed word : List Char) : Prop :=
  List.Forall₂ (fun c letter => c = letter ∨ c = letter.toUpper) typed word

/-- What holds of the small letters of a word and of their capitals holds of the word in any
case. -/
theorem InAnyCase.map_eq {α : Type} {typed word : List Char} (h : InAnyCase typed word)
    {f : Char → α} (hword : ∀ letter ∈ word, f letter.toUpper = f letter) :
    typed.map f = word.map f := by
  induction h with
  | nil => rfl
  | cons hsame _ ih =>
    have hletter := hword _ List.mem_cons_self
    have hrest := ih fun letter hm => hword letter (List.mem_cons_of_mem _ hm)
    rw [List.map_cons, List.map_cons, hrest]
    rcases hsame with rfl | rfl
    · rfl
    · rw [hletter]

/-- A keyword is known in any case. -/
theorem ofKeyword?_of_inAnyCase {keyword name : String} {condition : Condition}
    (hname : (name, condition) ∈ Condition.names)
    (hcase : InAnyCase keyword.toList name.toList) :
    Condition.ofKeyword? keyword = some condition := by
  have hnames : ∀ pair ∈ Condition.names,
      (pair.1.toList.all fun letter =>
          Text.asciiLower letter.toUpper == Text.asciiLower letter) = true ∧
        Condition.ofKeyword? pair.1 = some pair.2 := by decide
  obtain ⟨hletters, hcondition⟩ := hnames _ hname
  have hlower : Text.asciiLowerText keyword = Text.asciiLowerText name := by
    rw [Text.asciiLowerText, hcase.map_eq (Text.forall_mem_of_all hletters), Text.asciiLowerText]
  rw [← hcondition, Condition.ofKeyword?, hlower, Condition.ofKeyword?]

/-- A keyword in any case has no colon. -/
theorem colon_not_mem_of_inAnyCase {typed : List Char} {name : String} {condition : Condition}
    (hname : (name, condition) ∈ Condition.names) (hcase : InAnyCase typed name.toList) :
    ':' ∉ typed := by
  have hnames : ∀ pair ∈ Condition.names,
      (pair.1.toList.all fun letter => (letter.toUpper == ':') == (letter == ':')) = true ∧
        true ∉ pair.1.toList.map (· == ':') := by decide
  obtain ⟨hletters, hnone⟩ := hnames _ hname
  have hmap := hcase.map_eq (f := (· == ':')) (Text.forall_mem_of_all hletters)
  intro hm
  exact hnone (hmap ▸ List.mem_map.mpr ⟨':', hm, rfl⟩)

/-- A text is cut at its first colon. -/
theorem splitColon?_append {before : List Char} (h : ':' ∉ before) (after : List Char) :
    splitColon? (before ++ ':' :: after) = some (before, after) := by
  induction before with
  | nil => rfl
  | cons c before ih =>
    rw [List.mem_cons, not_or] at h
    rw [List.cons_append, splitColon?, if_neg (Ne.symm h.1), ih h.2, Option.map_some]

/-- A directive is a keyword in any case with a value that names a day. -/
theorem readDirective?_of_dayOf? {keyword name value : String} {condition : Condition} {d : Day}
    (hname : (name, condition) ∈ Condition.names)
    (hcase : InAnyCase keyword.toList name.toList) (hday : Calendar.dayOf? value = some d) :
    readDirective? (keyword ++ ":" ++ value) = some (condition, d) := by
  have hkeyword := ofKeyword?_of_inAnyCase hname hcase
  have htext : (keyword ++ ":" ++ value).toList = keyword.toList ++ ':' :: value.toList := by
    simp
  have hsplit := splitColon?_append (colon_not_mem_of_inAnyCase hname hcase) value.toList
  simp only [readDirective?, htext, hsplit, hkeyword, String.ofList_toList, hday,
    Option.bind_eq_bind, Option.bind_some, Option.pure_def]

/-- A directive names the day that was written. A keyword in any mix of letter case and the text of
any day give the condition of the keyword with that day; and so do the keyword and a timestamp of
the day, if its year has four digits, at every time of day and whatever follows the seconds:
nothing, or a fraction or none and any offset below a day. So the day is never the one in universal
time. -/
theorem directive_day_as_written {keyword name : String} {condition : Condition}
    (hname : (name, condition) ∈ Condition.names)
    (hcase : InAnyCase keyword.toList name.toList) (d : Day) :
    readDirective? (keyword ++ ":" ++ d.text) = some (condition, d) ∧
    (0 ≤ d.year → d.year ≤ 9999 → ∀ (clock : Calendar.Clock) (ending : Calendar.ClockEnd),
      readDirective? (keyword ++ ":" ++ Calendar.timestampText d clock ending) =
        some (condition, d)) := by
  refine ⟨readDirective?_of_dayOf? hname hcase (Calendar.dayOf?_text d),
    fun hfirst hlast clock ending => ?_⟩
  exact readDirective?_of_dayOf? hname hcase
    (Calendar.dayOf?_timestampText hfirst hlast clock ending)

/-- Half an hour before the year ends, where universal time is in the next year; and a day whose
year has more than four digits. -/
theorem directive_day_as_written_new_year :
    readDirective? "bEfoRE:2024-12-31T23:30:00.25-05:00" =
        some (.before, ⟨2024, 12, 31, by decide⟩) ∧
      readDirective? "Date:+262142-12-31" = some (.on, ⟨262142, 12, 31, by decide⟩) := by
  have hmixed : InAnyCase "bEfoRE".toList "before".toList := by
    unfold InAnyCase
    decide
  have hcapital : InAnyCase "Date".toList "date".toList := by
    unfold InAnyCase
    decide
  have hnames : ("before", Condition.before) ∈ Condition.names ∧
      ("date", Condition.on) ∈ Condition.names := by decide
  have hbefore := (directive_day_as_written hnames.1 hmixed ⟨2024, 12, 31, by decide⟩).2
    (by decide) (by decide) ⟨23, 30, 0, by decide⟩ (.zoned [2, 5] (.offset false 5 0 (by decide)))
  have hdate := (directive_day_as_written hnames.2 hcapital ⟨262142, 12, 31, by decide⟩).1
  have htimestamp : "bEfoRE" ++ ":" ++ Calendar.timestampText ⟨2024, 12, 31, by decide⟩
      ⟨23, 30, 0, by decide⟩ (.zoned [2, 5] (.offset false 5 0 (by decide))) =
        "bEfoRE:2024-12-31T23:30:00.25-05:00" := by decide
  have hday : "Date" ++ ":" ++ Day.text ⟨262142, 12, 31, by decide⟩ = "Date:+262142-12-31" := by
    decide
  rw [htimestamp] at hbefore
  rw [hday] at hdate
  exact ⟨hbefore, hdate⟩

end MediaGrid
