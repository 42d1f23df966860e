import MediaGrid.Calendar.Timestamp
import MediaGrid.Search.Query
import MediaGrid.Text.Case

/-!
# Date directives

Words such as `before:2022-03-01` narrow a search to capture days. The part before the
first colon is a keyword in any letter case, and the rest names a day or a timestamp, whose
day counts.
-/

namespace MediaGrid

/-- How a directive relates capture days to its day. -/
inductive Condition where
  /-- On the day or before it. -/
  | before
  /-- On the day or after it. -/
  | after
  /-- On the day. -/
  | on
  deriving DecidableEq, Repr

namespace Condition

/-- The keywords of date directives. -/
def keywords : List String := ["before", "after", "on", "date"]

/-- The condition of a keyword. -/
def ofKeyword? (keyword : String) : Option Condition :=
  match Text.asciiLowerText keyword with
  | "before" => some .before
  | "after" => some .after
  | "on" => some .on
  | "date" => some .on
  | _ => none

/-- The word for a condition. -/
def word : Condition → String
  | .before => "before"
  | .after => "after"
  | .on => "on"

/-- The days that meet the condition for the given day. -/
def range (condition : Condition) (day : Day) : DateRange :=
  match condition with
  | .before => ⟨none, some day⟩
  | .after => ⟨some day, none⟩
  | .on => ⟨some day, some day⟩

end Condition

/-- The parts of a list before and after its first colon. -/
def splitColon? : List Char → Option (List Char × List Char)
  | [] => none
  | c :: rest =>
    if c = ':' then some ([], rest)
    else (splitColon? rest).map fun (before, after) => (c :: before, after)

/-- The condition and day of a date directive. -/
def readDirective? (word : String) : Option (Condition × Day) := do
  let (keyword, value) ← splitColon? word.toList
  let condition ← Condition.ofKeyword? (String.ofList keyword)
  let day ← Calendar.dayOf? (String.ofList value)
  return (condition, day)

end MediaGrid
