import MediaGrid.Artifact.Metadata
import MediaGrid.Text.Case

/-!
# Snippets

A snippet is the part of a text around the first place where a fragment occurs, whatever
the letter case. The part has a given length if the text is long enough: what remains
beside the match is divided evenly, what one side cannot use goes to the other, and each
side that is cut is marked by an ellipsis. Snippets of metadata serve as completions.
-/

namespace MediaGrid

/-- What marks a side that is cut. -/
def ellipsis : String := "..."

/-- Whether two characters are the same apart from letter case. -/
def sameLetter (a b : Char) : Bool :=
  a == b || Text.lowerChar a == Text.lowerChar b

/-- Whether `chars` begins with `fragment` apart from letter case. -/
def beginsLike : (fragment chars : List Char) → Bool
  | [], _ => true
  | _ :: _, [] => false
  | a :: fragment, b :: chars => sameLetter b a && beginsLike fragment chars

/-- The first index at which a nonempty fragment occurs apart from letter case. -/
def findLike? (fragment : List Char) : List Char → Option Nat
  | [] => none
  | c :: rest =>
    if !fragment.isEmpty && beginsLike fragment (c :: rest) then some 0
    else (findLike? fragment rest).map (· + 1)

/-- First index and index after the last of the part to show, for a match from `start` to
`stop` in a text of `length` characters of which `target` are wanted. -/
def snippetBounds (start stop length target : Nat) : Nat × Nat :=
  if length ≤ target then (0, length)
  else if target ≤ stop - start then (start, stop)
  else
    let spare := target - (stop - start)
    let before := spare / 2
    let after := spare - before
    let after := if start < before then after + (before - start) else after
    let before := min before start
    let room := length - stop
    let before := if room < after then min (before + after - room) start else before
    (start - before, stop + min after room)

/-- The part of `text` around the first occurrence of `fragment`. -/
def snippet? (text fragment : String) (target : Nat) : Option String := do
  let chars := text.toList
  let wanted := fragment.toList
  let start ← findLike? wanted chars
  let (first, last) := snippetBounds start (start + wanted.length) chars.length target
  return (if 0 < first then ellipsis else "") ++ String.ofList ((chars.take last).drop first) ++
    (if last < chars.length then ellipsis else "")

/-- Adds a text to a list that does not hold it yet. -/
def addNew (texts : List String) (text : String) : List String :=
  if text ∈ texts then texts else texts ++ [text]

/-- The snippets of every fragment in every text of every record, each once, in the order in
which they are found. -/
def mineCompletions (fragments : List String) (records : List Metadata) (target : Nat) :
    List String :=
  (fragments.flatMap fun fragment =>
    records.flatMap fun record =>
      record.texts.filterMap fun text => text >>= (snippet? · fragment target)).foldl addNew []

example : snippet? "abcdefghijklmmnopqrstuvwxy" "MM" 6 = some "...klmmno..." := by decide +kernel

end MediaGrid
