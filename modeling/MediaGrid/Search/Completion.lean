import MediaGrid.Search.Menu
import MediaGrid.Search.Plan

/-!
# Completing a search text

A completion that was picked is put into the search text. One from a directive menu takes
the place of the word being typed; one mined from metadata takes the place of the last run
of plain words. Either is appended when it does not fit what it would replace.
-/

namespace MediaGrid

/-- Puts `next` in place of the last word, if that word is still being typed and `next` begins
with it, and else behind the words. -/
def completeWord (text next : String) : String :=
  let words := Text.words text
  let extends? := !Text.endsBlank text &&
    words.getLast?.any fun last => last.toList.isPrefixOf next.toList
  Text.joinWords ((if extends? then words.dropLast else words) ++ [next])

/-- The span of the last predicate, if it is a run of words that `completion` contains, both
in lower case. -/
def replacedSpan? (predicates : List Predicate) (completion : String) : Option (Nat × Nat) := do
  let last ← predicates.getLast?
  let fragment ← last.fragment?
  let span ← last.span?
  guard (Text.contains (Text.lower completion) (Text.lower fragment))
  return span

/-- Puts `completion` in place of the last run of words, if the search ends with one that the
completion contains, and else behind the words. The completion always comes last. -/
def completeRun (text completion : String) : String :=
  let words := Text.words text
  let kept := match replacedSpan? (SearchPlan.ofText text).predicates completion with
    | some (first, last) => words.take first ++ words.drop last
    | none => words
  Text.joinWords (kept ++ [completion])

end MediaGrid
