import MediaGrid.Search.Directive
import MediaGrid.Search.Token

/-!
# Predicates of a search

The words of a search are grouped into predicates: each date directive is one, and so is
each unbroken run of plain words. A predicate is built by offering it tokens one at a time;
it stands for a choice of queries, one of which has to hold.
-/

namespace MediaGrid

/-- A date directive with its place among the tokens. -/
structure DateMatch where
  /-- How capture days relate to the day. -/
  condition : Condition
  /-- The day. -/
  day : Day
  /-- The index of the directive's token. -/
  position : Nat
  deriving DecidableEq, Repr

/-- A run of plain words. -/
structure TextRun where
  /-- The words so far. -/
  words : List String
  /-- The index of the first word's token; zero as long as there is no word. -/
  start : Nat
  /-- Whether a token has ended the run. -/
  ended : Bool
  deriving DecidableEq, Repr

/-- The kinds of predicate. -/
inductive PredicateKind where
  /-- A date directive. -/
  | date
  /-- A run of plain words. -/
  | text
  deriving DecidableEq, Repr

/-- A predicate of a search, possibly unfinished. -/
inductive Predicate where
  /-- A date directive, once one was offered. -/
  | date (found : Option DateMatch)
  /-- A run of plain words. -/
  | text (run : TextRun)
  deriving DecidableEq, Repr

/-- The words of a run, joined by single spaces. -/
def TextRun.fragment (run : TextRun) : String := Text.joinWords run.words

namespace Predicate

/-- A predicate that was offered nothing yet. -/
def initial : PredicateKind → Predicate
  | .date => .date none
  | .text => .text ⟨[], 0, false⟩

/-- Offers the token at index `position`: whether it is accepted, and the predicate after
the offer. A date predicate accepts one directive. A run accepts words without a colon until
it refuses a token, which ends it. -/
def offer (predicate : Predicate) (token : Token) (position : Nat) : Bool × Predicate :=
  match predicate with
  | .date (some found) => (false, .date (some found))
  | .date none =>
    match token.text? >>= readDirective? with
    | some (condition, day) => (true, .date (some ⟨condition, day, position⟩))
    | none => (false, .date none)
  | .text run =>
    if run.ended then (false, .text run)
    else match token with
      | .word plain =>
        if token.isDirectiveShaped then (false, .text { run with ended := true })
        else
          let start := if run.words.isEmpty then position else run.start
          (true, .text { run with words := run.words ++ [plain], start := start })
      | .stop => (false, .text { run with ended := true })

/-- Whether the predicate is complete: it has its directive, or words and an end. -/
def isComplete : Predicate → Bool
  | .date found => found.isSome
  | .text run => run.ended && !run.words.isEmpty

/-- The joined words of a run that has any. -/
def fragment? : Predicate → Option String
  | .date _ => none
  | .text run => if run.words.isEmpty then none else some run.fragment

/-- The indices of the predicate's tokens, as first index and index after the last. -/
def span? : Predicate → Option (Nat × Nat)
  | .date found => found.map fun m => (m.position, m.position + 1)
  | .text run =>
    if run.words.isEmpty then none else some (run.start, run.start + run.words.length)

/-- The queries of which one has to hold. A fragment may occur in any of the four text
fields. -/
def choices : Predicate → List Query
  | .date none => []
  | .date (some found) => [{ Query.all with captured := some (found.condition.range found.day) }]
  | .text run =>
    if run.words.isEmpty then []
    else
      let fragment := some run.fragment
      [{ Query.all with name := fragment }, { Query.all with notes := fragment },
        { Query.all with camera := fragment }, { Query.all with session := fragment }]

end Predicate

end MediaGrid
