import MediaGrid.Search.Predicate

/-!
# Compiled searches

A search text is cut into tokens, the tokens are grouped into predicates, and the
conjunction of the predicates is multiplied out into the list of queries that is sent to
the backend: an artifact is found when it meets one of them.
-/

namespace MediaGrid

/-- The progress of grouping: the predicate being built and those that are complete. -/
structure Grouping where
  /-- The predicate that the next token is offered to first. -/
  current : Predicate
  /-- The complete predicates, in order. -/
  complete : List Predicate

namespace Grouping

/-- Grouping before the first token. -/
def start : Grouping := ⟨.initial .date, []⟩

/-- The first new predicate that accepts a token, dates before runs. -/
def opened? (token : Token) (position : Nat) : Option Predicate :=
  [PredicateKind.date, .text].findSome? fun kind =>
    let (accepted, predicate) := (Predicate.initial kind).offer token position
    if accepted then some predicate else none

/-- Groups one more token. If the current predicate refuses it, the predicate is kept if it is
complete, and the token opens another one or is dropped. -/
def step (grouping : Grouping) (token : Token) (position : Nat) : Grouping :=
  let (accepted, current) := grouping.current.offer token position
  if accepted then { grouping with current := current }
  else
    { current := (opened? token position).getD (.initial .date)
      complete := grouping.complete ++ if current.isComplete then [current] else [] }

end Grouping

/-- The complete predicates of a list of tokens, in order. A predicate that no token ended is
not among them. -/
def predicatesOf (tokens : List Token) : List Predicate :=
  (tokens.zipIdx.foldl (fun grouping (token, position) => grouping.step token position)
    Grouping.start).complete

/-- Every query of the first list merged with every query of the second, the first list
varying slowest. -/
def combine (queries choices : List Query) : List Query :=
  queries.flatMap fun query => choices.map query.override

/-- The conjunction of predicates as a list of queries. Predicates without choices are
passed over. -/
def queriesOf (predicates : List Predicate) : List Query :=
  predicates.foldl
    (fun queries predicate =>
      let choices := predicate.choices
      if choices.isEmpty then queries else combine queries choices)
    [Query.all]

/-- A search text with what it was compiled to. -/
structure SearchPlan where
  /-- The tokens of the text. -/
  tokens : List Token
  /-- The predicates of the tokens. -/
  predicates : List Predicate
  /-- The queries of the predicates. -/
  queries : List Query
  deriving DecidableEq, Repr

namespace SearchPlan

/-- Compiles a search text. -/
def ofText (text : String) : SearchPlan :=
  let tokens := Token.ofText text
  let predicates := predicatesOf tokens
  ⟨tokens, predicates, queriesOf predicates⟩

/-- The fragments of the text runs, in order. -/
def fragments (plan : SearchPlan) : List String :=
  plan.predicates.filterMap Predicate.fragment?

end SearchPlan

end MediaGrid
