import MediaGrid.Search.Token
import MediaGrid.Text.Case

/-!
# The directive menu

While a directive is being typed a menu of its values is offered. Which one depends on the
last word of the search: it has to begin like a keyword, with at least three characters.
-/

namespace MediaGrid

/-- The menus that may be open. -/
inductive Menu where
  /-- No menu. -/
  | closed
  /-- Values of a date directive. -/
  | date
  /-- Values of a platform directive. -/
  | platform
  deriving DecidableEq, Repr

namespace Menu

/-- The fewest characters that open a menu. -/
def minTyped : Nat := 3

/-- The keywords that may be completed, with their menus; the first that fits is taken. -/
def keywords : List (String × Menu) :=
  [("before", .date), ("after", .date), ("on", .date), ("date", .date), ("platform", .platform)]

/-- What is typed of a keyword in a word: its characters before the first colon, with ASCII
letters in lower case. -/
def typedKeyword (word : String) : List Char :=
  (word.toList.takeWhile (· != ':')).map Text.asciiLower

/-- The menu for a word. -/
def ofWord (word : String) : Menu :=
  let typed := typedKeyword word
  if typed.length < minTyped then .closed
  else
    ((keywords.find? fun (keyword, _) => typed.isPrefixOf keyword.toList).map (·.2)).getD
      .closed

/-- The token before the last one. -/
def typedToken? (tokens : List Token) : Option Token :=
  tokens.reverse[1]?

/-- The menu for the token before the stop. -/
def ofTokens (tokens : List Token) : Menu :=
  match typedToken? tokens with
  | some (.word word) => ofWord word
  | _ => .closed

/-- The menu for a search text. -/
def ofText (text : String) : Menu := ofTokens (Token.ofText text)

end Menu

end MediaGrid
