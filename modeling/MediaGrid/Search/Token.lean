import MediaGrid.Text.Blank

/-!
# Search tokens

A search text is cut into words, and a stop follows the last of them. Words that hold a
colon have the shape of a directive, whether or not they are one.
-/

namespace MediaGrid

/-- A token of a search text. -/
inductive Token where
  /-- A word. -/
  | word (text : String)
  /-- The end of the text. -/
  | stop
  deriving DecidableEq, Repr

namespace Token

/-- The text of a word. -/
def text? : Token → Option String
  | .word text => some text
  | .stop => none

/-- Whether a token is a word that holds a colon. -/
def isDirectiveShaped : Token → Bool
  | .word text => text.toList.any (· == ':')
  | .stop => false

/-- The tokens of a search text: its words and a stop. -/
def ofText (text : String) : List Token :=
  (Text.words text).map .word ++ [.stop]

end Token

end MediaGrid
