import MediaGrid.Text.CaseData

/-!
# Lower case

Letter case in all scripts. A single character is lower-cased to one or two characters; a
whole text is lower-cased character by character, except that a capital sigma at the end
of a word becomes the final form of the small letter.
-/

namespace MediaGrid.Text

/-- The capital sigma, the only letter whose lower case depends on its place in a word. -/
def capitalSigma : Char := 'Σ'

/-- Lower-cases an ASCII letter and keeps every other character. -/
def asciiLower (c : Char) : Char :=
  if 'A' ≤ c ∧ c ≤ 'Z' then Char.ofNat (c.toNat + 32) else c

/-- A text with its ASCII letters in lower case. -/
def asciiLowerText (text : String) : String :=
  String.ofList (text.toList.map asciiLower)

/-- The lower case of one character out of context. Only the capital I with a dot has two
characters: the small letter and a combining dot. -/
def lowerChar (c : Char) : List Char :=
  let n := c.toNat
  if n < 128 then [asciiLower c]
  else if n = 0x130 then ['i', '\u0307']
  else match lowerRuns.find? (·.covers n) with
    | some run => [Char.ofNat (Int.toNat (n + run.shift))]
    | none => [c]

/-- Whether a character takes part in letter case. -/
def isCased (c : Char) : Bool := inIntervals casedIntervals c.toNat

/-- Whether a character is skipped when the neighbourhood of a sigma is examined. -/
def isCaseIgnorable (c : Char) : Bool := inIntervals caseIgnorableIntervals c.toNat

/-- Whether the first character that is not skipped takes part in letter case. -/
def meetsCased (chars : List Char) : Bool :=
  (chars.dropWhile isCaseIgnorable).head?.any isCased

/-- Lower-cases `chars`, which stand after the characters `before` (nearest first). A capital
sigma is final when a cased letter stands before it and none after it. -/
def lowerFrom (before : List Char) : List Char → List Char
  | [] => []
  | c :: rest =>
    (if c = capitalSigma then
      if meetsCased before && !meetsCased rest then ['ς'] else ['σ']
    else lowerChar c) ++ lowerFrom (c :: before) rest

/-- The lower case of a list of characters. -/
def lowerChars (chars : List Char) : List Char := lowerFrom [] chars

/-- The lower case of a text. -/
def lower (text : String) : String := String.ofList (lowerChars text.toList)

example : lower "ÀB Σ ΟΔΟΣ" = "àb σ οδος" := by decide +kernel

example : lower "İ" = "i̇" := by decide +kernel

end MediaGrid.Text
