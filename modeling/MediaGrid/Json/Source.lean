import MediaGrid.Json.Value
import MediaGrid.Text.Digit

/-!
# Reading JSON text

A text is read into a tree that keeps everything a later reader may care about: repeated
keys stay, and a text or number that is well formed but has no value (an unpaired surrogate
escape, a number beyond the doubles) is kept as a hole. A form that never looks at such a
place accepts the text; one that does refuses it.
-/

namespace MediaGrid.Json

/-- JSON text as read. -/
inductive Source where
  /-- The word `null`. -/
  | null
  /-- A truth value. -/
  | boolean (value : Bool)
  /-- A number, or a hole where it is out of range. -/
  | number (value : Option Number)
  /-- A text, or a hole where it holds an unpaired surrogate. -/
  | text (value : Option String)
  /-- A list. -/
  | array (items : List Source)
  /-- An object with its keys as written. -/
  | object (fields : List (Option String × Source))
  deriving Repr, Inhabited

/-- The four blanks of JSON. -/
def isSpace (c : Char) : Bool := c == ' ' || c == '\n' || c == '\t' || c == '\r'

/-- Skips blanks. -/
def skipSpace (chars : List Char) : List Char := chars.dropWhile isSpace

/-! ## Texts -/

/-- A piece of a text: a character, or half of a surrogate pair. -/
inductive Piece where
  /-- A character. -/
  | char (c : Char)
  /-- A surrogate code unit. -/
  | half (unit : Nat)
  deriving DecidableEq, Repr

/-- The piece that a code unit is. -/
def Piece.ofUnit (unit : Nat) : Piece :=
  if 0xD800 ≤ unit ∧ unit ≤ 0xDFFF then .half unit else .char (Char.ofNat unit)

/-- The character of a one-letter escape. -/
def shortEscape? (c : Char) : Option Char :=
  match c with
  | '"' => some '"'
  | '\\' => some '\\'
  | '/' => some '/'
  | 'b' => some '\x08'
  | 'f' => some '\x0c'
  | 'n' => some '\n'
  | 'r' => some '\r'
  | 't' => some '\t'
  | _ => none

/-- Reads the pieces of a text after its opening quote, and the closing quote. -/
def readPieces : List Char → Option (List Piece × List Char)
  | [] => none
  | c :: rest =>
    if c = '"' then some ([], rest)
    else if c = '\\' then
      match rest with
      | 'u' :: h :: i :: j :: k :: rest => do
        let unit ← Text.hexNumeral? [h, i, j, k]
        let (pieces, rest) ← readPieces rest
        return (.ofUnit unit :: pieces, rest)
      | e :: rest => do
        let char ← shortEscape? e
        let (pieces, rest) ← readPieces rest
        return (.char char :: pieces, rest)
      | [] => none
    else if c.toNat < 0x20 then none
    else do
      let (pieces, rest) ← readPieces rest
      return (.char c :: pieces, rest)

/-- The character of a surrogate pair. -/
def pairChar (high low : Nat) : Char :=
  Char.ofNat (0x10000 + (high - 0xD800) * 0x400 + (low - 0xDC00))

/-- The characters of a list of pieces; unpaired surrogates have none. -/
def joinPieces : List Piece → Option (List Char)
  | [] => some []
  | .char c :: rest => (joinPieces rest).map (c :: ·)
  | .half high :: .half low :: rest =>
    if high ≤ 0xDBFF ∧ 0xDC00 ≤ low then (joinPieces rest).map (pairChar high low :: ·)
    else none
  | .half _ :: _ => none

/-- The text that a list of pieces stands for. -/
def pieceText (pieces : List Piece) : Option String := (joinPieces pieces).map String.ofList

/-! ## Numbers -/

/-- The largest 64-bit natural number. -/
def wordMax : Nat := UInt64.size - 1

/-- A decimal significand kept within 64 bits, with its power of ten. -/
structure Significand where
  /-- The leading digits. -/
  value : Nat
  /-- The power of ten they are multiplied by. -/
  exponent : Int

/-- Takes digits into a significand as long as it stays within 64 bits; the count of digits
that are left over is returned. -/
def takeDigits : Nat → List Char → Nat × List Char
  | value, [] => (value, [])
  | value, d :: rest =>
    let next := value * 10 + Text.digitValue d
    if next ≤ wordMax then takeDigits next rest
    else (value, d :: rest)

/-- The significand of the digits before and after the point. Whole digits that do not fit
raise the exponent; fraction digits that do not fit are dropped. -/
def significandOf (whole fraction : List Char) : Significand :=
  let (value, dropped) := takeDigits 0 whole
  let (value, unread) := takeDigits value fraction
  ⟨value, (dropped.length : Int) - (fraction.length - unread.length : Nat)⟩

/-- A power of ten as a double. -/
def tenTo (n : Nat) : Float := Float.ofScientific 1 false n

/-- A double times a power of ten; nothing where the product is beyond the doubles. -/
def scaleByTen : Nat → Float → Int → Option Float
  | 0, f, _ => some f
  | fuel + 1, f, exponent =>
    if exponent.natAbs ≤ 308 then
      if 0 ≤ exponent then
        let product := f * tenTo exponent.toNat
        if product.isInf then none else some product
      else some (f / tenTo exponent.natAbs)
    else if f == 0.0 then some f
    else if 0 ≤ exponent then none
    else scaleByTen fuel (f / tenTo 308) (exponent + 308)

/-- The double of a significand with an exponent and a sign. -/
def Significand.toReal (s : Significand) (negative : Bool) : Option Number :=
  (scaleByTen 8 (UInt64.ofNat s.value).toFloat s.exponent).map fun f =>
    .real (if negative then -f else f).toBits

/-- The value of a number from the parts of its text. Whole numbers within 64 bits, with or
without sign, stay integers, except for a negative zero. -/
def numberOf (negative : Bool) (whole : List Char) (fraction : Option (List Char))
    (power : Option (Bool × List Char)) : Option Number :=
  match fraction, power with
  | none, none =>
    let n := Text.numeral whole
    if negative then
      if n ≠ 0 ∧ n ≤ UInt64.size / 2 then some (.integer (-(n : Int)))
      else (significandOf whole []).toReal true
    else if n ≤ wordMax then some (.integer n)
    else (significandOf whole []).toReal false
  | _, none => (significandOf whole (fraction.getD [])).toReal negative
  | _, some (lowered, digits) =>
    let s := significandOf whole (fraction.getD [])
    let n := Text.numeral digits
    if UInt32.size / 2 ≤ n then
      if s.value ≠ 0 ∧ !lowered then none
      else some (.real (if negative then -(0.0 : Float) else 0.0).toBits)
    else
      Significand.toReal ⟨s.value, if lowered then s.exponent - n else s.exponent + n⟩ negative

/-- Reads at least one digit. -/
def readDigits (chars : List Char) : Option (List Char × List Char) :=
  let digits := chars.takeWhile Text.isDigit
  if digits.isEmpty then none else some (digits, chars.dropWhile Text.isDigit)

/-- Reads the digits before the point: a single zero, or digits that start with another. -/
def readWhole (chars : List Char) : Option (List Char × List Char) := do
  let (digits, rest) ← readDigits chars
  if digits.head? = some '0' ∧ digits.length ≠ 1 then none else some (digits, rest)

/-- Reads a point and the digits after it, if there is a point. -/
def readFraction : List Char → Option (Option (List Char) × List Char)
  | '.' :: rest => (readDigits rest).map fun (digits, rest) => (some digits, rest)
  | rest => some (none, rest)

/-- Reads the exponent, if there is one: whether it is negative, and its digits. -/
def readPower : List Char → Option (Option (Bool × List Char) × List Char)
  | [] => some (none, [])
  | c :: rest =>
    if c = 'e' ∨ c = 'E' then
      match rest with
      | '-' :: rest => (readDigits rest).map fun (digits, rest) => (some (true, digits), rest)
      | '+' :: rest => (readDigits rest).map fun (digits, rest) => (some (false, digits), rest)
      | rest => (readDigits rest).map fun (digits, rest) => (some (false, digits), rest)
    else some (none, c :: rest)

/-- Reads a number after its optional sign. -/
def readMagnitude (negative : Bool) (chars : List Char) : Option (Option Number × List Char) := do
  let (whole, rest) ← readWhole chars
  let (fraction, rest) ← readFraction rest
  let (power, rest) ← readPower rest
  return (numberOf negative whole fraction power, rest)

/-! ## Values -/

/-- Reads a key with the colon after it. -/
def readKey (chars : List Char) : Option (Option String × List Char) :=
  match skipSpace chars with
  | '"' :: rest => do
    let (pieces, rest) ← readPieces rest
    match skipSpace rest with
    | ':' :: rest => return (pieceText pieces, rest)
    | _ => none
  | _ => none

mutual

/-- Reads one value; `fuel` bounds the number of nested calls. -/
def readValue : Nat → List Char → Option (Source × List Char)
  | 0, _ => none
  | fuel + 1, chars =>
    match skipSpace chars with
    | 'n' :: 'u' :: 'l' :: 'l' :: rest => some (.null, rest)
    | 't' :: 'r' :: 'u' :: 'e' :: rest => some (.boolean true, rest)
    | 'f' :: 'a' :: 'l' :: 's' :: 'e' :: rest => some (.boolean false, rest)
    | '"' :: rest => (readPieces rest).map fun (pieces, rest) => (.text (pieceText pieces), rest)
    | '-' :: rest => (readMagnitude true rest).map fun (number, rest) => (.number number, rest)
    | '[' :: rest =>
      match skipSpace rest with
      | ']' :: rest => some (.array [], rest)
      | rest => (readItems fuel rest).map fun (items, rest) => (.array items, rest)
    | '\x7b' :: rest =>
      match skipSpace rest with
      | '\x7d' :: rest => some (.object [], rest)
      | rest => (readFields fuel rest).map fun (fields, rest) => (.object fields, rest)
    | rest => (readMagnitude false rest).map fun (number, rest) => (.number number, rest)

/-- Reads the values of a list up to its closing bracket. -/
def readItems : Nat → List Char → Option (List Source × List Char)
  | 0, _ => none
  | fuel + 1, chars => do
    let (item, rest) ← readValue fuel chars
    match skipSpace rest with
    | ']' :: rest => return ([item], rest)
    | ',' :: rest => do
      let (items, rest) ← readItems fuel rest
      return (item :: items, rest)
    | _ => none

/-- Reads the fields of an object up to its closing brace. -/
def readFields : Nat → List Char → Option (List (Option String × Source) × List Char)
  | 0, _ => none
  | fuel + 1, chars => do
    let (key, rest) ← readKey chars
    let (value, rest) ← readValue fuel rest
    match skipSpace rest with
    | '\x7d' :: rest => return ([(key, value)], rest)
    | ',' :: rest => do
      let (fields, rest) ← readFields fuel rest
      return ((key, value) :: fields, rest)
    | _ => none

end

/-- Reads a whole text: one value with blanks around it. -/
def parseChars (chars : List Char) : Option Source := do
  let (source, rest) ← readValue (2 * chars.length + 2) chars
  guard (skipSpace rest).isEmpty
  return source

/-- Reads a whole text. -/
def parse (text : String) : Option Source := parseChars text.toList

end MediaGrid.Json
