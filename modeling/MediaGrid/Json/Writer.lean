import MediaGrid.Decimal.Notation
import MediaGrid.Json.Value
import MediaGrid.Text.Digit

/-!
# Writing JSON text

Values are written without blanks. In a text, quote, backslash and the control characters
are escaped, with a short escape where there is one; every other character is written as it
is.
-/

namespace MediaGrid.Json

/-- One character inside a text. -/
def escapeChar (c : Char) : List Char :=
  if c = '"' then ['\\', '"']
  else if c = '\\' then ['\\', '\\']
  else if c = '\x08' then ['\\', 'b']
  else if c = '\x0c' then ['\\', 'f']
  else if c = '\n' then ['\\', 'n']
  else if c = '\r' then ['\\', 'r']
  else if c = '\t' then ['\\', 't']
  else if c.toNat < 0x20 then
    ['\\', 'u'] ++ Text.hexDigits 4 c.toNat
  else [c]

/-- A text in quotes. -/
def writeText (text : String) : List Char :=
  '"' :: text.toList.flatMap escapeChar ++ ['"']

/-- A number. -/
def writeNumber : Number → List Char
  | .integer n => (toString n).toList
  | .real bits => (Decimal.dataForm bits).toList

mutual

/-- A value as JSON text. -/
def writeValue : Value → List Char
  | .null => "null".toList
  | .boolean true => "true".toList
  | .boolean false => "false".toList
  | .number n => writeNumber n
  | .text t => writeText t
  | .array items => '[' :: writeItems items ++ [']']
  | .object fields => '\x7b' :: writeFields fields ++ ['\x7d']

/-- The values of a list with commas between them. -/
def writeItems : List Value → List Char
  | [] => []
  | [item] => writeValue item
  | item :: rest => writeValue item ++ ',' :: writeItems rest

/-- The fields of an object with commas between them. -/
def writeFields : List (String × Value) → List Char
  | [] => []
  | [(key, value)] => writeText key ++ ':' :: writeValue value
  | (key, value) :: rest => writeText key ++ ':' :: writeValue value ++ ',' :: writeFields rest

end

/-- A value as JSON text. -/
def Value.render (value : Value) : String := String.ofList (writeValue value)

end MediaGrid.Json
