import MediaGrid.Text.Digit

/-!
# Percent-encoding

Text is written byte by byte from its UTF-8 form: letters and digits of ASCII and the four
marks `-`, `_`, `.` and `~` stand for themselves, and every other byte is a percent sign
with two capital hexadecimal digits. No colon or slash is left, so encoded texts can be
joined by them without ambiguity.
-/

namespace MediaGrid.Text

/-- The bytes that stand for themselves in percent-encoded text. -/
def isUnreserved (b : UInt8) : Bool :=
  let n := b.toNat
  (48 ≤ n && n ≤ 57) || (65 ≤ n && n ≤ 90) || (97 ≤ n && n ≤ 122) ||
    n == 45 || n == 95 || n == 46 || n == 126

/-- One byte in percent-encoded text. -/
def percentByte (b : UInt8) : List Char :=
  if isUnreserved b then [Char.ofNat b.toNat]
  else ['%', hexDigitUpper (b.toNat / 16), hexDigitUpper (b.toNat % 16)]

/-- A text in percent-encoding. -/
def percentEncode (text : String) : String :=
  String.ofList (text.toUTF8.toList.flatMap percentByte)

end MediaGrid.Text
