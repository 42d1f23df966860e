import MediaGrid.Text.Digit

/-!
# Universally unique identifiers

Identifiers of 128 bits, their texts, and a supply of them. An identifier is written as 32
lower-case hexadecimal digits in five groups. It is read in either letter case, also in
braces, as a URN, or without the dashes.
-/

namespace MediaGrid

/-- A universally unique identifier. -/
structure Uuid where
  /-- The 128 bits. -/
  value : BitVec 128
  deriving DecidableEq, Repr

namespace Uuid

/-- The text of an identifier: groups of 8, 4, 4, 4 and 12 digits. -/
def text (id : Uuid) : String :=
  let all := Text.hexDigits 32 id.value.toNat
  let group := fun first count => (all.drop first).take count
  String.ofList (group 0 8 ++ '-' :: group 8 4 ++ '-' :: group 12 4 ++ '-' :: group 16 4 ++
    '-' :: group 20 12)

/-- The identifier of 32 digits. -/
def ofDigits? (chars : List Char) : Option Uuid := do
  guard (chars.length = 32)
  let n ← Text.hexNumeral? chars
  return ⟨.ofNat 128 n⟩

/-- The identifier of five groups of digits with dashes between them. -/
def ofGroups? (chars : List Char) : Option Uuid := do
  guard (chars.length = 36 ∧ [8, 13, 18, 23].all fun i => chars[i]? = some '-')
  let group := fun first count => (chars.drop first).take count
  ofDigits? (group 0 8 ++ group 9 4 ++ group 14 4 ++ group 19 4 ++ group 24 12)

/-- What may stand before a grouped identifier to make a URN of it. -/
def urnLead : List Char := "urn:uuid:".toList

/-- Reads an identifier in any of its written forms. -/
def parse? (text : String) : Option Uuid :=
  let chars := text.toList
  if chars.length = 32 then ofDigits? chars
  else if chars.head? = some '\x7b' ∧ chars.getLast? = some '\x7d' then
    ofGroups? (chars.drop 1).dropLast
  else if urnLead.isPrefixOf chars then ofGroups? (chars.drop urnLead.length)
  else ofGroups? chars

/-- Where the supply begins among the free bits, far from identifiers of few digits. -/
def supplyStart : Nat := 0x2C5E7B1D94F03A68E1B7C42F95D306

/-- The `n`-th identifier of the supply, in the layout of random identifiers: 48 and 12 free
bits with the version digit 4 between them, and after two variant bits the other 62. The
first `2 ^ 122` identifiers differ from each other. -/
def supply (n : Nat) : Uuid :=
  let free := BitVec.ofNat 122 (supplyStart + n)
  ⟨free.extractLsb' 74 48 ++ 4#4 ++ free.extractLsb' 62 12 ++ 2#2 ++ free.extractLsb' 0 62⟩

example : (parse? "urn:uuid:00112233-4455-6677-8899-AABBCCDDEEFF").map text =
    some "00112233-4455-6677-8899-aabbccddeeff" := by decide +kernel

example : parse? (supply 7).text = some (supply 7) := by decide +kernel

end Uuid

end MediaGrid
