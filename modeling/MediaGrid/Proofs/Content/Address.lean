import Mathlib.Control.Basic
import Mathlib.Data.List.Basic
import MediaGrid.Content.Shelf
import MediaGrid.Proofs.Text.Digit

/-!
# Local addresses can be read back

The text of an identifier is its 32 digits in five groups, and it is read by none of the shorter
ways: it has the wrong length for bare digits, and a digit is neither a brace nor the beginning of a
URN. So every identifier is read back from its text, and from the local address made of it. The
other texts that are understood as identifiers are no part of it.
-/

namespace MediaGrid

namespace Uuid

/-- Digits in five groups are read without the dashes. -/
theorem ofGroups?_groups {a b c d e : List Char} (ha : a.length = 8) (hb : b.length = 4)
    (hc : c.length = 4) (hd : d.length = 4) (he : e.length = 12) :
    ofGroups? (a ++ '-' :: b ++ '-' :: c ++ '-' :: d ++ '-' :: e) =
      ofDigits? (a ++ b ++ c ++ d ++ e) := by
  have hdashes : (a ++ '-' :: b ++ '-' :: c ++ '-' :: d ++ '-' :: e).length = 36 ∧
      [8, 13, 18, 23].all fun i =>
        (a ++ '-' :: b ++ '-' :: c ++ '-' :: d ++ '-' :: e)[i]? = some '-' := by
    simp [ha, hb, hc, hd, he, List.getElem?_append]
  simp only [ofGroups?, guard, if_pos hdashes, Option.bind_eq_bind]
  simp (disch := omega) [ha, hb, hc, hd, List.drop_append, List.drop_of_length_le,
    List.take_of_length_le]

/-- A part of a list and the part behind it make a longer part. -/
theorem take_drop_append {α : Type} (list : List α) (start count more : Nat) :
    (list.drop start).take count ++ (list.drop (start + count)).take more =
      (list.drop start).take (count + more) := by
  rw [List.take_add, List.drop_drop]

theorem ofDigits?_hexDigits (id : Uuid) :
    ofDigits? (Text.hexDigits 32 id.value.toNat) = some id := by
  have hfits : id.value.toNat < 16 ^ 32 := id.value.isLt
  have hback : BitVec.ofNat 128 id.value.toNat = id.value := by
    rw [BitVec.ofNat_toNat, BitVec.setWidth_eq]
  simp only [ofDigits?, Text.length_hexDigits, guard, if_true, Text.hexNumeral?_hexDigits,
    Nat.mod_eq_of_lt hfits, Option.pure_def, Option.bind_eq_bind, Option.bind_some, hback]

/-- The text of an identifier begins with a digit. -/
theorem exists_text_eq_cons (id : Uuid) :
    ∃ d < 16, ∃ rest, id.text.toList = Text.hexDigitLower d :: rest := by
  have hlength := Text.length_hexDigits 32 id.value.toNat
  cases hdigits : Text.hexDigits 32 id.value.toNat with
  | nil =>
    rw [hdigits] at hlength
    cases hlength
  | cons first rest =>
    obtain ⟨d, hd, rfl⟩ := Text.exists_of_mem_hexDigits (hdigits ▸ List.mem_cons_self)
    refine ⟨d, hd, ?_⟩
    simp [text, hdigits]

theorem length_text (id : Uuid) : id.text.toList.length = 36 := by
  simp [text, Text.length_hexDigits]

/-- The text of an identifier is read as groups of digits. -/
theorem ofGroups?_text (id : Uuid) : ofGroups? id.text.toList = some id := by
  have hall := Text.length_hexDigits 32 id.value.toNat
  rw [text, String.toList_ofList, ofGroups?_groups]
  · rw [take_drop_append, take_drop_append _ 0, take_drop_append _ 0, take_drop_append _ 0,
      List.drop_zero, List.take_of_length_le (Nat.le_of_eq hall), ofDigits?_hexDigits]
  all_goals rw [List.length_take, List.length_drop, hall]; rfl

/-- An identifier is read back from its text. -/
theorem parse?_text (id : Uuid) : parse? id.text = some id := by
  obtain ⟨d, hd, rest, hcons⟩ := id.exists_text_eq_cons
  have hdigits : ∀ d < 16, Text.hexDigitLower d ≠ '\x7b' ∧ Text.hexDigitLower d ≠ 'u' := by decide
  obtain ⟨hbrace, hletter⟩ := hdigits d hd
  have hbare : id.text.toList.length ≠ 32 := by
    rw [length_text]
    decide
  have hbraced : ¬(id.text.toList.head? = some '\x7b' ∧ id.text.toList.getLast? = some '\x7d') := by
    rw [hcons]
    exact fun h => hbrace (Option.some.inj h.1)
  have hurn : ¬urnLead.isPrefixOf id.text.toList := by
    rw [hcons]
    intro h
    have hfirst := List.cons_prefix_cons.mp (List.isPrefixOf_iff_prefix.mp h)
    exact hletter hfirst.1.symm
  simp only [parse?, if_neg hbare, if_neg hbraced, if_neg hurn, ofGroups?_text]

end Uuid

namespace Shelf

/-- The identifier is read back from the address of a handle. -/
theorem addressId?_url (handle : Handle) : addressId? handle.url = some handle.id := by
  have hlead : (addressScheme ++ "/" ++ handle.id.text).toList =
      (addressScheme ++ "/").toList ++ handle.id.text.toList := String.toList_append
  simp only [addressId?, Handle.url, hlead, List.isPrefixOf_iff_prefix.mpr (List.prefix_append _ _),
    if_true, List.drop_left, String.ofList_toList, Uuid.parse?_text]

/-- What is found at the address of a handle is what is kept under its identifier. -/
theorem contentAt?_url (shelf : Shelf) (handle : Handle) :
    shelf.contentAt? handle.url = (shelf.find? handle.id).map (·.data) := by
  rw [contentAt?, addressId?_url]
  rfl

end Shelf

end MediaGrid
