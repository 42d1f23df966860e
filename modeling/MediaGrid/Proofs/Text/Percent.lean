import Mathlib.Data.List.Basic
import MediaGrid.Text.Percent

/-!
# Percent-encoded text can be read back

A byte is written as itself or as a percent sign with two digits, and no byte that stands for itself
is a percent sign. So no written byte begins another one, and the bytes can be told from what is
written, one after the other. A text is given by its UTF-8 bytes, so different texts are written
differently. A colon is never written, so encoded texts can be joined by colons.
-/

namespace MediaGrid.Text

/-! ## Bytes -/

/-- A byte that stands for itself keeps its number. -/
theorem toNat_ofNat_byte (b : UInt8) : (Char.ofNat b.toNat).toNat = b.toNat := by
  have hb := b.toNat_lt
  have hvalid : b.toNat.isValidChar := Or.inl (by omega)
  rw [Char.ofNat, dif_pos hvalid]
  rfl

/-- A number below sixteen is told by its digit. -/
theorem hexDigitUpper_inj {m n : Nat} (hm : m < 16) (hn : n < 16)
    (h : hexDigitUpper m = hexDigitUpper n) : m = n := by
  have hvalue := congrArg hexValue? h
  rw [hexValue?_hexDigitUpper hm, hexValue?_hexDigitUpper hn] at hvalue
  exact Option.some.inj hvalue

/-- A percent sign does not stand for itself. -/
theorem ofNat_ne_percent {b : UInt8} (h : isUnreserved b = true) : Char.ofNat b.toNat ≠ '%' := by
  intro heq
  have hnumber : b.toNat = 37 := by rw [← toNat_ofNat_byte b, heq]; rfl
  rw [isUnreserved, hnumber] at h
  exact absurd h (by decide)

/-- No written byte begins another one. -/
theorem percentByte_append_inj {b c : UInt8} {s t : List Char}
    (h : percentByte b ++ s = percentByte c ++ t) : b = c ∧ s = t := by
  unfold percentByte at h
  have hb := b.toNat_lt
  have hc := c.toNat_lt
  split at h <;> rename_i hplain <;> split at h <;> rename_i hplain'
  · obtain ⟨hchar, hrest⟩ := List.cons.inj h
    have hnumber := congrArg Char.toNat hchar
    rw [toNat_ofNat_byte, toNat_ofNat_byte] at hnumber
    exact ⟨UInt8.toNat_inj.mp hnumber, hrest⟩
  · exact absurd (List.cons.inj h).1 (ofNat_ne_percent hplain)
  · exact absurd (List.cons.inj h).1.symm (ofNat_ne_percent hplain')
  · obtain ⟨-, hdigits⟩ := List.cons.inj h
    obtain ⟨hhigh, hdigits⟩ := List.cons.inj hdigits
    obtain ⟨hlow, hrest⟩ := List.cons.inj hdigits
    have hdiv := hexDigitUpper_inj (by omega) (by omega) hhigh
    have hmod := hexDigitUpper_inj (by omega) (by omega) hlow
    have hnumber : b.toNat = c.toNat := by omega
    exact ⟨UInt8.toNat_inj.mp hnumber, hrest⟩

theorem percentByte_ne_nil (b : UInt8) : percentByte b ≠ [] := by
  unfold percentByte
  split <;> exact List.cons_ne_nil _ _

/-- The bytes can be told from what is written. -/
theorem flatMap_percentByte_inj {bytes bytes' : List UInt8}
    (h : bytes.flatMap percentByte = bytes'.flatMap percentByte) : bytes = bytes' := by
  induction bytes generalizing bytes' with
  | nil =>
    cases bytes' with
    | nil => rfl
    | cons c rest => exact absurd (List.append_eq_nil_iff.mp h.symm).1 (percentByte_ne_nil c)
  | cons b rest ih =>
    cases bytes' with
    | nil => exact absurd (List.append_eq_nil_iff.mp h).1 (percentByte_ne_nil b)
    | cons c rest' =>
      rw [List.flatMap_cons, List.flatMap_cons] at h
      obtain ⟨rfl, hrest⟩ := percentByte_append_inj h
      rw [ih hrest]

/-! ## Texts -/

/-- The bytes of an array are listed from a place on. -/
theorem toList_loop (bytes : ByteArray) (i : Nat) (before : List UInt8) :
    ByteArray.toList.loop bytes i before = before.reverse ++ bytes.data.toList.drop i := by
  induction i, before using (ByteArray.toList.loop.induct bytes) with
  | case1 i before hlt ih =>
    have hi : i < bytes.data.toList.length := hlt
    have hget : bytes.get! i = bytes.data.toList[i] := getElem!_pos bytes.data i hlt
    rw [ByteArray.toList.loop, if_pos hlt, ih, List.drop_eq_getElem_cons hi, hget,
      List.reverse_cons, List.append_assoc]
    rfl
  | case2 i before hge =>
    have hle : bytes.data.toList.length ≤ i := Nat.le_of_not_lt hge
    rw [ByteArray.toList.loop, if_neg hge, List.drop_eq_nil_of_le hle, List.append_nil]

/-- An array of bytes is told by the list of its bytes. -/
theorem toList_bytes_inj {bytes bytes' : ByteArray} (h : bytes.toList = bytes'.toList) :
    bytes = bytes' := by
  rw [ByteArray.toList, ByteArray.toList, toList_loop, toList_loop] at h
  exact ByteArray.ext (Array.toList_inj.mp h)

/-- Different texts are written differently. -/
theorem percentEncode_inj {text text' : String} (h : percentEncode text = percentEncode text') :
    text = text' := by
  have hbytes := flatMap_percentByte_inj (String.ofList_inj.mp h)
  exact String.toByteArray_inj.mp (toList_bytes_inj hbytes)

/-- No character is written but those that stand for themselves, the percent sign and capital
digits. -/
theorem mem_percentEncode {text : String} {c : Char} (h : c ∈ (percentEncode text).toList) :
    (∃ b, isUnreserved b = true ∧ c = Char.ofNat b.toNat) ∨ c = '%' ∨
      ∃ n < 16, c = hexDigitUpper n := by
  rw [percentEncode, String.toList_ofList] at h
  obtain ⟨b, -, hm⟩ := List.mem_flatMap.mp h
  have hb := b.toNat_lt
  unfold percentByte at hm
  split at hm
  · rename_i hplain
    exact Or.inl ⟨b, hplain, List.mem_singleton.mp hm⟩
  · rcases List.mem_cons.mp hm with rfl | hm
    · exact Or.inr (Or.inl rfl)
    · rcases List.mem_cons.mp hm with rfl | hm
      · exact Or.inr (Or.inr ⟨_, by omega, rfl⟩)
      · exact Or.inr (Or.inr ⟨_, by omega, List.mem_singleton.mp hm⟩)

/-- No colon is written. -/
theorem colon_not_mem_percentEncode (text : String) : ':' ∉ (percentEncode text).toList := by
  intro hm
  rcases mem_percentEncode hm with ⟨b, hplain, heq⟩ | heq | ⟨n, hn, heq⟩
  · have hnumber : b.toNat = 58 := by rw [← toNat_ofNat_byte b, ← heq]; rfl
    rw [isUnreserved, hnumber] at hplain
    exact absurd hplain (by decide)
  · exact absurd heq (by decide)
  · have all : ∀ m : Fin 16, ':' ≠ hexDigitUpper m.val := by decide
    exact all ⟨n, hn⟩ heq

end MediaGrid.Text
