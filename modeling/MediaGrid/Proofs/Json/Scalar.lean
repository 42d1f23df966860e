import Mathlib.Data.List.Basic
import Mathlib.Tactic.SplitIfs
import MediaGrid.Json.Source
import MediaGrid.Json.Writer
import MediaGrid.Proofs.Text.Digit

/-!
# Texts and integers read back

A text is read back from its quotes, whatever characters it is made of: a character that is escaped
is read back from its escape, and every other one stands for itself. An integer of 64 bits, with or
without sign, is read back from its digits, as long as nothing behind it could belong to a number.
-/

namespace MediaGrid.Json

/-! ## Texts -/

/-- Puts a piece before those that were read. -/
def pushPiece (piece : Piece) (read : List Piece × List Char) : List Piece × List Char :=
  (piece :: read.1, read.2)

/-- An escape of one letter stands for its character. -/
theorem readPieces_short {e c : Char} (h : shortEscape? e = some c) (rest : List Char) :
    readPieces ('\\' :: e :: rest) = (readPieces rest).map (pushPiece (.char c)) := by
  rw [readPieces, if_neg (by decide), if_pos rfl, h, Option.map_eq_bind]
  · rfl
  · rintro _ _ _ _ _ rfl
    cases h

/-- An escape of four hexadecimal digits stands for its code unit. -/
theorem readPieces_unit {h i j k : Char} {unit : Nat}
    (hunit : Text.hexNumeral? [h, i, j, k] = some unit) (rest : List Char) :
    readPieces ('\\' :: 'u' :: h :: i :: j :: k :: rest) =
      (readPieces rest).map (pushPiece (.ofUnit unit)) := by
  rw [readPieces, if_neg (by decide), if_pos rfl, hunit, Option.map_eq_bind]
  rfl

/-- A character that needs no escape stands for itself. -/
theorem readPieces_plain {c : Char} (hquote : c ≠ '"') (hslash : c ≠ '\\')
    (hcontrol : ¬c.toNat < 0x20) (rest : List Char) :
    readPieces (c :: rest) = (readPieces rest).map (pushPiece (.char c)) := by
  rw [readPieces.eq_def, Option.map_eq_bind]
  simp only [if_neg hquote, if_neg hslash, if_neg hcontrol]
  rfl

/-- The code unit of a control character is the character. -/
theorem ofUnit_toNat {c : Char} (h : c.toNat < 0x20) : Piece.ofUnit c.toNat = .char c := by
  rw [Piece.ofUnit, if_neg (by omega), Char.ofNat_toNat]

/-- A character is read back from the way it is written inside a text. -/
theorem readPieces_escapeChar (c : Char) (rest : List Char) :
    readPieces (escapeChar c ++ rest) = (readPieces rest).map (pushPiece (.char c)) := by
  unfold escapeChar
  split_ifs with hquote hslash _ _ _ _ _ hcontrol
  -- The characters with a short escape.
  iterate 7
    subst c
    exact readPieces_short rfl rest
  · have hunit : Text.hexNumeral? (Text.hexDigits 4 c.toNat) = some c.toNat := by
      rw [Text.hexNumeral?_hexDigits, Nat.mod_eq_of_lt (by omega)]
    rw [← ofUnit_toNat hcontrol]
    exact readPieces_unit hunit rest
  · exact readPieces_plain hquote hslash hcontrol rest

/-- The characters of a text are read back up to its closing quote. -/
theorem readPieces_text (chars rest : List Char) :
    readPieces (chars.flatMap escapeChar ++ '"' :: rest) = some (chars.map .char, rest) := by
  induction chars with
  | nil =>
    rw [List.flatMap_nil, List.nil_append, readPieces.eq_def]
    rfl
  | cons c chars ih =>
    rw [List.flatMap_cons, List.append_assoc, readPieces_escapeChar, ih]
    rfl

/-- Pieces that are characters have no surrogate to pair. -/
theorem joinPieces_char (chars : List Char) : joinPieces (chars.map .char) = some chars := by
  induction chars with
  | nil => rfl
  | cons c chars ih => rw [List.map_cons, joinPieces, ih, Option.map_some]

/-- The pieces of a text stand for it. -/
theorem pieceText_char (text : String) : pieceText (text.toList.map .char) = some text := by
  rw [pieceText, joinPieces_char, Option.map_some, String.ofList_toList]

/-- What is written of a text is an opening quote and what is read up to the closing one. -/
theorem writeText_append (text : String) (rest : List Char) :
    writeText text ++ rest = '"' :: (text.toList.flatMap escapeChar ++ '"' :: rest) := by
  simp [writeText]

/-- A key is read back with the colon behind it. -/
theorem readKey_writeText (key : String) (rest : List Char) :
    readKey (writeText key ++ ':' :: rest) = some (some key, rest) := by
  have hquote : skipSpace (writeText key ++ ':' :: rest) = writeText key ++ ':' :: rest := by
    rw [writeText_append]
    rfl
  rw [readKey, hquote, writeText_append]
  simp only [readPieces_text, Option.bind_eq_bind, Option.bind_some, pieceText_char]
  rfl

/-! ## Integers -/

/-- Whether nothing at the front of a text could belong to a number before it. -/
def EndsNumber (rest : List Char) : Prop :=
  ∀ c ∈ rest.head?, Text.isDigit c = false ∧ c ≠ '.' ∧ c ≠ 'e' ∧ c ≠ 'E'

theorem endsNumber_nil : EndsNumber [] := nofun

theorem endsNumber_cons {c : Char} {rest : List Char}
    (h : Text.isDigit c = false ∧ c ≠ '.' ∧ c ≠ 'e' ∧ c ≠ 'E') : EndsNumber (c :: rest) := by
  rintro _ ⟨⟩
  exact h

/-- A number other than zero does not begin with a zero. -/
theorem head?_toDigits_ne {n : Nat} (h : n ≠ 0) : (Nat.toDigits 10 n).head? ≠ some '0' := by
  induction n using Nat.strongRecOn with
  | ind n ih =>
    by_cases hsmall : n < 10
    · have hdigits : ∀ m : Fin 10, m.val ≠ 0 → m.val.digitChar ≠ '0' := by decide
      rw [Nat.toDigits_of_lt_base hsmall, List.head?_cons, ne_eq, Option.some.injEq]
      exact hdigits ⟨n, hsmall⟩ h
    · rw [Nat.toDigits_of_base_le (by decide) (Nat.not_lt.mp hsmall),
        List.head?_append_of_ne_nil _ Nat.toDigits_ne_nil]
      exact ih (n / 10) (by omega) (by omega)

/-- Digits are read up to the first character that is none. -/
theorem readDigits_append {digits rest : List Char} (hne : digits ≠ [])
    (hdigits : ∀ c ∈ digits, Text.isDigit c = true) (hrest : EndsNumber rest) :
    readDigits (digits ++ rest) = some (digits, rest) := by
  have hstop : rest.takeWhile Text.isDigit = [] ∧ rest.dropWhile Text.isDigit = rest := by
    cases rest with
    | nil => exact ⟨rfl, rfl⟩
    | cons c rest =>
      have hc := (hrest c rfl).1
      exact ⟨List.takeWhile_cons_of_neg (by simp [hc]), List.dropWhile_cons_of_neg (by simp [hc])⟩
  rw [readDigits, List.takeWhile_append_of_pos hdigits, List.dropWhile_append_of_pos hdigits,
    hstop.1, hstop.2, List.append_nil]
  simp [hne]

/-- The digits of a natural number are read back as they are. -/
theorem readWhole_toDigits (n : Nat) {rest : List Char} (hrest : EndsNumber rest) :
    readWhole (Nat.toDigits 10 n ++ rest) = some (Nat.toDigits 10 n, rest) := by
  have hread := readDigits_append Nat.toDigits_ne_nil
    (fun _ hm => Text.isDigit_of_mem_toDigits (n := n) hm) hrest
  have hzero : ¬((Nat.toDigits 10 n).head? = some '0' ∧ (Nat.toDigits 10 n).length ≠ 1) := by
    rintro ⟨hhead, hlength⟩
    by_cases hn : n = 0
    · subst hn
      exact hlength rfl
    · exact head?_toDigits_ne hn hhead
  rw [readWhole, hread]
  simp [hzero]

theorem readFraction_of_endsNumber {rest : List Char} (h : EndsNumber rest) :
    readFraction rest = some (none, rest) := by
  cases rest with
  | nil => rfl
  | cons c rest =>
    rw [readFraction]
    rintro _ ⟨⟩
    exact (h '.' rfl).2.1 rfl

theorem readPower_of_endsNumber {rest : List Char} (h : EndsNumber rest) :
    readPower rest = some (none, rest) := by
  cases rest with
  | nil => rfl
  | cons c rest =>
    obtain ⟨-, -, hlower, hupper⟩ := h c rfl
    rw [readPower.eq_def]
    simp [hlower, hupper]

/-- The digits of a natural number are read as digits without fraction and exponent. -/
theorem readMagnitude_toDigits (negative : Bool) (n : Nat) {rest : List Char}
    (hrest : EndsNumber rest) : readMagnitude negative (Nat.toDigits 10 n ++ rest) =
      some (numberOf negative (Nat.toDigits 10 n) none none, rest) := by
  simp [readMagnitude, readWhole_toDigits n hrest, readFraction_of_endsNumber hrest,
    readPower_of_endsNumber hrest]

/-- Whether an integer has 64 bits, with or without sign. -/
def fits (n : Int) : Bool := -((UInt64.size / 2 : Nat) : Int) ≤ n ∧ n ≤ (wordMax : Int)

theorem numeral_toDigits (n : Nat) : Text.numeral (Nat.toDigits 10 n) = n :=
  Text.numeral_replicate_append 0 n

theorem numberOf_toDigits {n : Nat} (h : fits n) :
    numberOf false (Nat.toDigits 10 n) none none = some (.integer n) := by
  simp only [fits, decide_eq_true_eq] at h
  have hword : n ≤ wordMax := by omega
  simp [numberOf, numeral_toDigits, hword]

theorem numberOf_negative_toDigits {n : Nat} (hn : n ≠ 0) (h : fits (-n)) :
    numberOf true (Nat.toDigits 10 n) none none = some (.integer (-n)) := by
  simp only [fits, decide_eq_true_eq] at h
  have hword : n ≤ UInt64.size / 2 := by omega
  simp [numberOf, numeral_toDigits, hn, hword]

/-- A natural number is written in its digits. -/
theorem writeNumber_natCast (n : Nat) : writeNumber (.integer n) = Nat.toDigits 10 n := by
  rw [writeNumber, Int.toString_eq_repr, Int.repr_eq_if, if_pos (Int.natCast_nonneg n),
    Int.toNat_natCast, Nat.repr_eq_ofList_toDigits, String.toList_ofList]

/-- A number below zero is written as a minus and the digits without it. -/
theorem writeNumber_neg {n : Nat} (h : n ≠ 0) :
    writeNumber (.integer (-n)) = '-' :: Nat.toDigits 10 n := by
  rw [writeNumber, Int.toString_eq_repr, Int.repr_eq_if, if_neg (by omega), Int.neg_neg,
    Int.toNat_natCast, Nat.repr_eq_ofList_toDigits, String.toList_append, String.toList_ofList,
    String.toList_ofList, List.singleton_append]

/-- An integer is written in digits, or, if it is below zero, with a minus before them. -/
theorem writeNumber_integer (n : Int) :
    (∃ m : Nat, n = m ∧ writeNumber (.integer n) = Nat.toDigits 10 m) ∨
      ∃ m : Nat, m ≠ 0 ∧ n = -m ∧ writeNumber (.integer n) = '-' :: Nat.toDigits 10 m := by
  by_cases h : 0 ≤ n
  · obtain ⟨m, rfl⟩ := Int.eq_ofNat_of_zero_le h
    exact Or.inl ⟨m, rfl, writeNumber_natCast m⟩
  · obtain ⟨m, hm⟩ := Int.eq_ofNat_of_zero_le (show 0 ≤ -n by omega)
    have hn : n = -(m : Int) := by omega
    have hne : m ≠ 0 := by omega
    exact Or.inr ⟨m, hne, hn, hn ▸ writeNumber_neg hne⟩

/-! ## Beginnings -/

/-- Whether a text begins like a part of a list or an object: with neither a blank nor the bracket
that closes it. -/
def BeginsPart (closing : Char) (chars : List Char) : Prop :=
  ∃ c rest, chars = c :: rest ∧ isSpace c = false ∧ c ≠ closing

namespace BeginsPart

variable {closing : Char} {chars : List Char}

theorem append (h : BeginsPart closing chars) (rest : List Char) :
    BeginsPart closing (chars ++ rest) := by
  obtain ⟨c, tail, rfl, hc⟩ := h
  exact ⟨c, tail ++ rest, rfl, hc⟩

theorem length_pos (h : BeginsPart closing chars) : 0 < chars.length := by
  obtain ⟨c, tail, rfl, -⟩ := h
  exact Nat.succ_pos _

theorem skipSpace_eq (h : BeginsPart closing chars) : skipSpace chars = chars := by
  obtain ⟨c, tail, rfl, hspace, -⟩ := h
  exact List.dropWhile_cons_of_neg (by simp [hspace])

end BeginsPart

theorem beginsPart_writeText {closing : Char} (h : closing ≠ '"') (text : String) :
    BeginsPart closing (writeText text) := ⟨'"', _, rfl, by decide, h.symm⟩

theorem beginsPart_toDigits (n : Nat) : BeginsPart ']' (Nat.toDigits 10 n) := by
  obtain ⟨c, rest, hcons⟩ := List.exists_cons_of_ne_nil (Nat.toDigits_ne_nil (n := n) (b := 10))
  have hdigit : Text.isDigit c = true :=
    Text.isDigit_of_mem_toDigits (n := n) (hcons ▸ List.mem_cons_self)
  -- What is compared with a digit is none.
  have hother : ∀ d, Text.isDigit d = false → c ≠ d := fun d hd heq => by
    rw [heq, hd] at hdigit
    cases hdigit
  have hspace : isSpace c = false := by
    simp only [isSpace, Bool.or_eq_false_iff, beq_eq_false_iff_ne]
    exact ⟨⟨⟨hother _ (by decide), hother _ (by decide)⟩, hother _ (by decide)⟩,
      hother _ (by decide)⟩
  exact ⟨c, rest, hcons, hspace, hother ']' (by decide)⟩

theorem beginsPart_writeNumber (n : Int) : BeginsPart ']' (writeNumber (.integer n)) := by
  rcases writeNumber_integer n with ⟨m, -, hwritten⟩ | ⟨m, -, -, hwritten⟩
  · exact hwritten ▸ beginsPart_toDigits m
  · exact hwritten ▸ ⟨'-', _, rfl, by decide, by decide⟩

/-! ## Values without parts -/

/-- A text is read back as a value. -/
theorem readValue_text {fuel : Nat} (text : String) (rest : List Char) :
    readValue (fuel + 1) (writeText text ++ rest) = some (.text (some text), rest) := by
  have hbegins : BeginsPart ']' (writeText text ++ rest) :=
    (beginsPart_writeText (by decide) text).append rest
  rw [readValue, hbegins.skipSpace_eq, writeText_append]
  simp only [readPieces_text, Option.map_some, pieceText_char]

theorem readValue_toDigits {fuel n : Nat} {rest : List Char} (hrest : EndsNumber rest) :
    readValue (fuel + 1) (Nat.toDigits 10 n ++ rest) =
      some (.number (numberOf false (Nat.toDigits 10 n) none none), rest) := by
  have hdigit : ∀ c ∈ (Nat.toDigits 10 n ++ rest).head?, Text.isDigit c = true := by
    intro c hc
    rw [List.head?_append_of_ne_nil _ Nat.toDigits_ne_nil] at hc
    exact Text.isDigit_of_mem_toDigits (List.mem_of_mem_head? hc)
  rw [readValue, ((beginsPart_toDigits n).append rest).skipSpace_eq]
  -- A digit begins none of the other kinds of value.
  split
  iterate 7
    rename_i heq
    rw [heq] at hdigit
    cases hdigit _ rfl
  · rw [readMagnitude_toDigits false n hrest, Option.map_some]

/-- An integer of 64 bits is read back as a value. -/
theorem readValue_integer {fuel : Nat} {n : Int} {rest : List Char} (hn : fits n)
    (hrest : EndsNumber rest) : readValue (fuel + 1) (writeNumber (.integer n) ++ rest) =
      some (.number (some (.integer n)), rest) := by
  have hbegins := (beginsPart_writeNumber n).append rest
  rcases writeNumber_integer n with ⟨m, rfl, hwritten⟩ | ⟨m, hne, rfl, hwritten⟩
  · rw [hwritten, readValue_toDigits hrest, numberOf_toDigits hn]
  · rw [readValue, hbegins.skipSpace_eq, hwritten, List.cons_append]
    simp only [readMagnitude_toDigits true m hrest, Option.map_some,
      numberOf_negative_toDigits hne hn]

end MediaGrid.Json
