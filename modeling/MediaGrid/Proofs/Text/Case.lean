import MediaGrid.Text.Case

/-!
# Lower case out of context

The lower case of a text is put together from those of its characters, except where a capital sigma
ends a word: that one letter looks at its neighbours. All characters but the capital I with a dot
have one character as their lower case. A text with neither is plain; what happens to case in a
plain text happens character by character. The small sigmas are ordinary letters here, also the
final one, which has itself as its lower case.
-/

namespace MediaGrid.Text

/-- The capital I with a dot, the only letter whose lower case is two characters. -/
def dottedI : Char := 'İ'

/-- Whether a capital sigma ends a word in `chars`, which stand after the characters `before`
(nearest first). -/
def hasFinalSigma (before : List Char) : List Char → Bool
  | [] => false
  | c :: rest =>
    (c == capitalSigma && meetsCased before && !meetsCased rest) || hasFinalSigma (c :: before) rest

/-- Whether each character has one character as its lower case, whatever stands beside it. -/
def isPlain (text : String) : Bool :=
  !hasFinalSigma [] text.toList && !text.toList.contains dottedI

theorem lowerChar_capitalSigma : lowerChar capitalSigma = ['σ'] := by decide +kernel

/-- The lower case of any other character is one character. -/
theorem exists_lowerChar_eq {c : Char} (h : c ≠ dottedI) : ∃ d, lowerChar c = [d] := by
  have hcode : c.toNat ≠ 0x130 := fun he => h (Char.toNat_inj.mp he)
  simp only [lowerChar, if_neg hcode]
  split
  · exact ⟨_, rfl⟩
  · split <;> exact ⟨_, rfl⟩

/-- Where no capital sigma ends a word, every character is lower-cased as if it stood alone. -/
theorem lowerFrom_eq_flatMap {before chars : List Char} (h : hasFinalSigma before chars = false) :
    lowerFrom before chars = chars.flatMap lowerChar := by
  induction chars generalizing before with
  | nil => rfl
  | cons c rest ih =>
    rw [hasFinalSigma, Bool.or_eq_false_iff] at h
    rw [lowerFrom, ih h.2, List.flatMap_cons]
    split
    · rename_i hsigma
      have hinside : (meetsCased before && !meetsCased rest) = false := by
        simpa [hsigma] using h.1
      rw [hinside, hsigma, lowerChar_capitalSigma]
      rfl
    · rfl

theorem lowerChars_eq_flatMap {chars : List Char} (h : hasFinalSigma [] chars = false) :
    lowerChars chars = chars.flatMap lowerChar :=
  lowerFrom_eq_flatMap h

theorem isPlain_iff {text : String} :
    isPlain text = true ↔ hasFinalSigma [] text.toList = false ∧ dottedI ∉ text.toList := by
  simp [isPlain]

/-- Where each lower case is one character, the lower cases side by side are those of the whole,
each alone. -/
theorem map_lowerChar_of_not_mem {chars : List Char} (h : dottedI ∉ chars) :
    chars.map lowerChar = (chars.flatMap lowerChar).map ([·]) := by
  induction chars with
  | nil => rfl
  | cons c rest ih =>
    rw [List.mem_cons, not_or] at h
    obtain ⟨d, hd⟩ := exists_lowerChar_eq (Ne.symm h.1)
    rw [List.map_cons, List.flatMap_cons, List.map_append, hd, ih h.2]
    rfl

example : isPlain "Σίσυφος" = true ∧ isPlain "ΣΊΣΥΦΟΣ" = false := by decide +kernel

end MediaGrid.Text
