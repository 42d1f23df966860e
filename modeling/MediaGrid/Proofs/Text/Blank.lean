import Mathlib.Data.List.Induction
import MediaGrid.Text.Blank

/-!
# Blanks around texts and between them

The words of a text do not depend on the blanks at its two ends, so texts that are equal without
them have the same words. A text that is joined to words by a space keeps its own words, and they
keep theirs; texts that are joined with no blank between them are no part of it.
-/

namespace MediaGrid.Text

/-- What holds of each character of a text is found by going through the text. -/
theorem forall_mem_of_all {α : Type} [BEq α] [LawfulBEq α] {f g : Char → α} {chars : List Char}
    (h : (chars.all fun c => f c == g c) = true) : ∀ c ∈ chars, f c = g c :=
  fun c hm => eq_of_beq (List.all_eq_true.mp h c hm)

/-- A blank behind a text adds no word. -/
theorem splitWords_concat_blank {blank : Char} (hblank : isBlank blank = true)
    (chars : List Char) : splitWords (chars ++ [blank]) = splitWords chars := by
  induction chars with
  | nil => simp [splitWords, hblank]
  | cons c rest ih =>
    cases rest with
    | nil => simp [splitWords, hblank]
    | cons d rest =>
      rw [List.cons_append, splitWords, ih, splitWords]
      rfl

theorem splitWords_dropWhile (chars : List Char) :
    splitWords (chars.dropWhile isBlank) = splitWords chars := by
  induction chars with
  | nil => rfl
  | cons c rest ih =>
    rw [List.dropWhile_cons]
    split
    · rename_i hblank
      rw [ih, splitWords, if_pos hblank]
    · rfl

theorem splitWords_dropWhile_reverse (chars : List Char) :
    splitWords (chars.reverse.dropWhile isBlank).reverse = splitWords chars := by
  -- The last character is the one that is looked at first.
  induction chars using List.reverseRecOn with
  | nil => rfl
  | append_singleton chars last ih =>
    rw [List.reverse_append, List.reverse_singleton, List.singleton_append, List.dropWhile_cons]
    split
    · rename_i hblank
      rw [ih, splitWords_concat_blank hblank]
    · rw [List.reverse_cons, List.reverse_reverse]

/-- Trimming a text leaves its words alone. -/
theorem words_trim (text : String) : words (trim text) = words text := by
  rw [words, trim, String.toList_ofList, trimChars, splitWords_dropWhile_reverse,
    splitWords_dropWhile, words]

/-- Texts that differ in outer blanks only have the same words. -/
theorem words_eq_of_trim_eq {text other : String} (h : trim text = trim other) :
    words text = words other := by
  rw [← words_trim text, h, words_trim]

/-- Where nothing is blank there is nothing to trim. -/
theorem trimChars_eq_self {chars : List Char} (h : ∀ c ∈ chars, isBlank c = false) :
    trimChars chars = chars := by
  have hdrop : ∀ list : List Char, (∀ c ∈ list, isBlank c = false) →
      list.dropWhile isBlank = list := by
    intro list hlist
    cases list with
    | nil => rfl
    | cons c rest =>
      have hc := hlist c List.mem_cons_self
      exact List.dropWhile_cons_of_neg (by simp [hc])
  have hreverse : ∀ c ∈ chars.reverse, isBlank c = false :=
    fun c hm => h c (List.mem_reverse.mp hm)
  rw [trimChars, hdrop chars h, hdrop chars.reverse hreverse, List.reverse_reverse]

/-! ## A text behind words -/

/-- Each word of a text has a character, and none of its characters is blank. -/
theorem isWord_of_mem_words {text word : String} (h : word ∈ words text) :
    word.toList ≠ [] ∧ ∀ c ∈ word.toList, isBlank c = false := by
  obtain ⟨chars, hmem, rfl⟩ := List.mem_map.mp h
  rw [String.toList_ofList]
  exact isWord_of_mem_splitWords hmem

theorem splitWords_intercalate_concat {parts : List (List Char)}
    (h : ∀ word ∈ parts, word ≠ [] ∧ ∀ c ∈ word, isBlank c = false) (chars : List Char) :
    splitWords ([' '].intercalate (parts ++ [chars])) = parts ++ splitWords chars := by
  induction parts with
  | nil => rw [List.nil_append, List.intercalate_singleton, List.nil_append]
  | cons word parts ih =>
    obtain ⟨hne, hw⟩ := h word List.mem_cons_self
    have hrest := ih fun other hm => h other (List.mem_cons_of_mem _ hm)
    have hblank : isBlank ' ' = true := by decide
    have hcut : [' '].intercalate (word :: (parts ++ [chars])) =
        word ++ ' ' :: [' '].intercalate (parts ++ [chars]) := by
      rw [List.intercalate_cons_of_ne_nil (List.concat_ne_nil chars parts), List.append_assoc,
        List.singleton_append]
    rw [List.cons_append, hcut, splitWords_append_cons hne hw hblank, hrest, List.cons_append]

/-- Words with a text joined behind them are those words, and then the words of the text. -/
theorem words_joinWords_concat {parts : List String}
    (h : ∀ word ∈ parts, word.toList ≠ [] ∧ ∀ c ∈ word.toList, isBlank c = false)
    (text : String) : words (joinWords (parts ++ [text])) = parts ++ words text := by
  have hparts : ∀ word ∈ parts.map String.toList, word ≠ [] ∧ ∀ c ∈ word, isBlank c = false := by
    intro word hm
    obtain ⟨part, hp, rfl⟩ := List.mem_map.mp hm
    exact h part hp
  have hsplit := splitWords_intercalate_concat hparts text.toList
  have hspace : " ".toList = [' '] := rfl
  have hback : (parts.map String.toList).map String.ofList = parts := by
    simp [Function.comp_def]
  rw [words, joinWords, String.toList_intercalate, hspace, List.map_append, List.map_singleton,
    hsplit, List.map_append, hback, words]

end MediaGrid.Text
