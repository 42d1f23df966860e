/-!
# Blank characters, words and trimming

Text is cut into words at blank characters, the characters with the Unicode property
White_Space. A word is a maximal run of other characters, so the words of a text never
hold a blank and are never empty (`isWord_of_mem_splitWords`), and joining them by single
spaces and cutting again gives the same words (`words_joinWords`).
-/

namespace MediaGrid.Text

/-- The characters with the Unicode property White_Space. -/
def isBlank (c : Char) : Bool :=
  let n := c.toNat
  (9 ≤ n && n ≤ 13) || n == 0x20 || n == 0x85 || n == 0xA0 || n == 0x1680 ||
    (0x2000 ≤ n && n ≤ 0x200A) || n == 0x2028 || n == 0x2029 || n == 0x202F ||
    n == 0x205F || n == 0x3000

/-- The maximal runs of characters that are not blank, in order. -/
def splitWords : List Char → List (List Char)
  | [] => []
  | c :: rest =>
    if isBlank c then splitWords rest
    else if rest.head?.all isBlank then [c] :: splitWords rest
    else match splitWords rest with
      | [] => [[c]]
      | word :: others => (c :: word) :: others

/-- A word is never empty and holds no blank. -/
theorem isWord_of_mem_splitWords {chars word : List Char} (h : word ∈ splitWords chars) :
    word ≠ [] ∧ ∀ c ∈ word, isBlank c = false := by
  fun_induction splitWords chars generalizing word with
  | case1 => simp at h
  | case2 _ _ _ ih => exact ih h
  | case3 c rest hb _ ih =>
    rcases List.mem_cons.mp h with rfl | h
    · simpa using hb
    · exact ih h
  | case4 c rest hb _ hn _ =>
    simp only [List.mem_singleton] at h
    subst h
    simpa using hb
  | case5 c rest hb _ w others heq ih =>
    rcases List.mem_cons.mp h with rfl | h
    · have hw := ih (heq ▸ List.mem_cons_self)
      refine ⟨List.cons_ne_nil _ _, fun d hd => ?_⟩
      rcases List.mem_cons.mp hd with rfl | hd
      · simpa using hb
      · exact hw.2 d hd
    · exact ih (heq ▸ List.mem_cons_of_mem _ h)

/-- A word with a blank behind it is cut off whole. -/
theorem splitWords_append_cons {word : List Char} {blank : Char} {rest : List Char}
    (hne : word ≠ []) (hw : ∀ c ∈ word, isBlank c = false) (hb : isBlank blank = true) :
    splitWords (word ++ blank :: rest) = word :: splitWords rest := by
  induction word with
  | nil => exact absurd rfl hne
  | cons c word ih =>
    have hc := hw c List.mem_cons_self
    cases word with
    | nil => simp [splitWords, hc, hb]
    | cons d word =>
      have hd := hw d (List.mem_cons_of_mem _ List.mem_cons_self)
      have := ih (List.cons_ne_nil _ _) fun x hx => hw x (List.mem_cons_of_mem _ hx)
      rw [List.cons_append, splitWords, if_neg (by simp [hc])]
      rw [if_neg (by simp [hd])]
      rw [this]

/-- A list of characters without blanks is one word. -/
theorem splitWords_eq_singleton {word : List Char} (hne : word ≠ [])
    (hw : ∀ c ∈ word, isBlank c = false) : splitWords word = [word] := by
  induction word with
  | nil => exact absurd rfl hne
  | cons c word ih =>
    have hc := hw c List.mem_cons_self
    cases word with
    | nil => simp [splitWords, hc]
    | cons d word =>
      have hd := hw d (List.mem_cons_of_mem _ List.mem_cons_self)
      have := ih (List.cons_ne_nil _ _) fun x hx => hw x (List.mem_cons_of_mem _ hx)
      rw [splitWords, if_neg (by simp [hc]), if_neg (by simp [hd]), this]

/-- The words of a text. -/
def words (text : String) : List String :=
  (splitWords text.toList).map String.ofList

/-- A list of characters without the blanks at its two ends. -/
def trimChars (chars : List Char) : List Char :=
  ((chars.dropWhile isBlank).reverse.dropWhile isBlank).reverse

/-- A text without the blanks at its two ends. -/
def trim (text : String) : String :=
  String.ofList (trimChars text.toList)

/-- Whether the last character of a text is blank; an empty text has none. -/
def endsBlank (text : String) : Bool :=
  text.toList.getLast?.any isBlank

/-- Joins words by single spaces. -/
def joinWords (parts : List String) : String :=
  String.intercalate " " parts

/-- Cutting a list of words that were joined gives the words back. -/
theorem splitWords_intercalate {parts : List (List Char)}
    (h : ∀ word ∈ parts, word ≠ [] ∧ ∀ c ∈ word, isBlank c = false) :
    splitWords ([' '].intercalate parts) = parts := by
  induction parts with
  | nil => rfl
  | cons word parts ih =>
    obtain ⟨hne, hw⟩ := h word List.mem_cons_self
    cases parts with
    | nil => simpa using splitWords_eq_singleton hne hw
    | cons next parts =>
      have hrest := ih fun w hm => h w (List.mem_cons_of_mem _ hm)
      rw [List.intercalate_cons_cons, List.append_assoc, List.singleton_append,
        splitWords_append_cons hne hw (by decide), hrest]

/-- Words that hold no blank are the words of the text they are joined to. -/
theorem words_joinWords {parts : List String}
    (h : ∀ word ∈ parts, word.toList ≠ [] ∧ ∀ c ∈ word.toList, isBlank c = false) :
    words (joinWords parts) = parts := by
  have key : splitWords ([' '].intercalate (parts.map String.toList)) =
      parts.map String.toList := by
    refine splitWords_intercalate fun word hm => ?_
    obtain ⟨part, hp, rfl⟩ := List.mem_map.mp hm
    exact h part hp
  have blank : " ".toList = [' '] := rfl
  rw [words, joinWords, String.toList_intercalate, blank, key, List.map_map]
  simp [Function.comp_def]

example : words "  sea   before:2022-03-01\u3000reef " = ["sea", "before:2022-03-01", "reef"] := by
  decide

end MediaGrid.Text
