import MediaGrid.Proofs.Search.Meaning
import MediaGrid.Proofs.Text.Case
import MediaGrid.Search.Snippet

/-!
# Snippets and the queries that find them

A fragment is looked for in two ways. A query lower-cases the whole fragment and the whole text, and
looks for the one in the other. A snippet is cut where the characters of the fragment stand in the
text one by one, each with the same lower case. On plain texts both look for the same, so a record
that a query for a fragment finds has a snippet in the field that was asked for, and every
completion comes from such a field. With a capital sigma at the end of a word, or a capital I with
a dot, they part ways, in both directions. Where the snippet ends is no part of it.
-/

namespace MediaGrid

/-! ## Characters one by one -/

/-- Letters are the same apart from case when their lower cases are. -/
theorem sameLetter_iff {a b : Char} :
    sameLetter a b = true ↔ Text.lowerChar a = Text.lowerChar b := by
  rw [sameLetter, Bool.or_eq_true, beq_iff_eq, beq_iff_eq, or_iff_right_iff_imp]
  exact congrArg Text.lowerChar

theorem beginsLike_iff {fragment chars : List Char} : beginsLike fragment chars = true ↔
    fragment.map Text.lowerChar <+: chars.map Text.lowerChar := by
  induction fragment generalizing chars with
  | nil => simp [beginsLike]
  | cons a fragment ih =>
    cases chars with
    | nil => simp [beginsLike]
    | cons b chars =>
      rw [beginsLike, Bool.and_eq_true, sameLetter_iff, ih, List.map_cons, List.map_cons,
        List.cons_prefix_cons, eq_comm]

/-- A fragment is found when its lower cases stand in those of the text side by side. -/
theorem isSome_findLike?_iff {fragment chars : List Char} :
    (findLike? fragment chars).isSome = true ↔
      fragment ≠ [] ∧ fragment.map Text.lowerChar <:+: chars.map Text.lowerChar := by
  induction chars with
  | nil =>
    simp only [findLike?, Option.isSome_none, Bool.false_eq_true, List.map_nil,
      List.infix_nil, List.map_eq_nil_iff, ne_eq, not_and_self_iff]
  | cons c rest ih =>
    rw [findLike?, List.map_cons, List.infix_cons_iff, ← List.map_cons, ← beginsLike_iff,
      and_or_left, ← ih]
    cases fragment with
    | nil => simp [ih]
    | cons a fragment =>
      cases hbegins : beginsLike (a :: fragment) (c :: rest) <;> simp

/-- There is a snippet where the fragment is found. -/
theorem isSome_snippet?_iff {text fragment : String} {target : Nat} :
    (snippet? text fragment target).isSome = true ↔ fragment ≠ "" ∧
      fragment.toList.map Text.lowerChar <:+: text.toList.map Text.lowerChar := by
  have hempty : fragment.toList ≠ [] ↔ fragment ≠ "" := by
    rw [ne_eq, String.toList_eq_nil_iff]
  rw [← hempty, ← isSome_findLike?_iff, snippet?]
  cases findLike? fragment.toList text.toList <;> simp

/-! ## Texts as a whole -/

/-- A query for a fragment in one field looks for it in the lower-cased text of the field. -/
theorem Query.accepts_fragment_iff {fragment text : String} {field : TextField}
    {record : Metadata} (htext : record.text field = some text) :
    (Query.single (some fragment) none field).accepts record = true ↔
      Text.lowerChars fragment.toList <:+: Text.lowerChars text.toList := by
  rw [Query.accepts_single, htext]
  simp [Query.textHolds, Query.rangeHolds, Text.contains, Text.occursIn_iff, Text.lower]

/-- A snippet is cut only from a text that a query for the fragment finds, unless a capital sigma
ends a word. -/
theorem accepts_of_snippet? {fragment text : String} {target : Nat} {field : TextField}
    {record : Metadata} (htext : record.text field = some text)
    (hword : Text.hasFinalSigma [] text.toList = false)
    (hfragment : Text.hasFinalSigma [] fragment.toList = false)
    (h : (snippet? text fragment target).isSome = true) :
    (Query.single (some fragment) none field).accepts record = true := by
  obtain ⟨before, after, hparts⟩ := (isSome_snippet?_iff.mp h).2
  rw [Query.accepts_fragment_iff htext, Text.lowerChars_eq_flatMap hword,
    Text.lowerChars_eq_flatMap hfragment, List.flatMap_def, List.flatMap_def, ← hparts,
    List.flatten_append, List.flatten_append]
  exact ⟨before.flatten, after.flatten, rfl⟩

/-- In a plain text there is a snippet of a plain fragment exactly when a query finds it. -/
theorem isSome_snippet?_iff_accepts {fragment text : String} (target : Nat) {field : TextField}
    {record : Metadata} (htext : record.text field = some text) (hnonempty : fragment ≠ "")
    (hplain : Text.isPlain text = true) (hfragment : Text.isPlain fragment = true) :
    (snippet? text fragment target).isSome = true ↔
      (Query.single (some fragment) none field).accepts record = true := by
  obtain ⟨hword, hdot⟩ := Text.isPlain_iff.mp hplain
  obtain ⟨hword', hdot'⟩ := Text.isPlain_iff.mp hfragment
  refine ⟨accepts_of_snippet? htext hword hword', fun h => isSome_snippet?_iff.mpr ⟨hnonempty, ?_⟩⟩
  rw [Query.accepts_fragment_iff htext, Text.lowerChars_eq_flatMap hword,
    Text.lowerChars_eq_flatMap hword'] at h
  rw [Text.map_lowerChar_of_not_mem hdot, Text.map_lowerChar_of_not_mem hdot']
  exact h.map _

/-! ## Completions -/

/-- Adding texts to a list that may hold them already brings in these texts and no others. -/
theorem mem_foldl_addNew {added texts : List String} {text : String} :
    text ∈ added.foldl addNew texts ↔ text ∈ texts ∨ text ∈ added := by
  induction added generalizing texts with
  | nil => simp
  | cons head rest ih =>
    have hhead : text ∈ addNew texts head ↔ text ∈ texts ∨ text = head := by
      unfold addNew
      split
      · rename_i hm
        exact ⟨Or.inl, fun h => h.elim id fun he => he ▸ hm⟩
      · rw [List.mem_append, List.mem_singleton]
    rw [List.foldl_cons, ih, hhead, List.mem_cons, or_assoc]

/-- The texts of a record are those of its fields. -/
theorem Metadata.mem_texts_iff {record : Metadata} {text : Option String} :
    text ∈ record.texts ↔ ∃ field, record.text field = text := by
  simp only [texts, List.mem_cons, List.not_mem_nil, or_false]
  constructor
  · rintro (rfl | rfl | rfl | rfl)
    · exact ⟨.name, rfl⟩
    · exact ⟨.notes, rfl⟩
    · exact ⟨.camera, rfl⟩
    · exact ⟨.session, rfl⟩
  · rintro ⟨field, rfl⟩
    cases field <;> simp [Metadata.text]

/-- The completions are the snippets of the fragments in the fields of the records. -/
theorem mem_mineCompletions {fragments : List String} {records : List Metadata} {target : Nat}
    {completion : String} : completion ∈ mineCompletions fragments records target ↔
      ∃ fragment ∈ fragments, ∃ record ∈ records, ∃ field text,
        record.text field = some text ∧ snippet? text fragment target = some completion := by
  simp only [mineCompletions, mem_foldl_addNew, List.not_mem_nil, false_or, List.mem_flatMap,
    List.mem_filterMap, Metadata.mem_texts_iff, Option.bind_eq_bind, Option.bind_eq_some_iff]
  refine exists_congr fun fragment => and_congr_right fun _ =>
    exists_congr fun record => and_congr_right fun _ => ⟨?_, ?_⟩
  · rintro ⟨_, ⟨field, hfield⟩, text, rfl, hsnippet⟩
    exact ⟨field, text, hfield, hsnippet⟩
  · rintro ⟨field, text, hfield, hsnippet⟩
    exact ⟨_, ⟨field, hfield⟩, text, rfl, hsnippet⟩

/-- On plain texts the two ways of looking for a fragment agree: a field has a snippet exactly when
a query for the fragment in that field finds the record. So the completions of a fragment are the
snippets from the fields that such a query matches, and each of those fields has one. -/
theorem completions_iff_matched (fragment : String) (records : List Metadata) (target : Nat)
    (hnonempty : fragment ≠ "") (hfragment : Text.isPlain fragment = true)
    (hplain : ∀ record ∈ records, ∀ field text, record.text field = some text →
      Text.isPlain text = true) :
    (∀ record ∈ records, ∀ field text, record.text field = some text →
      ((snippet? text fragment target).isSome = true ↔
        (Query.single (some fragment) none field).accepts record = true)) ∧
    (∀ record ∈ records, ∀ field,
      (Query.single (some fragment) none field).accepts record = true →
        ∃ text completion, record.text field = some text ∧
          snippet? text fragment target = some completion ∧
          completion ∈ mineCompletions [fragment] records target) ∧
    ∀ completion ∈ mineCompletions [fragment] records target, ∃ record ∈ records, ∃ field text,
      record.text field = some text ∧ snippet? text fragment target = some completion ∧
        (Query.single (some fragment) none field).accepts record = true := by
  have hagree : ∀ record ∈ records, ∀ field text, record.text field = some text →
      ((snippet? text fragment target).isSome = true ↔
        (Query.single (some fragment) none field).accepts record = true) :=
    fun record hm field text htext => isSome_snippet?_iff_accepts target htext hnonempty
      (hplain record hm field text htext) hfragment
  refine ⟨hagree, fun record hm field haccepts => ?_, fun completion hmined => ?_⟩
  · -- A field that is absent meets no query for a text.
    cases htext : record.text field with
    | none =>
      rw [Query.accepts_single, htext] at haccepts
      cases haccepts.1
    | some text =>
      obtain ⟨completion, hsnippet⟩ :=
        Option.isSome_iff_exists.mp ((hagree record hm field text htext).mpr haccepts)
      exact ⟨text, completion, rfl, hsnippet, mem_mineCompletions.mpr
        ⟨fragment, List.mem_singleton_self _, record, hm, field, text, htext, hsnippet⟩⟩
  · obtain ⟨_, hm, record, hrecord, field, text, htext, hsnippet⟩ :=
      mem_mineCompletions.mp hmined
    cases List.mem_singleton.mp hm
    exact ⟨record, hrecord, field, text, htext, hsnippet,
      (hagree record hrecord field text htext).mp (Option.isSome_iff_exists.mpr ⟨_, hsnippet⟩)⟩

/-- The capital sigma does not end the word in the notes, and the accented letter is one
character. -/
theorem completions_iff_matched_accented :
    let record : Metadata := { Metadata.empty with notes := some "Récif de Σίσυφος" }
    ∃ completion, completion ∈ mineCompletions ["CIF DE Σ"] [record] 4 ∧
      snippet? "Récif de Σίσυφος" "CIF DE Σ" 4 = some completion := by
  intro record
  have hplain : ∀ other ∈ [record], ∀ field text, other.text field = some text →
      Text.isPlain text = true := by
    intro other hm field text htext
    cases List.mem_singleton.mp hm
    cases field <;> cases htext
    decide +kernel
  obtain ⟨-, hfound, -⟩ := completions_iff_matched "CIF DE Σ" [record] 4 (by decide +kernel)
    (by decide +kernel) hplain
  obtain ⟨text, completion, htext, hsnippet, hmined⟩ :=
    hfound record (List.mem_singleton_self _) .notes (by decide +kernel)
  cases htext
  exact ⟨completion, hmined, hsnippet⟩

/-- A capital sigma at the end of a word has the final small letter as its lower case, which as a
character is another letter, and a capital I with a dot has two characters as its. So a record may
be found by a query and have no snippet, and have a snippet and not be found. -/
theorem snippet_parts_from_query :
    let named (text : String) : Metadata := { Metadata.empty with name := some text }
    let found (fragment text : String) : Bool :=
      (Query.single (some fragment) none .name).accepts (named text)
    (found "οδος" "ΟΔΟΣ" = true ∧ snippet? "ΟΔΟΣ" "οδος" 40 = none ∧
      mineCompletions ["οδος"] [named "ΟΔΟΣ"] 40 = []) ∧
    (found "i" "İ" = true ∧ snippet? "İ" "i" 40 = none) ∧
    found "ΟΔΟΣ" "ΟΔΟΣΑ" = false ∧ snippet? "ΟΔΟΣΑ" "ΟΔΟΣ" 40 = some "ΟΔΟΣΑ" := by
  decide +kernel

end MediaGrid
