import MediaGrid.Proofs.Search.Directive
import MediaGrid.Proofs.Store.SearchCoherence

/-!
# Picking from a directive menu

A menu opens for the beginning of a keyword in any letter case, but a directive that is picked takes
the place of the word being typed only if that word is the beginning of the directive letter for
letter. Keywords are offered in small letters, so a beginning in small letters is replaced, and one
with a capital stays in front of the directive, as a plain word of the search. Words that hold a
colon already, and texts that are picked while no menu is open, are no part of it.
-/

namespace MediaGrid

/-! ## The word being typed -/

/-- A word being typed is replaced by a text that begins with it. -/
theorem completeWord_of_typed {text next typed : String} (hopen : Text.endsBlank text = false)
    (htyped : (Text.words text).getLast? = some typed) :
    completeWord text next =
      Text.joinWords ((if typed.toList <+: next.toList then (Text.words text).dropLast
        else Text.words text) ++ [next]) := by
  simp only [completeWord, hopen, htyped, Bool.not_false, Bool.true_and, Option.any_some,
    List.isPrefixOf_iff_prefix]

theorem InAnyCase.length_eq {typed word : List Char} (h : InAnyCase typed word) :
    typed.length = word.length :=
  List.Forall₂.length_eq h

/-- The beginning of a keyword in any case is the beginning of a text with the keyword in front only
if it is typed as the keyword is written. -/
theorem InAnyCase.prefix_append_iff {typed start keyword : List Char}
    (hcase : InAnyCase typed start) (hstart : start <+: keyword) (rest : List Char) :
    typed <+: keyword ++ rest ↔ typed = start := by
  constructor
  · intro h
    have hlength : typed.length ≤ start.length := Nat.le_of_eq hcase.length_eq
    have hprefix : typed <+: start :=
      List.prefix_of_prefix_length_le h (hstart.trans (List.prefix_append _ _)) hlength
    exact hprefix.eq_of_length hcase.length_eq
  · rintro rfl
    exact hstart.trans (List.prefix_append _ _)

/-- No keyword of a menu has a blank. -/
theorem noBlank_of_mem_keywords {keyword : String} (h : keyword ∈ Menu.keywords.map (·.1)) :
    ∀ c ∈ keyword.toList, Text.isBlank c = false := by
  have hall : ∀ keyword ∈ Menu.keywords.map (·.1),
      (keyword.toList.all fun c => Text.isBlank c == false) = true := by decide
  exact Text.forall_mem_of_all (hall keyword h)

/-- A directive whose value has no blank is one word, behind whatever words it is joined to. -/
theorem words_joinWords_directive {parts : List String} {keyword value text : String}
    (hparts : ∀ word ∈ parts, word ∈ Text.words text)
    (hkeyword : keyword ∈ Menu.keywords.map (·.1))
    (hvalue : ∀ c ∈ value.toList, Text.isBlank c = false) :
    Text.words (Text.joinWords (parts ++ [keyword ++ ":" ++ value])) =
      parts ++ [keyword ++ ":" ++ value] := by
  refine Text.words_joinWords fun word hm => ?_
  rcases List.mem_append.mp hm with hold | hlast
  · exact Text.isWord_of_mem_words (hparts word hold)
  · have htext : (keyword ++ ":" ++ value).toList = keyword.toList ++ ':' :: value.toList := by
      simp
    rw [List.mem_singleton.mp hlast, htext, List.forall_mem_append, List.forall_mem_cons]
    exact ⟨by simp, noBlank_of_mem_keywords hkeyword, by decide, hvalue⟩

namespace Store

variable {store : Store}

/-- A text that is picked while a menu is open completes the word being typed. -/
theorem search_pick_of_open (hmenu : store.grid.menu ≠ .closed) (completion : String) :
    (store.pick completion).2.grid.search = completeWord store.grid.search completion := by
  have htyped : ∀ text, (store.typeSearch text).2.grid.search = text :=
    fun text => congrArg SearchState.text (store.searchState_typeSearch text)
  rw [pick, htyped]
  cases hopened : store.grid.menu with
  | closed => exact absurd hopened hmenu
  | date => rfl
  | platform => rfl

end Store

namespace Service

/-- A directive is picked while its keyword is being typed. In every state that a run reaches, with
a menu open and a search whose last word is the beginning of a keyword in any mix of letter case,
the directive takes the place of that word if it is typed in small letters, as the keyword is; and
if it has a capital, it stays where it is and the directive comes behind it. Either way the
directive is one word. -/
theorem pick_completes_typed (config : Config) (draw : Nat → Uuid) (turns : List Turn)
    {typed keyword value : String} {start : List Char}
    (hopen : Text.endsBlank ((fresh config draw).run turns).store.grid.search = false)
    (htyped : (Text.words ((fresh config draw).run turns).store.grid.search).getLast? = some typed)
    (hmenu : Menu.ofText ((fresh config draw).run turns).store.grid.search ≠ .closed)
    (hkeyword : keyword ∈ Menu.keywords.map (·.1)) (hstart : start <+: keyword.toList)
    (hcase : InAnyCase typed.toList start)
    (hvalue : ∀ c ∈ value.toList, Text.isBlank c = false) :
    let store := ((fresh config draw).run turns).store
    let words := Text.words store.grid.search
    let picked := (store.pick (keyword ++ ":" ++ value)).2.grid.search
    (typed.toList = start →
      picked = Text.joinWords (words.dropLast ++ [keyword ++ ":" ++ value]) ∧
        Text.words picked = words.dropLast ++ [keyword ++ ":" ++ value]) ∧
    (typed.toList ≠ start →
      picked = Text.joinWords (words ++ [keyword ++ ":" ++ value]) ∧
        Text.words picked = words ++ [keyword ++ ":" ++ value]) := by
  intro store words picked
  have hcoherent : store.grid.menu = Menu.ofText store.grid.search :=
    (coherent_run config draw turns).menu
  have htext : (keyword ++ ":" ++ value).toList = keyword.toList ++ ':' :: value.toList := by simp
  have hpicked : picked = completeWord store.grid.search (keyword ++ ":" ++ value) :=
    Store.search_pick_of_open (hcoherent ▸ hmenu) _
  rw [completeWord_of_typed hopen htyped, htext] at hpicked
  simp only [hcase.prefix_append_iff hstart] at hpicked
  constructor
  · intro hsmall
    rw [if_pos hsmall] at hpicked
    have hkept : ∀ word ∈ words.dropLast, word ∈ Text.words store.grid.search :=
      fun word hm => List.dropLast_subset _ hm
    exact ⟨hpicked, hpicked ▸ words_joinWords_directive hkept hkeyword hvalue⟩
  · intro hcapital
    rw [if_neg hcapital] at hpicked
    have hkept : ∀ word ∈ words, word ∈ Text.words store.grid.search := fun word hm => hm
    exact ⟨hpicked, hpicked ▸ words_joinWords_directive hkept hkeyword hvalue⟩

/-- The beginning of a keyword in small letters is replaced, and the words before it stay. -/
theorem pick_completes_typed_before :
    let turns : List Turn := [.command (.typeSearch "coral reef bef")]
    let store := ((fresh .standard .supply).run turns).store
    (store.pick "before:2022-03-01").2.grid.search = "coral reef before:2022-03-01" := by
  intro turns store
  have hsearch : store.grid.search = "coral reef bef" := by decide +kernel
  have hopen : Text.endsBlank store.grid.search = false := by decide +kernel
  have htyped : (Text.words store.grid.search).getLast? = some "bef" := by decide +kernel
  have hmenu : Menu.ofText store.grid.search ≠ .closed := by decide +kernel
  have hkeyword : "before" ∈ Menu.keywords.map (·.1) := by decide
  have hcase : InAnyCase "bef".toList "bef".toList := by
    unfold InAnyCase
    decide
  have hvalue : ∀ c ∈ "2022-03-01".toList, Text.isBlank c = false :=
    Text.forall_mem_of_all (by decide)
  have hpicked := (pick_completes_typed .standard .supply turns hopen htyped hmenu hkeyword
    (by decide) hcase hvalue).1 rfl
  have hjoined : Text.joinWords ((Text.words store.grid.search).dropLast ++
      ["before" ++ ":" ++ "2022-03-01"]) = "coral reef before:2022-03-01" := by decide +kernel
  exact hpicked.1.trans hjoined

/-- With capitals the menu opens as well, and the beginning of the keyword is left in front of the
directive. -/
theorem pick_leaves_capitals :
    let store := ((fresh .standard .supply).run [.command (.typeSearch "reef BEF")]).store
    let words := Text.words store.grid.search
    let picked := (store.pick "before:2022-03-01").2.grid.search
    Text.endsBlank store.grid.search = false ∧ words = ["reef", "BEF"] ∧
      InAnyCase "BEF".toList "bef".toList ∧ "bef".toList <+: "before".toList ∧
      store.grid.menu = .date ∧ picked = "reef BEF before:2022-03-01" ∧
      picked ≠ Text.joinWords (words.dropLast ++ ["before:2022-03-01"]) := by
  unfold InAnyCase
  decide +kernel

end Service

end MediaGrid
