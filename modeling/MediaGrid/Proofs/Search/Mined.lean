import MediaGrid.Proofs.Search.Completion
import MediaGrid.Proofs.Search.Excerpt
import MediaGrid.Proofs.Search.Snippet

/-!
# Completions that are mined for a run

A completion that is mined for the run at the end of a search shows a place where the run's fragment
occurs, letter by letter, since the window of a snippet covers the match. Put into the search, the
completion takes the place of the run if its lower case contains that of the fragment, each taken as
a whole. The two agree where no capital sigma ends a word. Where one does, a completion may be put
behind the run that it was mined for. How the records were found is no part of it.
-/

namespace MediaGrid

open Text (lowerChar)

/-- A snippet holds the letters of its fragment side by side. -/
theorem infix_of_snippet? {text fragment completion : String} {target : Nat}
    (h : snippet? text fragment target = some completion) :
    fragment.toList.map lowerChar <:+: completion.toList.map lowerChar := by
  cases hfound : findLike? fragment.toList text.toList with
  | none =>
    rw [snippet?] at h
    dsimp only at h
    rw [hfound] at h
    cases h
  | some start =>
    obtain ⟨hsome, hoccurs, -⟩ := findLike?_eq_some_iff.mp hfound
    have hstop := hoccurs.stop_le hsome
    obtain ⟨hfirst, hlast, -⟩ := snippetBounds_covers hstop start target
    rw [snippet?_of_first target hfound, Option.some.injEq] at h
    generalize snippetBounds start (start + fragment.toList.length) text.toList.length target =
      bounds at hfirst hlast h
    have hpart := beginsLike_iff.mp (beginsLike_drop_iff.mpr (hoccurs.part hfirst hlast))
    have hwindow : (text.toList.take bounds.2).drop bounds.1 <:+: completion.toList := by
      rw [← h, excerpt, String.toList_append, String.toList_append, String.toList_ofList]
      exact ⟨_, _, rfl⟩
    have hrest := (List.drop_suffix (start - bounds.1)
      ((text.toList.take bounds.2).drop bounds.1)).isInfix
    exact hpart.isInfix.trans ((hrest.trans hwindow).map lowerChar)

/-- Letters that stand side by side are lower-cased side by side. -/
theorem flatMap_lowerChar_infix {fragment chars : List Char}
    (h : fragment.map lowerChar <:+: chars.map lowerChar) :
    fragment.flatMap lowerChar <:+: chars.flatMap lowerChar := by
  obtain ⟨front, back, hchars⟩ := h
  refine ⟨front.flatten, back.flatten, ?_⟩
  rw [List.flatMap_def, List.flatMap_def, ← hchars, List.flatten_append, List.flatten_append]

/-- Where no capital sigma ends a word, the lower case of a snippet contains that of its
fragment. -/
theorem contains_of_snippet? {text fragment completion : String} {target : Nat}
    (h : snippet? text fragment target = some completion)
    (hfragment : Text.hasFinalSigma [] fragment.toList = false)
    (hcompletion : Text.hasFinalSigma [] completion.toList = false) :
    Text.contains (Text.lower completion) (Text.lower fragment) = true := by
  have hinfix := flatMap_lowerChar_infix (infix_of_snippet? h)
  rw [← Text.lowerChars_eq_flatMap hfragment, ← Text.lowerChars_eq_flatMap hcompletion] at hinfix
  rw [Text.contains, Text.occursIn_iff, Text.lower, Text.lower, String.toList_ofList,
    String.toList_ofList]
  exact hinfix

/-- A completion that is mined for the run at the end of a search takes the place of the run, if
neither of the two has a capital sigma that ends a word. The words of the completed search are those
of the search without the words of the run, and then those of the completion. -/
theorem mined_replaces_run {text : String} {run : TextRun} {records : List Metadata} {target : Nat}
    {completion : String}
    (hlast : (SearchPlan.ofText text).predicates.getLast? = some (.text run))
    (hmined : completion ∈ mineCompletions [run.fragment] records target)
    (hfragment : Text.hasFinalSigma [] run.fragment.toList = false)
    (hcompletion : Text.hasFinalSigma [] completion.toList = false) :
    let words := Text.words text
    let last := run.start + run.words.length
    replacedSpan? (SearchPlan.ofText text).predicates completion = some (run.start, last) ∧
      (words.drop run.start).take run.words.length = run.words ∧
      Text.words (completeRun text completion) =
        words.take run.start ++ words.drop last ++ Text.words completion := by
  intro words last
  obtain ⟨fragment, hm, record, -, field, content, -, hsnippet⟩ := mem_mineCompletions.mp hmined
  cases List.mem_singleton.mp hm
  have hcontains := contains_of_snippet? hsnippet hfragment hcompletion
  obtain ⟨hspan, hcut, hkept⟩ := keptWords_of_contains hlast hcontains
  refine ⟨hspan, hcut, ?_⟩
  rw [words_completeRun, hkept]

/-- The completion shows the run in other letters, between ellipses, and takes its place. -/
theorem mined_replaces_run_shortened :
    let text := "after:2022-03-01 récif DE sis foo:"
    let records := [{ Metadata.empty with notes := some "Le grand RÉCIF de Sisyphe" }]
    mineCompletions ["récif DE sis"] records 16 = ["...d RÉCIF de Sisyp..."] ∧
      Text.words (completeRun text "...d RÉCIF de Sisyp...") =
        ["after:2022-03-01", "foo:", "...d", "RÉCIF", "de", "Sisyp..."] := by
  intro text records
  let run : TextRun := ⟨["récif", "DE", "sis"], 1, true⟩
  have hmined : mineCompletions [run.fragment] records 16 = ["...d RÉCIF de Sisyp..."] := by
    decide +kernel
  have hlast : (SearchPlan.ofText text).predicates.getLast? = some (.text run) := by
    decide +kernel
  have hmem : "...d RÉCIF de Sisyp..." ∈ mineCompletions [run.fragment] records 16 :=
    hmined ▸ List.mem_singleton_self _
  have hreplaced := mined_replaces_run hlast hmem (by decide +kernel) (by decide +kernel)
  refine ⟨hmined, hreplaced.2.2.trans ?_⟩
  decide +kernel

/-- The capital sigma that the window cuts from its word becomes a final one in lower case, which
the fragment does not have. So the completion is put behind the run that it was mined for. -/
theorem mined_behind_run :
    let records := [{ Metadata.empty with name := some "ΟΔΟΣΑ" }]
    (SearchPlan.ofText "οδοσ").predicates.getLast? = some (.text ⟨["οδοσ"], 0, true⟩) ∧
      mineCompletions ["οδοσ"] records 4 = ["ΟΔΟΣ..."] ∧
      replacedSpan? (SearchPlan.ofText "οδοσ").predicates "ΟΔΟΣ..." = none ∧
      completeRun "οδοσ" "ΟΔΟΣ..." = "οδοσ ΟΔΟΣ..." := by
  decide +kernel

end MediaGrid
