import MediaGrid.Proofs.Search.Splice
import MediaGrid.Proofs.Text.Blank
import MediaGrid.Search.Completion

/-!
# Putting a completion into a search

A completion that contains the run at the end of a search takes the place of the run, and any other
completion is put behind the words of the search. Either way the directives of the search stay, and
those of the completion come behind them. A run that is taken out leaves all other predicates as
they were, but for their places among the words. Which texts are offered as completions is no part
of it.
-/

namespace MediaGrid

/-- The predicates of a search text are those that its words spell. -/
theorem SearchPlan.predicates_ofText (text : String) :
    (SearchPlan.ofText text).predicates = spelled 0 ((Text.words text).map .word) := by
  rw [← spelled_concat_stop, ← predicatesOf_concat_stop]
  rfl

/-! ## The words that are replaced -/

/-- Only a run at the end is ever replaced. -/
theorem exists_run_of_replacedSpan? {predicates : List Predicate} {completion : String}
    {span : Nat × Nat} (h : replacedSpan? predicates completion = some span) :
    ∃ run, predicates.getLast? = some (.text run) := by
  obtain ⟨last, hlast, hrest⟩ := Option.bind_eq_some_iff.mp h
  cases last with
  | date found => cases hrest
  | text run => exact ⟨run, hlast⟩

/-- A run at the end is replaced if it has a word and the completion contains it. -/
theorem replacedSpan?_of_run {predicates : List Predicate} {run : TextRun}
    (hlast : predicates.getLast? = some (.text run)) (completion : String) :
    replacedSpan? predicates completion =
      if run.words ≠ [] ∧ Text.contains (Text.lower completion) (Text.lower run.fragment) = true
        then some (run.start, run.start + run.words.length)
        else none := by
  rw [replacedSpan?, hlast, Option.bind_eq_bind, Option.bind_some]
  by_cases hwords : run.words = []
  · have hfragment : (Predicate.text run).fragment? = none := by
      simp [Predicate.fragment?, hwords]
    rw [hfragment, if_neg fun hsome => hsome.1 hwords]
    rfl
  · have hfragment : (Predicate.text run).fragment? = some run.fragment := by
      simp [Predicate.fragment?, hwords]
    have hspan : (Predicate.text run).span? = some (run.start, run.start + run.words.length) := by
      simp [Predicate.span?, hwords]
    rw [hfragment, Option.bind_eq_bind, Option.bind_some, hspan, Option.bind_eq_bind,
      Option.bind_some]
    cases hcontains : Text.contains (Text.lower completion) (Text.lower run.fragment) with
    | false =>
      rw [if_neg fun hsome => Bool.false_ne_true hsome.2]
      rfl
    | true =>
      rw [if_pos ⟨hwords, rfl⟩]
      rfl

/-- A completion replaces the words of a run at the end that it contains, in lower case. -/
theorem replacedSpan?_eq_some_iff {predicates : List Predicate} {completion : String}
    {span : Nat × Nat} : replacedSpan? predicates completion = some span ↔
      ∃ run, predicates.getLast? = some (.text run) ∧ run.words ≠ [] ∧
        Text.contains (Text.lower completion) (Text.lower run.fragment) = true ∧
        span = (run.start, run.start + run.words.length) := by
  constructor
  · intro h
    obtain ⟨run, hlast⟩ := exists_run_of_replacedSpan? h
    rw [replacedSpan?_of_run hlast, Option.ite_none_right_eq_some, Option.some.injEq] at h
    exact ⟨run, hlast, h.1.1, h.1.2, h.2.symm⟩
  · rintro ⟨run, hlast, hwords, hcontains, rfl⟩
    rw [replacedSpan?_of_run hlast, if_pos ⟨hwords, hcontains⟩]

/-- A completion replaces nothing if the search does not end with a run that it contains. -/
theorem replacedSpan?_eq_none_iff {text completion : String} :
    replacedSpan? (SearchPlan.ofText text).predicates completion = none ↔
      ∀ run, (SearchPlan.ofText text).predicates.getLast? = some (.text run) →
        Text.contains (Text.lower completion) (Text.lower run.fragment) = false := by
  constructor
  · intro hnone run hlast
    refine Bool.eq_false_iff.mpr fun hcontains => ?_
    have hspelled := SearchPlan.predicates_ofText text ▸ hlast
    obtain ⟨before, behind, hrun⟩ := exists_lastRun hspelled
    have hspan := replacedSpan?_eq_some_iff.mpr
      ⟨run, hlast, hrun.words_ne_nil, hcontains, rfl⟩
    rw [hnone] at hspan
    cases hspan
  · intro h
    refine Option.eq_none_iff_forall_ne_some.mpr fun span hspan => ?_
    obtain ⟨run, hlast, -, hcontains, -⟩ := replacedSpan?_eq_some_iff.mp hspan
    rw [h run hlast] at hcontains
    cases hcontains

/-- The words of a search that a completion leaves. -/
def keptWords (text completion : String) : List String :=
  match replacedSpan? (SearchPlan.ofText text).predicates completion with
  | some (first, last) => (Text.words text).take first ++ (Text.words text).drop last
  | none => Text.words text

theorem mem_words_of_mem_keptWords {text completion word : String}
    (h : word ∈ keptWords text completion) : word ∈ Text.words text := by
  rw [keptWords] at h
  split at h
  · rcases List.mem_append.mp h with hm | hm
    · exact List.mem_of_mem_take hm
    · exact List.mem_of_mem_drop hm
  · exact h

/-- The words of the completed search are the words that were left and those of the
completion. -/
theorem words_completeRun (text completion : String) :
    Text.words (completeRun text completion) =
      keptWords text completion ++ Text.words completion :=
  Text.words_joinWords_concat (fun _ hm =>
    Text.isWord_of_mem_words (mem_words_of_mem_keptWords hm)) completion

/-! ## Without the run -/

namespace LastRun

variable {words : List String} {run : TextRun} {before behind : List Token}

/-- The words before the run and behind it. -/
theorem words_eq (h : LastRun (words.map .word) run before behind) :
    run.start + run.words.length ≤ words.length ∧
      (words.take run.start ++ words.drop (run.start + run.words.length)).map .word =
        before ++ behind := by
  have htokens := h.tokens_eq
  have hbefore : (words.map Token.word).take run.start = before := by
    rw [htokens, h.start_eq, List.take_left]
  have hbehind : (words.map Token.word).drop (run.start + run.words.length) = behind := by
    rw [htokens, h.start_eq, ← List.drop_drop, List.drop_left]
    exact List.drop_left' (List.length_map _)
  have hlength := congrArg List.length htokens
  rw [List.length_map, List.length_append, List.length_append, List.length_map,
    ← h.start_eq] at hlength
  refine ⟨by omega, ?_⟩
  rw [List.map_append, List.map_take, List.map_drop, hbefore, hbehind]

/-- The words at the places of the run are its words. -/
theorem words_run (h : LastRun (words.map .word) run before behind) :
    (words.drop run.start).take run.words.length = run.words := by
  have hinjective : Function.Injective Token.word := fun one other heq => Token.word.inj heq
  have hrun : ((words.map Token.word).drop run.start).take run.words.length =
      run.words.map .word := by
    rw [h.tokens_eq, h.start_eq, List.drop_left]
    exact List.take_left' (List.length_map _)
  rw [← List.map_drop, ← List.map_take] at hrun
  exact List.map_injective_iff.mpr hinjective hrun

/-- Taking the run out leaves the directives alone. -/
theorem filterMap_directive? {tokens : List Token} (h : LastRun tokens run before behind) :
    (before ++ behind).filterMap Token.directive? = tokens.filterMap Token.directive? := by
  have hrun : (Predicate.text run).directive? = none := rfl
  rw [← filterMap_directive?_spelled 0, ← filterMap_directive?_spelled 0, h.spelled_append,
    h.spelled_eq, List.dropLast_concat, List.filterMap_append, List.filterMap_cons_none hrun,
    List.filterMap_nil, List.append_nil]

end LastRun

/-- The words that are left have the directives of the search. -/
theorem filterMap_directive?_keptWords (text completion : String) :
    ((keptWords text completion).map .word).filterMap Token.directive? =
      ((Text.words text).map .word).filterMap Token.directive? := by
  rw [keptWords]
  split
  · rename_i first last hspan
    obtain ⟨run, hlast, -, -, hspan⟩ := replacedSpan?_eq_some_iff.mp hspan
    cases hspan
    rw [SearchPlan.predicates_ofText] at hlast
    obtain ⟨before, behind, hrun⟩ := exists_lastRun hlast
    rw [hrun.words_eq.2, hrun.filterMap_directive?]
  · rfl

/-- A run at the end that the completion contains is taken out, word for word. -/
theorem keptWords_of_contains {text completion : String} {run : TextRun}
    (hlast : (SearchPlan.ofText text).predicates.getLast? = some (.text run))
    (hcontains : Text.contains (Text.lower completion) (Text.lower run.fragment) = true) :
    let words := Text.words text
    let last := run.start + run.words.length
    replacedSpan? (SearchPlan.ofText text).predicates completion = some (run.start, last) ∧
      (words.drop run.start).take run.words.length = run.words ∧
      keptWords text completion = words.take run.start ++ words.drop last := by
  intro words last
  obtain ⟨before, behind, hrun⟩ := exists_lastRun (SearchPlan.predicates_ofText text ▸ hlast)
  have hspan : replacedSpan? (SearchPlan.ofText text).predicates completion =
      some (run.start, last) :=
    replacedSpan?_eq_some_iff.mpr ⟨run, hlast, hrun.words_ne_nil, hcontains, rfl⟩
  refine ⟨hspan, hrun.words_run, ?_⟩
  rw [keptWords, hspan]

/-- A completion replaces the last run and nothing else. The words that are taken out lie within
the search, and none are taken out unless its last predicate is a run that the completion
contains, in lower case. The directives are then those of the search and of the completion. Where
the last run is replaced, the predicates before it and those of the completion are the predicates
of the result, but for their places. -/
theorem completeRun_replaces_last_run (text completion : String) :
    let words := Text.words text
    let predicates := (SearchPlan.ofText text).predicates
    let added := (SearchPlan.ofText completion).predicates
    let completed := completeRun text completion
    let result := (SearchPlan.ofText completed).predicates
    (∀ first last, replacedSpan? predicates completion = some (first, last) →
      first < last ∧ last ≤ words.length ∧
        Text.words completed = words.take first ++ words.drop last ++ Text.words completion) ∧
    (replacedSpan? predicates completion = none ↔ ∀ run, predicates.getLast? = some (.text run) →
      Text.contains (Text.lower completion) (Text.lower run.fragment) = false) ∧
    (replacedSpan? predicates completion = none →
      Text.words completed = words ++ Text.words completion) ∧
    result.filterMap Predicate.directive? =
      predicates.filterMap Predicate.directive? ++ added.filterMap Predicate.directive? ∧
    ∀ run, predicates.getLast? = some (.text run) →
      Text.contains (Text.lower completion) (Text.lower run.fragment) = true →
        replacedSpan? predicates completion =
          some (run.start, run.start + run.words.length) ∧
        (words.drop run.start).take run.words.length = run.words ∧
        result.map Predicate.unplaced = (predicates.dropLast ++ added).map Predicate.unplaced := by
  intro words predicates added completed result
  have hwords := words_completeRun text completion
  have hpredicates : predicates = spelled 0 (words.map .word) :=
    SearchPlan.predicates_ofText text
  have hadded : added = spelled 0 ((Text.words completion).map .word) :=
    SearchPlan.predicates_ofText completion
  have hresult : result = spelled 0 ((keptWords text completion).map .word ++
      (Text.words completion).map .word) := by
    rw [← List.map_append, ← hwords]
    exact SearchPlan.predicates_ofText completed
  refine ⟨fun first last hspan => ?_, replacedSpan?_eq_none_iff, fun hnone => ?_, ?_,
    fun run hlast hcontains => ?_⟩
  · have hkept : keptWords text completion = words.take first ++ words.drop last := by
      rw [keptWords, hspan]
    obtain ⟨run, hlast, hsome, -, hspan⟩ := replacedSpan?_eq_some_iff.mp hspan
    cases hspan
    rw [hpredicates] at hlast
    obtain ⟨before, behind, hrun⟩ := exists_lastRun hlast
    have hpos := List.length_pos_iff.mpr hsome
    exact ⟨Nat.lt_add_of_pos_right hpos, hrun.words_eq.1, hkept ▸ hwords⟩
  · have hkept : keptWords text completion = words := by rw [keptWords, hnone]
    exact hkept ▸ hwords
  · rw [hresult, hpredicates, hadded]
    simp only [filterMap_directive?_spelled]
    rw [List.filterMap_append, filterMap_directive?_keptWords]
  · obtain ⟨hspan, hcut, hkept⟩ := keptWords_of_contains hlast hcontains
    obtain ⟨before, behind, hrun⟩ := exists_lastRun (hpredicates ▸ hlast)
    refine ⟨hspan, hcut, ?_⟩
    rw [hresult, hkept, hrun.words_eq.2, hrun.map_unplaced_append, hpredicates, hadded]

example : completeRun "coral after:2022-03-01 sea re foo:" "Sea reef" =
    "coral after:2022-03-01 foo: Sea reef" := by
  decide +kernel

end MediaGrid
