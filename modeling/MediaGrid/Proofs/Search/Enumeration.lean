import Mathlib.Algebra.Group.Nat.Defs
import Mathlib.Data.List.Forall2
import MediaGrid.Proofs.Search.Meaning

/-!
# The queries of a search, one by one

Each run of words may occur in any of the four text fields, so a search stands for one query for
each way to choose a field for every run. The ways are listed in lexicographic order, and the
queries of a search are shown to come in the same order, one for each way: where a field was chosen
for several runs the last of them counts, and the range of the last date directive is in every
query. So only the order of the runs and the order of the directives matter, not how the two are
mixed. What the queries find is no part of it.
-/

namespace MediaGrid

namespace TextField

/-- The text fields, in the order in which they are searched. -/
def inOrder : List TextField := [.name, .notes, .camera, .session]

/-- One field is searched before another. -/
def Before (field other : TextField) : Prop := inOrder.idxOf field < inOrder.idxOf other

instance (field other : TextField) : Decidable (Before field other) :=
  inferInstanceAs (Decidable (_ < _))

theorem mem_inOrder (field : TextField) : field ∈ inOrder := by
  cases field <;> decide

theorem pairwise_inOrder : inOrder.Pairwise Before := by
  decide

/-- The ways to choose a field for each of some runs, those that differ in the first run farthest
apart. -/
def assignments : Nat → List (List TextField)
  | 0 => [[]]
  | count + 1 => inOrder.flatMap fun field => (assignments count).map (field :: ·)

theorem length_assignments (count : Nat) : (assignments count).length = 4 ^ count := by
  induction count with
  | zero => rfl
  | succ count ih =>
    simp only [assignments, inOrder, List.flatMap_cons, List.flatMap_nil, List.length_append,
      List.length_map, List.length_nil, ih]
    omega

/-- Every way to choose is listed. -/
theorem mem_assignments {count : Nat} {fields : List TextField} :
    fields ∈ assignments count ↔ fields.length = count := by
  induction count generalizing fields with
  | zero => rw [assignments, List.mem_singleton, List.length_eq_zero_iff]
  | succ count ih =>
    simp only [assignments, List.mem_flatMap, List.mem_map, ih]
    constructor
    · rintro ⟨field, -, rest, hrest, rfl⟩
      rw [List.length_cons, hrest]
    · intro hlength
      obtain ⟨field, rest, rfl⟩ := List.exists_cons_of_length_eq_add_one hlength
      exact ⟨field, mem_inOrder field, rest, Nat.succ.inj hlength, rfl⟩

/-- The ways to choose are listed in lexicographic order. -/
theorem pairwise_assignments (count : Nat) : (assignments count).Pairwise (List.Lex Before) := by
  induction count with
  | zero => exact List.pairwise_singleton _ _
  | succ count ih =>
    refine List.pairwise_flatMap.mpr ⟨fun field _ => ?_, ?_⟩
    · exact List.pairwise_map.mpr (ih.imp List.Lex.cons)
    · refine pairwise_inOrder.imp fun hbefore first hfirst second hsecond => ?_
      obtain ⟨rest, -, rfl⟩ := List.mem_map.mp hfirst
      obtain ⟨rest', -, rfl⟩ := List.mem_map.mp hsecond
      exact .rel hbefore

/-- The ways to choose may be listed with the last run varying fastest. -/
theorem assignments_concat (count : Nat) : assignments (count + 1) =
    (assignments count).flatMap fun fields => inOrder.map fun field => fields ++ [field] := by
  induction count with
  | zero => rfl
  | succ count ih =>
    conv_lhs => rw [assignments, ih]
    simp only [assignments, List.map_flatMap, List.flatMap_map, List.map_map, List.flatMap_assoc]
    rfl

end TextField

namespace Query

/-- The query of one way to choose: it has in every field the fragment of the last run for which
the field was chosen, nothing in the others, and the range. -/
structure Assigns (fragments : List String) (range : Option DateRange) (fields : List TextField)
    (query : Query) : Prop where
  /-- A field is chosen for each fragment. -/
  length : fields.length = fragments.length
  /-- The last fragment for which a field was chosen is in the field. -/
  chosen : ∀ (index : Nat) field, fields[index]? = some field →
    (∀ later : Nat, index < later → fields[later]? ≠ some field) →
      query.text field = fragments[index]?
  /-- Nothing is in a field that was not chosen. -/
  absent : ∀ field, field ∉ fields → query.text field = none
  /-- The range is that of the search. -/
  captured : query.captured = range

/-- Queries with the same texts and the same range are equal. -/
theorem eq_of_texts {query other : Query} (htext : ∀ field, query.text field = other.text field)
    (hcaptured : query.captured = other.captured) : query = other := by
  obtain ⟨name, notes, camera, session, captured⟩ := query
  have hname := htext .name
  have hnotes := htext .notes
  have hcamera := htext .camera
  have hsession := htext .session
  simp only [text] at hname hnotes hcamera hsession hcaptured
  rw [hname, hnotes, hcamera, hsession, hcaptured]

/-- What occurs in a list occurs at a last index. -/
theorem exists_last_index {fields : List TextField} {field : TextField} (hm : field ∈ fields) :
    ∃ index : Nat, fields[index]? = some field ∧
      ∀ later : Nat, index < later → fields[later]? ≠ some field := by
  induction fields using List.reverseRecOn with
  | nil => cases hm
  | append_singleton fields last ih =>
    by_cases hlast : field = last
    · refine ⟨fields.length, by rw [hlast, List.getElem?_concat_length], fun later hlater => ?_⟩
      rw [List.getElem?_eq_none (by rw [List.length_append, List.length_singleton]; omega)]
      exact nofun
    · have hin : field ∈ fields := (List.mem_append.mp hm).resolve_right fun hsingle =>
        hlast (List.mem_singleton.mp hsingle)
      obtain ⟨index, hindex, hlatest⟩ := ih hin
      have hlt : index < fields.length := (List.getElem?_eq_some_iff.mp hindex).1
      refine ⟨index, by rw [List.getElem?_append_left hlt, hindex], fun later hlater => ?_⟩
      rcases Nat.lt_or_ge later fields.length with hinside | houtside
      · rw [List.getElem?_append_left hinside]
        exact hlatest later hlater
      · rw [List.getElem?_append_right houtside, List.getElem?_singleton]
        split
        · exact fun he => hlast (Option.some.inj he).symm
        · exact nofun

namespace Assigns

variable {fragments : List String} {range : Option DateRange} {fields : List TextField}
  {query other : Query}

/-- There is one query for each way to choose. -/
theorem unique (h : Assigns fragments range fields query)
    (h' : Assigns fragments range fields other) : query = other := by
  refine eq_of_texts (fun field => ?_) (h.captured.trans h'.captured.symm)
  by_cases hm : field ∈ fields
  · obtain ⟨index, hindex, hlatest⟩ := exists_last_index hm
    rw [h.chosen index field hindex hlatest, h'.chosen index field hindex hlatest]
  · rw [h.absent field hm, h'.absent field hm]

/-- Without runs and directives every record is wanted. -/
theorem nil : Assigns [] none [] all where
  length := rfl
  chosen index field hindex _ := by cases hindex
  absent field _ := by cases field <;> rfl
  captured := rfl

/-- A further run puts its fragment in place of what was in its field. -/
theorem concat (h : Assigns fragments range fields query) (fragment : String)
    (field : TextField) : Assigns (fragments ++ [fragment]) range (fields ++ [field])
      (query.override (single (some fragment) none field)) where
  length := by rw [List.length_append, List.length_append, h.length]; rfl
  chosen index wanted hindex hlatest := by
    rw [text_override, text_single]
    rcases Nat.lt_trichotomy index fields.length with hlt | rfl | hgt
    · rw [List.getElem?_append_left hlt] at hindex
      -- The last run chose another field, as it comes later.
      have hne : wanted ≠ field := by
        rintro rfl
        exact hlatest fields.length hlt List.getElem?_concat_length
      rw [if_neg hne, List.getElem?_append_left (h.length ▸ hlt)]
      refine h.chosen index wanted hindex fun later hlater hsame => hlatest later hlater ?_
      rw [List.getElem?_append_left (List.getElem?_eq_some_iff.mp hsame).1, hsame]
    · rw [List.getElem?_concat_length, Option.some.injEq] at hindex
      rw [if_pos hindex.symm, h.length, List.getElem?_concat_length]
      rfl
    · rw [List.getElem?_eq_none (by rw [List.length_append, List.length_singleton]; omega)]
        at hindex
      cases hindex
  absent wanted hout := by
    rw [List.mem_append, List.mem_singleton, not_or] at hout
    rw [text_override, text_single, if_neg hout.2]
    exact h.absent wanted hout.1
  captured := by
    rw [override, captured_single]
    exact h.captured

/-- A further directive puts its range in place of the range. -/
theorem dated (h : Assigns fragments range fields query) (other : DateRange) :
    Assigns fragments (some other) fields
      (query.override { all with captured := some other }) where
  length := h.length
  chosen index field hindex hlatest := by
    have hsame : (query.override { all with captured := some other }).text field =
        query.text field := by cases field <;> rfl
    exact hsame.trans (h.chosen index field hindex hlatest)
  absent field hout := by
    have hsame : (query.override { all with captured := some other }).text field =
        query.text field := by cases field <;> rfl
    exact hsame.trans (h.absent field hout)
  captured := rfl

end Assigns

end Query

/-! ## The queries in order -/

namespace Predicate

/-- A complete run has a choice for each field, in order. -/
theorem choices_text {run : TextRun} (h : (Predicate.text run).isComplete = true) :
    (Predicate.text run).choices =
      TextField.inOrder.map (Query.single (some run.fragment) none) := by
  rw [choices, isComplete_text h]
  rfl

end Predicate

/-- The queries of complete predicates are those of the ways to choose, in the same order. -/
theorem assigns_queriesOf {predicates : List Predicate}
    (h : ∀ predicate ∈ predicates, predicate.isComplete = true) :
    List.Forall₂
      (Query.Assigns (predicates.filterMap Predicate.fragment?) (Predicate.lastRange? predicates))
      (TextField.assignments (predicates.filterMap Predicate.fragment?).length)
      (queriesOf predicates) := by
  induction predicates using List.reverseRecOn with
  | nil => exact .cons .nil .nil
  | append_singleton earlier last ih =>
    have hlast := h last (List.mem_append_right _ List.mem_cons_self)
    have hearlier := ih fun predicate hm => h predicate (List.mem_append_left _ hm)
    rw [queriesOf_concat earlier hlast, Predicate.lastRange?_concat earlier hlast,
      List.filterMap_append, combine]
    cases last with
    | date found =>
      obtain ⟨m, rfl⟩ := Predicate.isComplete_date hlast
      have hfragments : [Predicate.date (some m)].filterMap Predicate.fragment? = [] := rfl
      rw [hfragments, List.append_nil]
      -- The range is put into each query, whichever way its fields were chosen.
      simp only [Predicate.choices, List.map_cons, List.map_nil, ← List.map_eq_flatMap]
      rw [List.forall₂_map_right_iff]
      exact hearlier.imp fun fields query hassigns => hassigns.dated _
    | text run =>
      have hfragments : [Predicate.text run].filterMap Predicate.fragment? = [run.fragment] := by
        rw [List.filterMap_cons, Predicate.fragment?_text hlast]
        rfl
      rw [hfragments, List.length_append, List.length_singleton, TextField.assignments_concat,
        Predicate.choices_text hlast]
      -- Every way to choose is followed by those that choose a field for the last run as well.
      refine List.rel_flatMap hearlier fun fields query hassigns => ?_
      rw [List.map_map, List.forall₂_map_left_iff, List.forall₂_map_right_iff, List.forall₂_same]
      exact fun field _ => hassigns.concat run.fragment field

/-- The fragments of a search are those of its runs. -/
theorem fragments_of_kind (predicates : List Predicate) :
    predicates.filterMap Predicate.fragment? =
      (predicates.filter fun predicate => predicate.kind = .text).filterMap
        Predicate.fragment? := by
  rw [List.filterMap_filter]
  refine List.filterMap_congr fun predicate _ => ?_
  cases predicate <;> rfl

/-- The queries of a search are listed one by one: there are four for each run raised to the number
of runs, one for each way to choose a field for every run, in lexicographic order of the ways; each
has the fragment of the last run in every field that was chosen for one, nothing in the others, and
the range of the last directive. So the queries are the same however runs and directives are mixed,
and a search without words has the one query that every record meets. -/
theorem queries_enumerated {predicates : List Predicate}
    (h : ∀ predicate ∈ predicates, predicate.isComplete = true) :
    let fragments := predicates.filterMap Predicate.fragment?
    let ways := TextField.assignments fragments.length
    (queriesOf predicates).length = 4 ^ fragments.length ∧
    (∀ fields, fields ∈ ways ↔ fields.length = fragments.length) ∧
    ways.Pairwise (List.Lex TextField.Before) ∧
    List.Forall₂ (Query.Assigns fragments (Predicate.lastRange? predicates)) ways
      (queriesOf predicates) ∧
    (∀ others : List Predicate, (∀ predicate ∈ others, predicate.isComplete = true) →
      (∀ kind, others.filter (fun predicate => predicate.kind = kind) =
        predicates.filter fun predicate => predicate.kind = kind) →
      queriesOf others = queriesOf predicates) ∧
    ∀ text, Text.words text = [] → (SearchPlan.ofText text).queries = [Query.all] := by
  intro fragments ways
  have hassigns := assigns_queriesOf h
  refine ⟨?_, fun fields => TextField.mem_assignments, TextField.pairwise_assignments _, hassigns,
    fun others hothers hkinds => ?_, fun text hwords => ?_⟩
  · rw [← hassigns.length_eq, TextField.length_assignments]
  · have hsame := assigns_queriesOf hothers
    have hrange : Predicate.lastRange? others = Predicate.lastRange? predicates := by
      rw [Predicate.lastRange?, Predicate.lastRange?, Predicate.lastOf?, Predicate.lastOf?,
        hkinds .date]
    rw [fragments_of_kind others, hkinds .text, ← fragments_of_kind, hrange] at hsame
    refine List.right_unique_forall₂' ?_ hsame hassigns
    exact fun fields query other hquery hother => hquery.unique hother
  · rw [SearchPlan.ofText, Token.ofText, hwords]
    rfl

/-- Two runs around a directive: of the sixteen queries the second has the first run in the name
and the second in the notes, and the first has the second run in the name. -/
theorem queries_enumerated_around :
    let predicates := predicatesOf (Token.ofText "coral on:2022-01-01 reef")
    (∀ predicate ∈ predicates, predicate.isComplete = true) ∧
      (queriesOf predicates).length = 16 ∧
      ((queriesOf predicates).map Query.texts).take 2 =
        [[some "reef", none, none, none], [some "coral", some "reef", none, none]] := by
  intro predicates
  have hcomplete : ∀ predicate ∈ predicates, predicate.isComplete = true :=
    fun predicate hm => Predicate.isComplete_of_mem_predicatesOf hm
  have hfragments : predicates.filterMap Predicate.fragment? = ["coral", "reef"] := by
    decide +kernel
  obtain ⟨hlength, -⟩ := queries_enumerated hcomplete
  rw [hfragments] at hlength
  exact ⟨hcomplete, hlength, by decide +kernel⟩

end MediaGrid
