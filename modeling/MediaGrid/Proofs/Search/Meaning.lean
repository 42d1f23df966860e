import Mathlib.Data.List.Induction
import MediaGrid.Search.Plan

/-!
# What a search finds

The queries of a search are its predicates multiplied out. A query has one range of days and one
text for each field, so where two predicates set the same condition, the later one takes the place
of the earlier. Of the products of two text runs some set two fields and some only one, and the
latter are met wherever the former are. What is left is the last directive together with the last
run. A record that meets every predicate is found, and a record that is found meets every
predicate if there is at most one of each kind. What a backend does with the queries is no part
of it.
-/

namespace MediaGrid

/-! ## The fields that are searched -/

/-- A text field of a record. -/
inductive TextField where
  /-- The name. -/
  | name
  /-- The notes. -/
  | notes
  /-- The camera. -/
  | camera
  /-- The session. -/
  | session
  deriving DecidableEq, Repr

/-- The text that a record has in a field. -/
def Metadata.text (record : Metadata) : TextField → Option String
  | .name => record.name
  | .notes => record.notes
  | .camera => record.camera
  | .session => record.session

namespace Query

/-- The text that a query wants in a field. -/
def text (query : Query) : TextField → Option String
  | .name => query.name
  | .notes => query.notes
  | .camera => query.camera
  | .session => query.session

/-- The query for a text in one field and a range of days. -/
def single (wanted : Option String) (range : Option DateRange) : TextField → Query
  | .name => { all with name := wanted, captured := range }
  | .notes => { all with notes := wanted, captured := range }
  | .camera => { all with camera := wanted, captured := range }
  | .session => { all with session := wanted, captured := range }

/-- A record is found by queries when it meets one of them. -/
def Finds (queries : List Query) (record : Metadata) : Prop :=
  ∃ query ∈ queries, query.accepts record = true

instance (queries : List Query) (record : Metadata) : Decidable (Finds queries record) :=
  inferInstanceAs (Decidable (∃ query ∈ queries, query.accepts record = true))

theorem text_override (query other : Query) (field : TextField) :
    (query.override other).text field = (other.text field <|> query.text field) := by
  cases field <;> rfl

theorem text_single (wanted : Option String) (range : Option DateRange)
    (field other : TextField) :
    (single wanted range field).text other = if other = field then wanted else none := by
  cases field <;> cases other <;> rfl

theorem captured_single (wanted : Option String) (range : Option DateRange)
    (field : TextField) : (single wanted range field).captured = range := by
  cases field <;> rfl

/-- Two queries for the same field are combined into one for it. -/
theorem override_single (wanted other : Option String) (range range' : Option DateRange)
    (field : TextField) :
    (single wanted range field).override (single other range' field) =
      single (other <|> wanted) (range' <|> range) field := by
  cases field <;> cases other <;> rfl

/-- A record is accepted when every field and the day are. -/
theorem accepts_iff {query : Query} {record : Metadata} :
    query.accepts record = true ↔
      (∀ field, textHolds (query.text field) (record.text field) = true) ∧
        rangeHolds query.captured record.captureDate = true := by
  simp only [accepts, texts, Metadata.texts, List.zip_cons_cons, List.zip_nil_right, List.all_cons,
    List.all_nil, Bool.and_true, Bool.and_eq_true]
  refine and_congr_left fun _ => ⟨fun h field => ?_, fun h => ?_⟩
  · cases field with
    | name => exact h.1
    | notes => exact h.2.1
    | camera => exact h.2.2.1
    | session => exact h.2.2.2
  · exact ⟨h .name, h .notes, h .camera, h .session⟩

/-- A query for one field concerns that field and the day. -/
theorem accepts_single {wanted : Option String} {range : Option DateRange} {field : TextField}
    {record : Metadata} : (single wanted range field).accepts record = true ↔
      textHolds wanted (record.text field) = true ∧
        rangeHolds range record.captureDate = true := by
  rw [accepts_iff, captured_single]
  refine and_congr_left fun _ => ⟨fun h => ?_, fun h other => ?_⟩
  · have hfield := h field
    rwa [text_single, if_pos rfl] at hfield
  · rw [text_single]
    split
    · rename_i he
      rwa [he]
    · rfl

/-- The queries ask for a text in one field or another, and for a range of days; some of them
may ask for more, but each field on its own is asked for as well. -/
structure AskFor (queries : List Query) (wanted : Option String) (range : Option DateRange) :
    Prop where
  /-- Every query asks for the text in some field. -/
  text : ∀ query ∈ queries, ∃ field, query.text field = wanted
  /-- Every query asks for the range. -/
  captured : ∀ query ∈ queries, query.captured = range
  /-- There is a query for each field that asks for nothing else. -/
  single : ∀ field, single wanted range field ∈ queries

/-- Queries that ask for a text and a range find the records that have the text in some field and
a day of the range. -/
theorem AskFor.finds_iff {queries : List Query} {wanted : Option String}
    {range : Option DateRange} (h : AskFor queries wanted range) (record : Metadata) :
    Finds queries record ↔ (∃ field, textHolds wanted (record.text field) = true) ∧
      rangeHolds range record.captureDate = true := by
  constructor
  · rintro ⟨query, hm, haccepts⟩
    obtain ⟨htexts, hrange⟩ := accepts_iff.mp haccepts
    obtain ⟨field, hfield⟩ := h.text query hm
    have htext := htexts field
    rw [hfield] at htext
    rw [h.captured query hm] at hrange
    exact ⟨⟨field, htext⟩, hrange⟩
  · rintro ⟨⟨field, htext⟩, hrange⟩
    exact ⟨Query.single wanted range field, h.single field, accepts_single.mpr ⟨htext, hrange⟩⟩

/-- Queries for a text in one field each, and for a range of days. -/
theorem askFor_singles {queries : List Query} {wanted : Option String} {range : Option DateRange}
    (h : ∀ {query}, query ∈ queries ↔ ∃ field, query = single wanted range field) :
    AskFor queries wanted range where
  text query hm := by
    obtain ⟨field, rfl⟩ := h.mp hm
    exact ⟨field, by rw [text_single, if_pos rfl]⟩
  captured query hm := by
    obtain ⟨field, rfl⟩ := h.mp hm
    exact captured_single wanted range field
  single field := h.mpr ⟨field, rfl⟩

end Query

/-! ## What predicates ask for -/

namespace Predicate

/-- The kind of a predicate. -/
def kind : Predicate → PredicateKind
  | .date _ => .date
  | .text _ => .text

/-- The days that a date directive asks for. -/
def range? : Predicate → Option DateRange
  | .date found => found.map fun m => m.condition.range m.day
  | .text _ => none

/-- The last predicate of a kind. -/
def lastOf? (kind : PredicateKind) (predicates : List Predicate) : Option Predicate :=
  (predicates.filter fun predicate => predicate.kind = kind).getLast?

/-- The fragment of the last run. -/
def lastFragment? (predicates : List Predicate) : Option String :=
  (lastOf? .text predicates).bind fragment?

/-- The days of the last directive. -/
def lastRange? (predicates : List Predicate) : Option DateRange :=
  (lastOf? .date predicates).bind range?

theorem lastOf?_concat (kind : PredicateKind) (predicates : List Predicate)
    (predicate : Predicate) :
    lastOf? kind (predicates ++ [predicate]) =
      if predicate.kind = kind then some predicate else lastOf? kind predicates := by
  unfold lastOf?
  rw [List.filter_append, List.filter_cons, List.filter_nil]
  by_cases hkind : predicate.kind = kind
  · rw [if_pos hkind, if_pos (decide_eq_true hkind)]
    exact List.getLast?_concat
  · rw [if_neg hkind, decide_eq_false hkind, if_neg Bool.false_ne_true, List.append_nil]

theorem mem_of_lastOf? {kind : PredicateKind} {predicates : List Predicate}
    {predicate : Predicate} (h : lastOf? kind predicates = some predicate) :
    predicate ∈ predicates ∧ predicate.kind = kind := by
  have hm := List.mem_filter.mp (List.mem_of_getLast? h)
  exact ⟨hm.1, of_decide_eq_true hm.2⟩

/-- A predicate of which there is no other of its kind is the last one. -/
theorem lastOf?_of_nodup {predicates : List Predicate}
    (hnodup : (predicates.map kind).Nodup) {predicate : Predicate} (hm : predicate ∈ predicates) :
    lastOf? predicate.kind predicates = some predicate := by
  induction predicates using List.reverseRecOn with
  | nil => cases hm
  | append_singleton earlier last ih =>
    rw [List.map_append, List.map_singleton, List.nodup_append] at hnodup
    rw [lastOf?_concat]
    rcases List.mem_append.mp hm with hm | hm
    · have hne : last.kind ≠ predicate.kind := fun he =>
        hnodup.2.2 _ (List.mem_map_of_mem hm) _ (List.mem_singleton.mpr rfl) he.symm
      rw [if_neg hne]
      exact ih hnodup.1 hm
    · rw [List.mem_singleton.mp hm, if_pos rfl]

theorem isComplete_date {found : Option DateMatch} (h : (Predicate.date found).isComplete = true) :
    ∃ m, found = some m :=
  Option.isSome_iff_exists.mp h

theorem isComplete_text {run : TextRun} (h : (Predicate.text run).isComplete = true) :
    run.words.isEmpty = false := by
  have hboth := Bool.and_eq_true_iff.mp h
  simpa using hboth.2

/-- The fragment of a complete run. -/
theorem fragment?_text {run : TextRun} (h : (Predicate.text run).isComplete = true) :
    (Predicate.text run).fragment? = some run.fragment := by
  rw [fragment?, isComplete_text h]
  rfl

/-- A complete predicate has a query for each field that asks for its fragment or its days. -/
theorem mem_choices {predicate : Predicate} (h : predicate.isComplete = true) {query : Query} :
    query ∈ predicate.choices ↔
      ∃ field, query = Query.single predicate.fragment? predicate.range? field := by
  cases predicate with
  | date found =>
    obtain ⟨m, rfl⟩ := isComplete_date h
    rw [choices, List.mem_singleton]
    refine ⟨fun he => ⟨.name, he⟩, fun ⟨field, he⟩ => ?_⟩
    cases field <;> exact he
  | text run =>
    rw [fragment?_text h, choices, isComplete_text h]
    simp only [Bool.false_eq_true, if_false, List.mem_cons, List.not_mem_nil, or_false]
    constructor
    · rintro (he | he | he | he)
      · exact ⟨.name, he⟩
      · exact ⟨.notes, he⟩
      · exact ⟨.camera, he⟩
      · exact ⟨.session, he⟩
    · rintro ⟨field, rfl⟩
      cases field with
      | name => exact Or.inl rfl
      | notes => exact Or.inr (Or.inl rfl)
      | camera => exact Or.inr (Or.inr (Or.inl rfl))
      | session => exact Or.inr (Or.inr (Or.inr rfl))

/-- A run that comes on top is the last one. -/
theorem lastFragment?_concat (predicates : List Predicate) {predicate : Predicate}
    (h : predicate.isComplete = true) :
    lastFragment? (predicates ++ [predicate]) =
      (predicate.fragment? <|> lastFragment? predicates) := by
  rw [lastFragment?, lastOf?_concat]
  cases predicate with
  | date found => rfl
  | text run =>
    rw [fragment?_text h]
    exact fragment?_text h

/-- A directive that comes on top is the last one. -/
theorem lastRange?_concat (predicates : List Predicate) {predicate : Predicate}
    (h : predicate.isComplete = true) :
    lastRange? (predicates ++ [predicate]) = (predicate.range? <|> lastRange? predicates) := by
  rw [lastRange?, lastOf?_concat]
  cases predicate with
  | date found =>
    obtain ⟨m, rfl⟩ := isComplete_date h
    rfl
  | text run => rfl

/-- Every predicate of a search is complete. -/
theorem isComplete_of_mem_predicatesOf {tokens : List Token} {predicate : Predicate}
    (hm : predicate ∈ predicatesOf tokens) : predicate.isComplete = true := by
  have hfold : ∀ (pairs : List (Token × Nat)) (grouping : Grouping),
      (∀ predicate ∈ grouping.complete, predicate.isComplete = true) →
      ∀ predicate ∈ (pairs.foldl (fun grouping pair =>
        grouping.step pair.1 pair.2) grouping).complete, predicate.isComplete = true := by
    intro pairs
    induction pairs with
    | nil => exact fun grouping h => h
    | cons pair rest ih =>
      refine fun grouping h => ih _ fun predicate hm => ?_
      simp only [Grouping.step] at hm
      split at hm
      · exact h predicate hm
      · rcases List.mem_append.mp hm with hm | hm
        · exact h predicate hm
        · split at hm
          · rename_i hcomplete
            rwa [List.mem_singleton.mp hm]
          · cases hm
  exact hfold _ _ (fun other h => by cases h) predicate hm

end Predicate

/-! ## Multiplying out -/

namespace Query

variable {queries choices : List Query} {wanted other : Option String}
  {range range' : Option DateRange}

theorem mem_combine {product : Query} : product ∈ combine queries choices ↔
    ∃ query ∈ queries, ∃ choice ∈ choices, query.override choice = product := by
  rw [combine, List.mem_flatMap]
  simp only [List.mem_map]

/-- Multiplied by the choices of a predicate, queries ask for what it asks for, and otherwise for
what they asked for before. -/
theorem AskFor.combine (h : AskFor queries wanted range)
    (hchoices : ∀ {choice}, choice ∈ choices ↔
      ∃ field, choice = Query.single other range' field) :
    AskFor (combine queries choices) (other <|> wanted) (range' <|> range) := by
  refine ⟨fun product hm => ?_, fun product hm => ?_, fun field => ?_⟩
  · obtain ⟨query, hquery, choice, hchoice, rfl⟩ := mem_combine.mp hm
    obtain ⟨field, rfl⟩ := hchoices.mp hchoice
    cases other with
    | some fragment =>
      refine ⟨field, ?_⟩
      rw [text_override, text_single, if_pos rfl]
      rfl
    | none =>
      obtain ⟨asked, hasked⟩ := h.text query hquery
      refine ⟨asked, ?_⟩
      rw [text_override, text_single, ite_self, hasked]
  · obtain ⟨query, hquery, choice, hchoice, rfl⟩ := mem_combine.mp hm
    obtain ⟨field, rfl⟩ := hchoices.mp hchoice
    rw [override, captured_single, h.captured query hquery]
  · have hchoice := hchoices.mpr ⟨field, rfl⟩
    exact mem_combine.mpr ⟨_, h.single field, _, hchoice,
      override_single wanted other range range' field⟩

end Query

/-- The last predicate comes on top. -/
theorem queriesOf_concat (predicates : List Predicate) {predicate : Predicate}
    (h : predicate.isComplete = true) :
    queriesOf (predicates ++ [predicate]) = combine (queriesOf predicates) predicate.choices := by
  have hchoice := (Predicate.mem_choices h).mpr ⟨.name, rfl⟩
  have hsome : predicate.choices.isEmpty = false :=
    List.isEmpty_eq_false_iff.mpr (List.ne_nil_of_mem hchoice)
  rw [queriesOf, List.foldl_append]
  simp only [List.foldl_cons, List.foldl_nil, hsome, Bool.false_eq_true, if_false]
  rfl

/-- The queries of complete predicates ask for the last fragment and the last days. -/
theorem askFor_queriesOf {predicates : List Predicate}
    (h : ∀ predicate ∈ predicates, predicate.isComplete = true) :
    Query.AskFor (queriesOf predicates) (Predicate.lastFragment? predicates)
      (Predicate.lastRange? predicates) := by
  induction predicates using List.reverseRecOn with
  | nil =>
    refine Query.askFor_singles fun {query} => List.mem_singleton.trans ?_
    refine ⟨fun he => ⟨.name, he⟩, fun ⟨field, he⟩ => ?_⟩
    cases field <;> exact he
  | append_singleton earlier last ih =>
    have hlast := h last (List.mem_append_right _ List.mem_cons_self)
    rw [queriesOf_concat earlier hlast, Predicate.lastFragment?_concat earlier hlast,
      Predicate.lastRange?_concat earlier hlast]
    exact (ih fun predicate hm => h predicate (List.mem_append_left _ hm)).combine
      (Predicate.mem_choices hlast)

/-! ## What is found -/

namespace Predicate

/-- A complete predicate finds the records that have its fragment in some field, or a day of its
range. -/
theorem finds_choices {predicate : Predicate} (h : predicate.isComplete = true)
    (record : Metadata) : Query.Finds predicate.choices record ↔
      (∃ field, Query.textHolds predicate.fragment? (record.text field) = true) ∧
        Query.rangeHolds predicate.range? record.captureDate = true :=
  (Query.askFor_singles (mem_choices h)).finds_iff record

/-- The last fragment and the last days are met where the last predicates of both kinds are. -/
theorem finds_last_iff {predicates : List Predicate}
    (h : ∀ predicate ∈ predicates, predicate.isComplete = true) (record : Metadata) :
    (∀ kind predicate, lastOf? kind predicates = some predicate →
      Query.Finds predicate.choices record) ↔
    (∃ field, Query.textHolds (lastFragment? predicates) (record.text field) = true) ∧
      Query.rangeHolds (lastRange? predicates) record.captureDate = true := by
  unfold lastFragment? lastRange?
  constructor
  · intro hall
    constructor
    · cases hlast : lastOf? .text predicates with
      | none => exact ⟨.name, rfl⟩
      | some run =>
        have hcomplete := h run (mem_of_lastOf? hlast).1
        exact ((finds_choices hcomplete record).mp (hall .text run hlast)).1
    · cases hlast : lastOf? .date predicates with
      | none => rfl
      | some directive =>
        have hcomplete := h directive (mem_of_lastOf? hlast).1
        exact ((finds_choices hcomplete record).mp (hall .date directive hlast)).2
  · rintro ⟨htext, hrange⟩ kind predicate hlast
    obtain ⟨hm, hkind⟩ := mem_of_lastOf? hlast
    refine (finds_choices (h predicate hm) record).mpr ?_
    -- A run asks for no days, and a directive for no fragment.
    cases predicate with
    | text run =>
      obtain rfl : PredicateKind.text = kind := hkind
      rw [hlast] at htext
      exact ⟨htext, rfl⟩
    | date found =>
      obtain rfl : PredicateKind.date = kind := hkind
      rw [hlast] at hrange
      exact ⟨⟨.name, rfl⟩, hrange⟩

end Predicate

namespace SearchPlan

/-- A search finds exactly the records that its last date directive and its last run of words find,
each on its own. So it finds every record that all its predicates find, and no others if there is
at most one predicate of each kind. -/
theorem finds_iff_last (text : String) (record : Metadata) :
    let plan := ofText text
    (Query.Finds plan.queries record ↔
      ∀ kind predicate, Predicate.lastOf? kind plan.predicates = some predicate →
        Query.Finds predicate.choices record) ∧
    ((∀ predicate ∈ plan.predicates, Query.Finds predicate.choices record) →
      Query.Finds plan.queries record) ∧
    ((plan.predicates.map Predicate.kind).Nodup →
      (Query.Finds plan.queries record ↔
        ∀ predicate ∈ plan.predicates, Query.Finds predicate.choices record)) := by
  intro plan
  have hcomplete : ∀ predicate ∈ plan.predicates, predicate.isComplete = true :=
    fun predicate hm => Predicate.isComplete_of_mem_predicatesOf hm
  have hlast : Query.Finds plan.queries record ↔
      ∀ kind predicate, Predicate.lastOf? kind plan.predicates = some predicate →
        Query.Finds predicate.choices record :=
    ((askFor_queriesOf hcomplete).finds_iff record).trans
      (Predicate.finds_last_iff hcomplete record).symm
  have hall : (∀ predicate ∈ plan.predicates, Query.Finds predicate.choices record) →
      Query.Finds plan.queries record :=
    fun h => hlast.mpr fun kind predicate he => h predicate (Predicate.mem_of_lastOf? he).1
  refine ⟨hlast, hall, fun hnodup => ⟨fun hfinds predicate hm => ?_, hall⟩⟩
  exact hlast.mp hfinds predicate.kind predicate (Predicate.lastOf?_of_nodup hnodup hm)

/-- Of two bounds only the later one counts, and so does the later of two runs: a record from
before the first bound is found, and so is one without the first word. -/
theorem finds_despite_earlier :
    let bounds := ofText "after:2021-01-01 before:2022-01-01"
    let early : Metadata := { Metadata.empty with captureDate := Calendar.dayOf? "2020-06-01" }
    let words := ofText "coral on:2022-01-01 reef"
    let reef : Metadata := { Metadata.empty with
      name := some "Reef"
      captureDate := Calendar.dayOf? "2022-01-01" }
    (Query.Finds bounds.queries early ∧
      ∃ predicate ∈ bounds.predicates, ¬Query.Finds predicate.choices early) ∧
    Query.Finds words.queries reef ∧
      ∃ predicate ∈ words.predicates, ¬Query.Finds predicate.choices reef := by
  decide +kernel

end SearchPlan

end MediaGrid
