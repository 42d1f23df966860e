import MediaGrid.Json.Form
import MediaGrid.Proofs.Json.Fields
import MediaGrid.Proofs.Json.Tree

/-!
# Typed forms read back

What is written of a typed value is read back from the tree of what was written. This is shown for
each way in which a form is put together: texts, truth values, bounded numbers, lists, values that
may be absent, records of parts, and values of any kind. A record is written with its parts in the
order of their names and without those that are absent; so no name comes twice, and each part is
found under its own.
-/

namespace MediaGrid.Json

open Value

/-! ## Values of any kind -/

mutual

/-- A value is read back from its tree where its nesting leaves it below the deepest. -/
theorem value?_source (value : Value) {depth : Nat} (h : value.all isKept)
    (hdepth : depth + value.nesting ≤ maxDepth) :
    Source.value? depth value.source = some value := by
  match value with
  | .null => rw [source, Source.value?]
  | .boolean b => rw [source, Source.value?]
  | .number n => rw [source, Source.value?, Option.map_some]
  | .text t => rw [source, Source.value?, Option.map_some]
  | .array items =>
    simp only [all, Bool.and_eq_true] at h
    rw [nesting] at hdepth
    rw [source, Source.value?, if_pos (by omega), values?_sources items h.2 (by omega),
      Option.map_some]
  | .object fields =>
    simp only [all, isKept, Bool.and_eq_true, decide_eq_true_eq] at h
    rw [nesting] at hdepth
    rw [source, Source.value?, if_pos (by omega),
      fieldsOnto?_fieldSources fields Fields.empty h.2 (by omega), Option.map_some]
    exact congrArg (some ∘ Value.object ∘ Fields.entries) (Fields.empty_overlay ⟨fields, h.1⟩)

/-- The values of a list are read back. -/
theorem values?_sources (items : List Value) {depth : Nat} (h : allItems isKept items)
    (hdepth : depth + nestingItems items ≤ maxDepth) :
    Source.values? depth (sources items) = some items := by
  match items with
  | [] => rw [sources, Source.values?]
  | item :: rest =>
    simp only [allItems, Bool.and_eq_true] at h
    rw [nestingItems] at hdepth
    rw [sources, Source.values?, value?_source item h.1 (by omega),
      values?_sources rest h.2 (by omega)]
    rfl

/-- The fields of an object are set one after the other. -/
theorem fieldsOnto?_fieldSources (fields : List (String × Value)) {depth : Nat} (acc : Fields)
    (h : allFields isKept fields) (hdepth : depth + nestingFields fields ≤ maxDepth) :
    Source.fieldsOnto? depth acc (fieldSources fields) =
      some (fields.foldl (fun acc field => acc.set field.1 field.2) acc) := by
  match fields with
  | [] => rw [fieldSources, Source.fieldsOnto?, List.foldl_nil]
  | (key, value) :: rest =>
    simp only [allFields, Bool.and_eq_true] at h
    rw [nestingFields] at hdepth
    rw [fieldSources, Source.fieldsOnto?, value?_source value h.1 (by omega)]
    exact fieldsOnto?_fieldSources rest (acc.set key value) h.2 (by omega)

end

/-- Whether further values can be kept: integers have 64 bits, and the keys of objects increase. -/
def Fields.Kept (fields : Fields) : Prop := ∀ field ∈ fields.entries, field.2.all isKept

/-- Further values without floating-point numbers, each of which nests fewer than `levels` levels
of lists and objects. -/
structure Fields.Plain (levels : Nat) (fields : Fields) : Prop where
  /-- They can be kept. -/
  kept : fields.Kept
  /-- None is or holds a floating-point number. -/
  exact : ∀ field ∈ fields.entries, field.2.all (!·.isReal)
  /-- None is nested too deeply. -/
  shallow : ∀ field ∈ fields.entries, field.2.nesting < levels

instance (fields : Fields) : Decidable fields.Kept := by unfold Fields.Kept; infer_instance

instance (levels : Nat) (fields : Fields) : Decidable (fields.Plain levels) :=
  decidable_of_iff (fields.Kept ∧ (∀ field ∈ fields.entries, field.2.all (!·.isReal)) ∧
      ∀ field ∈ fields.entries, field.2.nesting < levels)
    ⟨fun h => ⟨h.1, h.2.1, h.2.2⟩, fun h => ⟨h.kept, h.exact, h.shallow⟩⟩

/-- Plain values hold no number that would be read as another. -/
theorem Fields.Plain.all_isExact {fields : Fields} {levels : Nat} (h : fields.Plain levels) :
    ∀ field ∈ fields.entries, field.2.all isExact := fun field hm =>
  all_of_both (fun _ => isExact_of_isKept) field.2 (h.kept field hm) (h.exact field hm)

theorem nestingFields_lt {fields : List (String × Value)} {levels : Nat} (hlevels : 0 < levels)
    (h : ∀ field ∈ fields, field.2.nesting < levels) : nestingFields fields < levels := by
  induction fields with
  | nil => exact hlevels
  | cons field rest ih =>
    rw [nestingFields, Nat.max_lt]
    exact ⟨h field List.mem_cons_self, ih fun other hm => h other (List.mem_cons_of_mem _ hm)⟩

/-- Further values are read back from the object they are written as. -/
theorem object?_source {fields : Fields} {levels depth : Nat} (h : fields.Plain levels)
    (hlevels : 0 < levels) (hdepth : depth + levels ≤ maxDepth) :
    Source.object? depth (Value.object fields.entries).source = some fields := by
  have hnesting := nestingFields_lt hlevels h.shallow
  rw [source, Source.object?, if_pos (by omega),
    fieldsOnto?_fieldSources _ _ (allFields_iff.mpr h.kept) (by omega)]
  exact congrArg some fields.empty_overlay

/-! ## Forms without parts -/

/-- A value that stands for `a`: it holds no number that would be read as another, and `a` is read
back from its tree. -/
structure StandsFor (read : Source → Option α) (value : Value) (a : α) : Prop where
  /-- Every number is an integer of 64 bits. -/
  exact : value.all isExact
  /-- What is read is what was written. -/
  read_eq : read value.source = some a

variable {read : Source → Option α} {write : α → Value} {value : Value} {a : α}

/-- Whether `a` is read back from the text it is written as. -/
def RoundTrips (read : Source → Option α) (write : α → Value) (a : α) : Prop :=
  (parse (write a).render >>= read) = some a

/-- What stands for `a` is read back from its text. -/
theorem StandsFor.roundTrips (h : StandsFor read (write a) a) : RoundTrips read write a := by
  rw [RoundTrips, parse_render h.exact]
  exact h.read_eq

theorem standsFor_text (t : String) : StandsFor Source.text? (.text t) t := ⟨rfl, rfl⟩

theorem standsFor_boolean (b : Bool) : StandsFor Source.boolean? (.boolean b) b := ⟨rfl, rfl⟩

/-- A value that is there is read back, unless it would be taken for `null`. -/
theorem nullable?_eq {source : Source} (h : read source = some a) (hnull : read .null = none) :
    Source.nullable? read source = some (some a) := by
  rw [Source.nullable?, h, Option.map_some]
  rintro rfl
  rw [hnull] at h
  cases h

/-- A value that may be absent is read back where `null` stands for its absence only. -/
theorem standsFor_ofOption {a? : Option α} (h : ∀ a ∈ a?, StandsFor read (write a) a)
    (hnull : read .null = none) :
    StandsFor (Source.nullable? read) (ofOption write a?) a? := by
  cases a? with
  | none => exact ⟨rfl, rfl⟩
  | some a => exact ⟨(h a rfl).exact, nullable?_eq (h a rfl).read_eq hnull⟩

/-- A natural number is read back up to its bound. -/
theorem standsFor_natural {limit n : Nat} (hlimit : limit ≤ wordMax) (h : n ≤ limit) :
    StandsFor (Source.natural? limit) (ofNat n) n := by
  have hfits : fits n := by
    simp only [fits, decide_eq_true_eq]
    omega
  refine ⟨by simpa [ofNat, all, isExact] using hfits, ?_⟩
  rw [ofNat, source, Source.natural?, if_pos ⟨Int.natCast_nonneg n, Int.ofNat_le.mpr h⟩,
    Int.toNat_natCast]

/-- A list is read back if its items are. -/
theorem standsFor_list (items : List α) (h : ∀ a ∈ items, StandsFor read (write a) a) :
    StandsFor (Source.list? read) (ofList write items) items := by
  constructor
  · have hall : allItems isExact (items.map write) := by
      rw [allItems_iff, List.forall_mem_map]
      exact fun a hm => (h a hm).exact
    simpa [ofList, all, isExact] using hall
  · rw [ofList, source, Source.list?, sources_eq_map, List.map_map]
    induction items with
    | nil => rfl
    | cons a rest ih =>
      have hrest := ih fun other hm => h other (List.mem_cons_of_mem _ hm)
      simp [List.mapM_cons, (h a List.mem_cons_self).read_eq, hrest]

/-! ## Records -/

/-- The parts of a record that are there, as fields. -/
def presentFields (rows : List (String × Option Value)) : List (String × Value) :=
  rows.filterMap fun row => row.2.map (row.1, ·)

/-- A part that is left out where it is absent. -/
theorem presentField_eq (name : String) (write : α → Value) (a? : Option α) :
    presentField name write a? = presentFields [(name, a?.map write)] := by
  cases a? <;> rfl

theorem presentFields_append (rows others : List (String × Option Value)) :
    presentFields rows ++ presentFields others = presentFields (rows ++ others) :=
  List.filterMap_append.symm

/-- The keys that are written are the names of parts, in their order. -/
theorem keys_presentFields_sublist (rows : List (String × Option Value)) :
    ((presentFields rows).map (·.1)).Sublist (rows.map (·.1)) := by
  induction rows with
  | nil => exact .slnil
  | cons row rest ih =>
    obtain ⟨name, value?⟩ := row
    cases value? with
    | none => exact ih.cons name
    | some value => exact ih.cons_cons name

/-- A field is written for each part that is there. -/
theorem mem_presentFields_iff {rows : List (String × Option Value)} {name : String}
    {value : Value} : (name, value) ∈ presentFields rows ↔ (name, some value) ∈ rows := by
  simp [presentFields]

/-- Fields with known keys, none of them twice, are all picked. -/
theorem knownFields_fieldSources {names : List String} {fields : List (String × Value)}
    (hknown : ∀ field ∈ fields, field.1 ∈ names) (hdistinct : (fields.map (·.1)).Nodup) :
    knownFields names (fieldSources fields) =
      some (fields.map fun field => (field.1, field.2.source)) := by
  induction fields with
  | nil => rfl
  | cons field rest ih =>
    obtain ⟨hnew, hrest⟩ := List.nodup_cons.mp hdistinct
    have hothers := ih (fun other hm => hknown other (List.mem_cons_of_mem _ hm)) hrest
    have hsingle : (rest.map fun other => (other.1, other.2.source)).any
        (·.1 == field.1) = false := by
      rw [List.any_map, List.any_eq_false]
      intro other hm heq
      have hkey := List.mem_map_of_mem (f := (·.1)) hm
      rw [beq_iff_eq.mp heq] at hkey
      exact hnew hkey
    rw [fieldSources, knownFields]
    simp [hothers, hknown field List.mem_cons_self, hsingle]

/-- The parts that a record is written with, in the order of their names; each of them may be
absent. -/
abbrev Slots := Table String (Option Value)

namespace Slots

/-- The record as it is written. -/
def toValue (slots : Slots) : Value := .object (presentFields slots.rows)

/-- The parts that are read of it. -/
def parts (slots : Slots) : Parts :=
  ⟨(presentFields slots.rows).map fun field => (field.1, field.2.source), false⟩

/-- No key is written twice. -/
theorem nodup_keys (slots : Slots) : ((presentFields slots.rows).map (·.1)).Nodup :=
  slots.distinct.sublist (keys_presentFields_sublist slots.rows)

/-- The fields that are written, as a table. -/
def written (slots : Slots) : Table String Value := ⟨presentFields slots.rows, slots.nodup_keys⟩

/-- A record is read back part by part. -/
theorem parts?_toValue (slots : Slots) :
    slots.toValue.source.parts? (slots.rows.map (·.1)) = some slots.parts := by
  have hknown : ∀ field ∈ presentFields slots.rows, field.1 ∈ slots.rows.map (·.1) :=
    fun field hm => (keys_presentFields_sublist slots.rows).subset (List.mem_map_of_mem hm)
  rw [toValue, source, Source.parts?, knownFields_fieldSources hknown slots.nodup_keys,
    Option.map_some]
  rfl

variable {slots : Slots} {name : String}

/-- Under the name of a part stands what was written of it. -/
theorem get?_parts {value? : Option Value} (h : (name, value?) ∈ slots.rows) :
    slots.parts.get? name = value?.map source := by
  have hfields : ((presentFields slots.rows).find? (·.1 == name)).map (·.2) = value? := by
    refine Option.ext fun value => ?_
    have hwritten : (name, value) ∈ slots.written.rows ↔ slots.written.find? name = some value :=
      Table.mem_rows_iff
    have hslot : (name, value) ∈ slots.written.rows ↔ value? = some value := by
      rw [written, mem_presentFields_iff, Table.mem_rows_iff, Table.mem_rows_iff.mp h,
        Option.some.injEq]
    exact hwritten.symm.trans hslot
  rw [← hfields, Parts.get?, parts, List.find?_map, Option.map_map, Option.map_map]
  rfl

/-- A part that is there is read back. -/
theorem required_parts (h : (name, some value) ∈ slots.rows) (hvalue : StandsFor read value a) :
    slots.parts.required name read = some a := by
  rw [Parts.required, get?_parts h]
  exact hvalue.read_eq

/-- A part with a default is read back, if it is left out for the default only. -/
theorem orElse_parts {value? : Option Value} {default : α} (h : (name, value?) ∈ slots.rows)
    (hnone : value? = none → default = a)
    (hsome : ∀ value ∈ value?, read value.source = some a) :
    slots.parts.orElse name default read = some a := by
  rw [Parts.orElse, get?_parts h]
  cases value? with
  | none => exact congrArg some (hnone rfl)
  | some value => exact hsome value rfl

/-- A part that may be absent is read back, as long as `null` is no value of its form. -/
theorem optional_parts {a? : Option α} (h : (name, a?.map write) ∈ slots.rows)
    (hvalue : ∀ a ∈ a?, StandsFor read (write a) a) (hnull : read .null = none) :
    slots.parts.optional name read = some a? := by
  refine orElse_parts h (fun hnone => (Option.map_eq_none_iff.mp hnone).symm) fun value hm => ?_
  obtain ⟨a, rfl, rfl⟩ := Option.map_eq_some_iff.mp hm
  exact nullable?_eq (hvalue a rfl).read_eq hnull

/-- A part that is always there and may be `null` is read back. -/
theorem nullable_parts {a? : Option α} (h : (name, some value) ∈ slots.rows)
    (hvalue : StandsFor (Source.nullable? read) value a?) :
    slots.parts.nullable name read = some a? :=
  orElse_parts h nofun fun _ hm => Option.some.inj hm ▸ hvalue.read_eq

theorem text_parts {t : String} (h : (name, some (.text t)) ∈ slots.rows) :
    slots.parts.required name Source.text? = some t :=
  required_parts h (standsFor_text t)

theorem optional_text_parts {t? : Option String} (h : (name, t?.map .text) ∈ slots.rows) :
    slots.parts.optional name Source.text? = some t? :=
  optional_parts h (fun t _ => standsFor_text t) rfl

/-- A record holds no number that would be read as another if its parts hold none. -/
theorem exact_toValue (slots : Slots) (h : ∀ row ∈ slots.rows, ∀ value ∈ row.2, value.all isExact) :
    slots.toValue.all isExact := by
  have hfields : allFields isExact (presentFields slots.rows) := by
    rw [allFields_iff]
    intro field hm
    obtain ⟨row, hrow, hfield⟩ := List.mem_filterMap.mp hm
    obtain ⟨value, hvalue, rfl⟩ := Option.map_eq_some_iff.mp hfield
    exact h row hrow value hvalue
  simpa [toValue, all, isExact] using hfields

end Slots

end MediaGrid.Json
