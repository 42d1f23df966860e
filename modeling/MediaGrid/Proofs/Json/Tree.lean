import MediaGrid.Proofs.Json.Scalar

/-!
# Values read back

What is written of a value without floating-point numbers is read back as its tree: the source in
which no text and no number is missing and every key stands where it was written. The reader is
given as many nested calls as the text has characters, which is enough.
-/

namespace MediaGrid.Json

namespace Value

/-! ## Trees of values -/

mutual

/-- The tree that a value is read back as. -/
def source : Value → Source
  | .null => .null
  | .boolean b => .boolean b
  | .number n => .number (some n)
  | .text t => .text (some t)
  | .array items => .array (sources items)
  | .object fields => .object (fieldSources fields)

/-- The trees of a list of values. -/
def sources : List Value → List Source
  | [] => []
  | item :: rest => item.source :: sources rest

/-- The trees of a list of fields. -/
def fieldSources : List (String × Value) → List (Option String × Source)
  | [] => []
  | (key, value) :: rest => (some key, value.source) :: fieldSources rest

end

theorem sources_eq_map (items : List Value) : sources items = items.map source := by
  induction items with
  | nil => rfl
  | cons item rest ih => rw [sources, ih, List.map_cons]

/-! ## Conditions on the parts of a value -/

mutual

/-- Whether a condition holds of a value and of all values inside it. -/
def all (p : Value → Bool) : Value → Bool
  | .array items => p (.array items) && allItems p items
  | .object fields => p (.object fields) && allFields p fields
  | value => p value

/-- Whether a condition holds of all values of a list and inside it. -/
def allItems (p : Value → Bool) : List Value → Bool
  | [] => true
  | item :: rest => item.all p && allItems p rest

/-- Whether a condition holds of all values of a list of fields and inside it. -/
def allFields (p : Value → Bool) : List (String × Value) → Bool
  | [] => true
  | (_, value) :: rest => value.all p && allFields p rest

end

mutual

/-- How many lists and objects stand inside one another in a value. -/
def nesting : Value → Nat
  | .array items => nestingItems items + 1
  | .object fields => nestingFields fields + 1
  | _ => 0

/-- The deepest nesting in a list of values. -/
def nestingItems : List Value → Nat
  | [] => 0
  | item :: rest => max item.nesting (nestingItems rest)

/-- The deepest nesting in a list of fields. -/
def nestingFields : List (String × Value) → Nat
  | [] => 0
  | (_, value) :: rest => max value.nesting (nestingFields rest)

end

/-- Whether a value is a floating-point number. -/
def isReal : Value → Bool
  | .number (.real _) => true
  | _ => false

/-- Whether a value, apart from what is inside it, can be kept among further values: an integer has
64 bits, and the keys of an object increase. -/
def isKept : Value → Bool
  | .number (.integer n) => fits n
  | .object fields => decide (fields.Pairwise (·.1 < ·.1))
  | _ => true

/-- Whether a value, apart from what is inside it, is no number other than an integer of 64 bits. -/
def isExact : Value → Bool
  | .number (.integer n) => fits n
  | .number (.real _) => false
  | _ => true

theorem isExact_of_isKept {value : Value} (h : value.isKept) (hreal : !value.isReal) :
    value.isExact := by
  cases value with
  | number number =>
    cases number with
    | integer n => exact h
    | real bits => cases hreal
  | _ => rfl

mutual

/-- What follows from two conditions holds wherever both do. -/
theorem all_of_both {p q r : Value → Bool} (h : ∀ value, p value → q value → r value)
    (value : Value) (hp : value.all p) (hq : value.all q) : value.all r := by
  match value with
  | .null | .boolean _ | .number _ | .text _ => exact h _ hp hq
  | .array items =>
    simp only [all, Bool.and_eq_true] at hp hq ⊢
    exact ⟨h _ hp.1 hq.1, allItems_of_both h items hp.2 hq.2⟩
  | .object fields =>
    simp only [all, Bool.and_eq_true] at hp hq ⊢
    exact ⟨h _ hp.1 hq.1, allFields_of_both h fields hp.2 hq.2⟩

theorem allItems_of_both {p q r : Value → Bool} (h : ∀ value, p value → q value → r value)
    (items : List Value) (hp : allItems p items) (hq : allItems q items) : allItems r items := by
  match items with
  | [] => rfl
  | item :: rest =>
    simp only [allItems, Bool.and_eq_true] at hp hq ⊢
    exact ⟨all_of_both h item hp.1 hq.1, allItems_of_both h rest hp.2 hq.2⟩

theorem allFields_of_both {p q r : Value → Bool} (h : ∀ value, p value → q value → r value)
    (fields : List (String × Value)) (hp : allFields p fields) (hq : allFields q fields) :
    allFields r fields := by
  match fields with
  | [] => rfl
  | (_, value) :: rest =>
    simp only [allFields, Bool.and_eq_true] at hp hq ⊢
    exact ⟨all_of_both h value hp.1 hq.1, allFields_of_both h rest hp.2 hq.2⟩

end

theorem allItems_iff {p : Value → Bool} {items : List Value} :
    allItems p items ↔ ∀ item ∈ items, item.all p := by
  induction items with
  | nil => simp [allItems]
  | cons item rest ih => simp [allItems, ih]

theorem allFields_iff {p : Value → Bool} {fields : List (String × Value)} :
    allFields p fields ↔ ∀ field ∈ fields, field.2.all p := by
  induction fields with
  | nil => simp [allFields]
  | cons field rest ih => simp [allFields, ih]

/-- What holds of a value and of all inside it holds of the value. -/
theorem all_self {p : Value → Bool} {value : Value} (h : value.all p) : p value := by
  cases value <;> simp_all [all]

end Value

open Value

/-! ## Reading lists and objects -/

section

variable {fuel : Nat} {chars after rest : List Char}

/-- A list that is not empty is what is read of its items. -/
theorem readValue_items {items : List Source} (h : BeginsPart ']' chars)
    (hitems : readItems fuel chars = some (items, rest)) :
    readValue (fuel + 1) ('[' :: chars) = some (.array items, rest) := by
  have hskip : skipSpace ('[' :: chars) = '[' :: chars := rfl
  rw [readValue, hskip]
  simp only [h.skipSpace_eq]
  obtain ⟨c, tail, rfl, -, hclosing⟩ := h
  split
  · rename_i heq
    exact absurd (List.cons.inj heq).1 hclosing
  · rw [hitems, Option.map_some]

/-- An object that is not empty is what is read of its fields. -/
theorem readValue_fields {fields : List (Option String × Source)} (h : BeginsPart '\x7d' chars)
    (hfields : readFields fuel chars = some (fields, rest)) :
    readValue (fuel + 1) ('\x7b' :: chars) = some (.object fields, rest) := by
  have hskip : skipSpace ('\x7b' :: chars) = '\x7b' :: chars := rfl
  rw [readValue, hskip]
  simp only [h.skipSpace_eq]
  obtain ⟨c, tail, rfl, -, hclosing⟩ := h
  split
  · rename_i heq
    exact absurd (List.cons.inj heq).1 hclosing
  · rw [hfields, Option.map_some]

/-- The last item of a list has the closing bracket behind it. -/
theorem readItems_last {item : Source} (h : readValue fuel chars = some (item, ']' :: rest)) :
    readItems (fuel + 1) chars = some ([item], rest) := by
  rw [readItems, h]
  rfl

/-- Behind a comma, more items are read. -/
theorem readItems_more {item : Source} {items : List Source}
    (h : readValue fuel chars = some (item, ',' :: after))
    (hitems : readItems fuel after = some (items, rest)) :
    readItems (fuel + 1) chars = some (item :: items, rest) := by
  have hskip : skipSpace (',' :: after) = ',' :: after := rfl
  rw [readItems, h]
  simp only [Option.bind_eq_bind, Option.bind_some, hskip, hitems]
  rfl

/-- The last field of an object has the closing brace behind it. -/
theorem readFields_last {key : String} {value : Source}
    (h : readValue fuel chars = some (value, '\x7d' :: rest)) :
    readFields (fuel + 1) (writeText key ++ ':' :: chars) = some ([(some key, value)], rest) := by
  rw [readFields, readKey_writeText]
  simp only [Option.bind_eq_bind, Option.bind_some, h]
  rfl

/-- Behind a comma, more fields are read. -/
theorem readFields_more {key : String} {value : Source} {fields : List (Option String × Source)}
    (h : readValue fuel chars = some (value, ',' :: after))
    (hfields : readFields fuel after = some (fields, rest)) :
    readFields (fuel + 1) (writeText key ++ ':' :: chars) =
      some ((some key, value) :: fields, rest) := by
  have hskip : skipSpace (',' :: after) = ',' :: after := rfl
  rw [readFields, readKey_writeText]
  simp only [Option.bind_eq_bind, Option.bind_some, h, hskip, hfields]
  rfl

end

/-! ## Writing lists and objects -/

theorem writeItems_cons_cons (item next : Value) (items : List Value) :
    writeItems (item :: next :: items) = writeValue item ++ ',' :: writeItems (next :: items) := by
  rw [writeItems]
  exact List.cons_ne_nil next items

theorem writeFields_cons_cons (key : String) (value : Value) (next : String × Value)
    (fields : List (String × Value)) : writeFields ((key, value) :: next :: fields) =
      writeText key ++ ':' :: (writeValue value ++ ',' :: writeFields (next :: fields)) := by
  rw [writeFields, List.append_assoc, List.cons_append]
  exact List.cons_ne_nil next fields

theorem beginsPart_writeValue {value : Value} (h : value.isExact) :
    BeginsPart ']' (writeValue value) := by
  cases value with
  | null => exact ⟨'n', _, rfl, by decide, by decide⟩
  | boolean b => cases b <;> exact ⟨_, _, rfl, by decide, by decide⟩
  | number number =>
    cases number with
    | real bits => cases h
    | integer n => exact beginsPart_writeNumber n
  | text t => exact beginsPart_writeText (by decide) t
  | array items => exact ⟨'[', _, rfl, by decide, by decide⟩
  | object fields => exact ⟨'\x7b', _, rfl, by decide, by decide⟩

/-- The items of a list begin like the first of them. -/
theorem beginsPart_writeItems {item : Value} (h : item.isExact) (items : List Value) :
    BeginsPart ']' (writeItems (item :: items)) := by
  cases items with
  | nil => exact beginsPart_writeValue h
  | cons next items =>
    rw [writeItems_cons_cons]
    exact (beginsPart_writeValue h).append _

/-- The fields of an object begin like the first key. -/
theorem beginsPart_writeFields (field : String × Value) (fields : List (String × Value)) :
    BeginsPart '\x7d' (writeFields (field :: fields)) := by
  have hkey : BeginsPart '\x7d' (writeText field.1) := beginsPart_writeText (by decide) field.1
  cases fields with
  | nil => exact hkey.append _
  | cons next fields =>
    rw [writeFields_cons_cons]
    exact hkey.append _

/-! ## Reading what was written -/

mutual

/-- A value is read back, whatever follows it that could not belong to a number. -/
theorem readValue_writeValue (value : Value) {fuel : Nat} {rest : List Char}
    (h : value.all isExact) (hfuel : (writeValue value).length ≤ fuel) (hrest : EndsNumber rest) :
    readValue fuel (writeValue value ++ rest) = some (value.source, rest) := by
  have hpos := (beginsPart_writeValue (all_self h)).length_pos
  obtain ⟨fuel, rfl⟩ := Nat.exists_eq_succ_of_ne_zero (show fuel ≠ 0 by omega)
  match value with
  | .null => rw [readValue]; rfl
  | .boolean true => rw [readValue]; rfl
  | .boolean false => rw [readValue]; rfl
  | .number (.real bits) => cases h
  | .number (.integer n) =>
    have hn : fits n := by simpa [all, isExact] using h
    exact readValue_integer hn hrest
  | .text t => exact readValue_text t rest
  | .array [] => rw [readValue]; rfl
  | .array (item :: items) =>
    simp only [all, Bool.and_eq_true] at h
    simp only [writeValue, List.length_append, List.length_cons, List.length_nil] at hfuel
    have hitem : item.isExact := all_self (Bool.and_eq_true_iff.mp h.2).1
    have hitems : readItems fuel (writeItems (item :: items) ++ ']' :: rest) = _ :=
      readItems_writeItems (item :: items) (List.cons_ne_nil _ _) h.2 (by omega)
    rw [writeValue, List.cons_append, List.cons_append, List.append_assoc, List.singleton_append]
    exact readValue_items ((beginsPart_writeItems hitem items).append _) hitems
  | .object [] => rw [readValue]; rfl
  | .object (field :: fields) =>
    simp only [all, Bool.and_eq_true] at h
    simp only [writeValue, List.length_append, List.length_cons, List.length_nil] at hfuel
    have hfields : readFields fuel (writeFields (field :: fields) ++ '\x7d' :: rest) = _ :=
      readFields_writeFields (field :: fields) (List.cons_ne_nil _ _) h.2 (by omega)
    rw [writeValue, List.cons_append, List.cons_append, List.append_assoc, List.singleton_append]
    exact readValue_fields ((beginsPart_writeFields field fields).append _) hfields

/-- The items of a list are read back up to its closing bracket. -/
theorem readItems_writeItems (items : List Value) {fuel : Nat} {rest : List Char} (hne : items ≠ [])
    (h : allItems isExact items) (hfuel : (writeItems items).length < fuel) :
    readItems fuel (writeItems items ++ ']' :: rest) = some (sources items, rest) := by
  obtain ⟨fuel, rfl⟩ := Nat.exists_eq_succ_of_ne_zero (show fuel ≠ 0 by omega)
  match items with
  | [item] =>
    simp only [allItems, Bool.and_true] at h
    simp only [writeItems] at hfuel ⊢
    exact readItems_last (readValue_writeValue item h (by omega) (endsNumber_cons (by decide)))
  | item :: next :: items =>
    simp only [allItems, Bool.and_eq_true] at h
    simp only [writeItems_cons_cons, List.length_append, List.length_cons] at hfuel
    rw [writeItems_cons_cons, List.append_assoc, List.cons_append]
    exact readItems_more
      (readValue_writeValue item h.1 (by omega) (endsNumber_cons (by decide)))
      (readItems_writeItems (next :: items) (List.cons_ne_nil _ _) (Bool.and_eq_true_iff.mpr h.2)
        (by omega))

/-- The fields of an object are read back up to its closing brace. -/
theorem readFields_writeFields (fields : List (String × Value)) {fuel : Nat} {rest : List Char}
    (hne : fields ≠ []) (h : allFields isExact fields)
    (hfuel : (writeFields fields).length < fuel) :
    readFields fuel (writeFields fields ++ '\x7d' :: rest) = some (fieldSources fields, rest) := by
  obtain ⟨fuel, rfl⟩ := Nat.exists_eq_succ_of_ne_zero (show fuel ≠ 0 by omega)
  match fields with
  | [(key, value)] =>
    simp only [allFields, Bool.and_true] at h
    simp only [writeFields, List.length_append, List.length_cons] at hfuel
    rw [writeFields, List.append_assoc, List.cons_append]
    exact readFields_last (readValue_writeValue value h (by omega) (endsNumber_cons (by decide)))
  | (key, value) :: next :: fields =>
    simp only [allFields, Bool.and_eq_true] at h
    simp only [writeFields_cons_cons, List.length_append, List.length_cons] at hfuel
    rw [writeFields_cons_cons, List.append_assoc, List.cons_append, List.append_assoc,
      List.cons_append]
    exact readFields_more
      (readValue_writeValue value h.1 (by omega) (endsNumber_cons (by decide)))
      (readFields_writeFields (next :: fields) (List.cons_ne_nil _ _)
        (Bool.and_eq_true_iff.mpr h.2) (by omega))

end

/-- A value is read back from its text. -/
theorem parse_render {value : Value} (h : value.all isExact) :
    parse value.render = some value.source := by
  have hlength : (writeValue value).length ≤ 2 * (writeValue value).length + 2 := by omega
  have hread := readValue_writeValue value h hlength endsNumber_nil
  rw [List.append_nil] at hread
  rw [parse, Value.render, String.toList_ofList, parseChars, hread]
  rfl

end MediaGrid.Json
