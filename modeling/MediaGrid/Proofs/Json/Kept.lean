import MediaGrid.Proofs.Json.Form
import MediaGrid.Wire.Artifact

/-!
# What is read can be kept

An integer is read as such only if it has 64 bits; a larger one is read as a floating-point number.
The objects inside a value are read into fields, the keys of which increase. So whatever further
values are read, they are such as can be kept.
-/

namespace MediaGrid.Json

open Value

/-! ## Numbers -/

theorem toReal_ne_integer (s : Significand) (negative : Bool) (n : Int) :
    s.toReal negative ≠ some (.integer n) := by
  intro h
  obtain ⟨f, -, heq⟩ := Option.map_eq_some_iff.mp h
  cases heq

/-- An integer that is read has 64 bits. -/
theorem fits_of_numberOf {negative : Bool} {whole : List Char} {fraction : Option (List Char)}
    {power : Option (Bool × List Char)} {n : Int}
    (h : numberOf negative whole fraction power = some (.integer n)) : fits n := by
  simp only [fits, decide_eq_true_eq]
  unfold numberOf at h
  split at h
  · dsimp only at h
    split at h
    · split at h
      · cases h
        omega
      · exact absurd h (toReal_ne_integer _ _ _)
    · split at h
      · cases h
        omega
      · exact absurd h (toReal_ne_integer _ _ _)
  · exact absurd h (toReal_ne_integer _ _ _)
  · dsimp only at h
    split at h
    · split at h <;> cases h
    · exact absurd h (toReal_ne_integer _ _ _)

/-! ## Trees -/

mutual

/-- Whether every integer in a tree has 64 bits. -/
def Source.isKept : Source → Bool
  | .number (some (.integer n)) => fits n
  | .array items => keptItems items
  | .object fields => keptFields fields
  | _ => true

/-- Whether every integer in a list of trees has 64 bits. -/
def keptItems : List Source → Bool
  | [] => true
  | item :: rest => item.isKept && keptItems rest

/-- Whether every integer in a list of fields has 64 bits. -/
def keptFields : List (Option String × Source) → Bool
  | [] => true
  | (_, value) :: rest => value.isKept && keptFields rest

end

theorem keptItems_iff {items : List Source} : keptItems items ↔ ∀ item ∈ items, item.isKept := by
  induction items with
  | nil => simp [keptItems]
  | cons item rest ih => simp [keptItems, ih]

theorem isKept_of_readMagnitude {negative : Bool} {chars rest : List Char} {number : Option Number}
    (h : readMagnitude negative chars = some (number, rest)) : (Source.number number).isKept := by
  simp only [readMagnitude, Option.bind_eq_bind, Option.bind_eq_some_iff] at h
  obtain ⟨_, -, _, -, _, -, heq⟩ := h
  cases heq
  cases hnumber : numberOf negative _ _ _ with
  | none => rfl
  | some number =>
    cases number with
    | real bits => rfl
    | integer n => exact fits_of_numberOf hnumber

mutual

theorem isKept_of_readValue {fuel : Nat} {chars rest : List Char} {source : Source}
    (h : readValue fuel chars = some (source, rest)) : source.isKept := by
  match fuel with
  | 0 => cases h
  | fuel + 1 =>
    rw [readValue] at h
    split at h
    · cases h; rfl
    · cases h; rfl
    · cases h; rfl
    · obtain ⟨_, -, heq⟩ := Option.map_eq_some_iff.mp h
      cases heq; rfl
    · obtain ⟨read, hread, heq⟩ := Option.map_eq_some_iff.mp h
      cases heq
      exact isKept_of_readMagnitude hread
    · split at h
      · cases h; rfl
      · obtain ⟨read, hread, heq⟩ := Option.map_eq_some_iff.mp h
        cases heq
        exact keptItems_of_readItems hread
    · split at h
      · cases h; rfl
      · obtain ⟨read, hread, heq⟩ := Option.map_eq_some_iff.mp h
        cases heq
        exact keptFields_of_readFields hread
    · obtain ⟨read, hread, heq⟩ := Option.map_eq_some_iff.mp h
      cases heq
      exact isKept_of_readMagnitude hread

theorem keptItems_of_readItems {fuel : Nat} {chars rest : List Char} {items : List Source}
    (h : readItems fuel chars = some (items, rest)) : keptItems items := by
  match fuel with
  | 0 => cases h
  | fuel + 1 =>
    rw [readItems] at h
    obtain ⟨⟨item, after⟩, hitem, h⟩ := Option.bind_eq_some_iff.mp h
    have hkept := isKept_of_readValue hitem
    dsimp only at h
    split at h
    · cases h
      simpa [keptItems] using hkept
    · obtain ⟨read, hread, heq⟩ := Option.bind_eq_some_iff.mp h
      cases heq
      simpa [keptItems, hkept] using keptItems_of_readItems hread
    · cases h

theorem keptFields_of_readFields {fuel : Nat} {chars rest : List Char}
    {fields : List (Option String × Source)} (h : readFields fuel chars = some (fields, rest)) :
    keptFields fields := by
  match fuel with
  | 0 => cases h
  | fuel + 1 =>
    rw [readFields] at h
    obtain ⟨⟨key, after⟩, -, h⟩ := Option.bind_eq_some_iff.mp h
    obtain ⟨⟨value, after⟩, hvalue, h⟩ := Option.bind_eq_some_iff.mp h
    have hkept := isKept_of_readValue hvalue
    dsimp only at h
    split at h
    · cases h
      simpa [keptFields] using hkept
    · obtain ⟨read, hread, heq⟩ := Option.bind_eq_some_iff.mp h
      cases heq
      simpa [keptFields, hkept] using keptFields_of_readFields hread
    · cases h

end

/-- Every integer that is read from a text has 64 bits. -/
theorem isKept_of_parse {text : String} {source : Source} (h : parse text = some source) :
    source.isKept := by
  obtain ⟨read, hread, h⟩ := Option.bind_eq_some_iff.mp h
  obtain ⟨-, -, heq⟩ := Option.bind_eq_some_iff.mp h
  cases heq
  exact isKept_of_readValue hread

/-! ## Values -/

theorem Fields.kept_empty : Fields.empty.Kept := List.forall_mem_nil _

theorem Fields.Kept.set {fields : Fields} (h : fields.Kept) (key : String) {value : Value}
    (hvalue : value.all Value.isKept) : (fields.set key value).Kept := by
  rintro ⟨other, found⟩ hm
  rw [← Fields.get?_eq_some_iff, Fields.get?_set] at hm
  split at hm
  · cases hm
    exact hvalue
  · exact h _ (Fields.get?_eq_some_iff.mp hm)

mutual

/-- A value of any kind that is read can be kept. -/
theorem all_isKept_of_value? {source : Source} {depth : Nat} {value : Value}
    (hsource : source.isKept) (h : source.value? depth = some value) : value.all isKept := by
  match source with
  | .null =>
    rw [Source.value?] at h
    cases h; rfl
  | .boolean b =>
    rw [Source.value?] at h
    cases h; rfl
  | .number number? =>
    rw [Source.value?] at h
    obtain ⟨number, rfl, rfl⟩ := Option.map_eq_some_iff.mp h
    cases number with
    | real bits => rfl
    | integer n => exact hsource
  | .text t? =>
    rw [Source.value?] at h
    obtain ⟨t, rfl, rfl⟩ := Option.map_eq_some_iff.mp h
    rfl
  | .array items =>
    rw [Source.value?] at h
    split at h
    · obtain ⟨values, hvalues, rfl⟩ := Option.map_eq_some_iff.mp h
      simpa [all, isKept] using allItems_isKept_of_values? items hsource hvalues
    · cases h
  | .object fields =>
    rw [Source.value?] at h
    split at h
    · obtain ⟨read, hread, rfl⟩ := Option.map_eq_some_iff.mp h
      have hkept := kept_of_fieldsOnto? fields hsource Fields.kept_empty hread
      simp only [all, isKept, Bool.and_eq_true, decide_eq_true_eq]
      exact ⟨read.ordered, allFields_iff.mpr hkept⟩
    · cases h

theorem allItems_isKept_of_values? (items : List Source) {depth : Nat} {values : List Value}
    (hsources : keptItems items) (h : Source.values? depth items = some values) :
    allItems isKept values := by
  match items with
  | [] =>
    rw [Source.values?] at h
    cases h; rfl
  | item :: rest =>
    simp only [keptItems, Bool.and_eq_true] at hsources
    rw [Source.values?] at h
    obtain ⟨value, hvalue, h⟩ := Option.bind_eq_some_iff.mp h
    obtain ⟨values, hvalues, heq⟩ := Option.bind_eq_some_iff.mp h
    cases heq
    simp [allItems, all_isKept_of_value? hsources.1 hvalue,
      allItems_isKept_of_values? rest hsources.2 hvalues]

theorem kept_of_fieldsOnto? (fields : List (Option String × Source)) {depth : Nat}
    {acc read : Fields} (hsources : keptFields fields) (hacc : acc.Kept)
    (h : Source.fieldsOnto? depth acc fields = some read) : read.Kept := by
  match fields with
  | [] =>
    rw [Source.fieldsOnto?] at h
    cases h; exact hacc
  | (key, source) :: rest =>
    simp only [keptFields, Bool.and_eq_true] at hsources
    rw [Source.fieldsOnto?] at h
    obtain ⟨key, -, h⟩ := Option.bind_eq_some_iff.mp h
    obtain ⟨value, hvalue, h⟩ := Option.bind_eq_some_iff.mp h
    exact kept_of_fieldsOnto? rest hsources.2
      (hacc.set key (all_isKept_of_value? hsources.1 hvalue)) h

end

/-- Further values that are read can be kept. -/
theorem kept_of_object? {source : Source} {depth : Nat} {read : Fields} (hsource : source.isKept)
    (h : source.object? depth = some read) : read.Kept := by
  cases source with
  | object fields =>
    rw [Source.object?] at h
    split at h
    · exact kept_of_fieldsOnto? fields hsource Fields.kept_empty h
    · cases h
  | _ => cases h

/-! ## Parts -/

theorem isKept_of_mem_knownFields {names : List String} {fields : List (Option String × Source)}
    {entries : List (String × Source)} (hfields : keptFields fields)
    (h : knownFields names fields = some entries) : ∀ entry ∈ entries, entry.2.isKept := by
  induction fields generalizing entries with
  | nil =>
    cases h
    exact List.forall_mem_nil _
  | cons field rest ih =>
    obtain ⟨key?, source⟩ := field
    simp only [keptFields, Bool.and_eq_true] at hfields
    rw [knownFields] at h
    obtain ⟨key, -, h⟩ := Option.bind_eq_some_iff.mp h
    obtain ⟨others, hothers, h⟩ := Option.bind_eq_some_iff.mp h
    have hrest := ih hfields.2 hothers
    split at h
    · split at h
      · cases h
      · cases h
        exact List.forall_mem_cons.mpr ⟨hfields.1, hrest⟩
    · cases h
      exact hrest

/-- The parts of a record hold what stands in its tree. -/
theorem isKept_of_get? {source part : Source} {names : List String} {parts : Parts} {name : String}
    (hsource : source.isKept) (hparts : source.parts? names = some parts)
    (h : parts.get? name = some part) : part.isKept := by
  obtain ⟨entry, hfound, rfl⟩ := Option.map_eq_some_iff.mp h
  have hm := List.mem_of_find?_eq_some hfound
  cases source with
  | object fields =>
    obtain ⟨entries, hknown, rfl⟩ := Option.map_eq_some_iff.mp hparts
    exact isKept_of_mem_knownFields hsource hknown entry hm
  | array items =>
    rw [Source.parts?] at hparts
    split at hparts
    · cases hparts
      exact keptItems_iff.mp hsource _ (List.of_mem_zip hm).2
    · cases hparts
  | _ => cases hparts

end MediaGrid.Json

namespace MediaGrid.Metadata

open Json

/-- The further values of a record that is read can be kept. -/
theorem kept_of_read {source : Source} {depth : Nat} {record : Metadata} (hsource : source.isKept)
    (h : read depth source = some record) : record.extra.Kept := by
  simp only [read, Option.bind_eq_bind, Option.bind_eq_some_iff] at h
  obtain ⟨parts, hparts, _, -, _, -, _, -, _, -, _, -, _, -, extra, hextra, heq⟩ := h
  cases heq
  rw [Parts.orElse] at hextra
  split at hextra
  · cases hextra
    exact Fields.kept_empty
  · rename_i part hpart
    exact kept_of_object? (isKept_of_get? hsource hparts hpart) hextra

end MediaGrid.Metadata
