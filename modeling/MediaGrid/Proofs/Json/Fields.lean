import Mathlib.Data.List.Pairwise
import Mathlib.Data.List.Sort
import MediaGrid.Json.Value
import MediaGrid.Table

/-!
# Overlaying named values

Fields are kept in order of their keys, so they are told by what they answer for each key. An
overlay answers with the value of the update where it has one, and with the value below it
elsewhere; everything else about overlays follows from that: which keys they have, that no fields
change nothing, that overlaying twice is overlaying once, and that two updates are one.
-/

namespace MediaGrid.Json

/-- Setting a field changes what is found for its key, and for no other. -/
theorem find?_setField (key : String) (value : Value) (fields : List (String × Value))
    (other : String) :
    ((setField key value fields).find? (·.1 == other)).map (·.2) =
      if key = other then some value else (fields.find? (·.1 == other)).map (·.2) := by
  induction fields with
  | nil =>
    by_cases h : key = other <;> simp [setField, h]
  | cons head rest ih =>
    obtain ⟨k, v⟩ := head
    rw [setField]
    split
    · by_cases h : key = other <;> simp [h]
    · split
      · rename_i hkey
        subst hkey
        by_cases h : key = other <;> simp [h]
      · rename_i hkey
        by_cases h : k = other
        · -- The field that is found already stands before the place of the new one.
          subst h
          simp [hkey]
        · simpa [List.find?_cons, h] using ih

namespace Fields

/-! ## Looking up -/

/-- No key comes twice. -/
theorem nodup_keys (fields : Fields) : (fields.entries.map (·.1)).Nodup := by
  refine List.pairwise_map.mpr (fields.ordered.imp fun {a b} hlt heq => ?_)
  rw [heq] at hlt
  exact String.lt_irrefl _ hlt

/-- The fields as a table. -/
def table (fields : Fields) : Table String Value := ⟨fields.entries, fields.nodup_keys⟩

/-- A field is there exactly if it is found under its key. -/
theorem get?_eq_some_iff {fields : Fields} {key : String} {value : Value} :
    fields.get? key = some value ↔ (key, value) ∈ fields.entries := by
  have hrow : (key, value) ∈ fields.table.rows ↔ fields.table.find? key = some value :=
    Table.mem_rows_iff
  exact hrow.symm

/-- Fields are told by what they answer for each key. -/
theorem eq_of_get? {fields other : Fields} (h : ∀ key, fields.get? key = other.get? key) :
    fields = other := by
  have hirrefl : Std.Irrefl fun a b : String × Value => a.1 < b.1 :=
    ⟨fun a => String.lt_irrefl a.1⟩
  have hantisymm : Std.Antisymm fun a b : String × Value => a.1 < b.1 :=
    ⟨fun a b hlt hgt => absurd (String.lt_trans hlt hgt) (String.lt_irrefl a.1)⟩
  have hentries : fields.entries = other.entries := by
    refine fields.ordered.eq_of_mem_iff other.ordered fun field => ?_
    rw [← get?_eq_some_iff, ← get?_eq_some_iff, h]
  obtain ⟨entries, _⟩ := fields
  cases hentries
  rfl

@[simp]
theorem get?_empty (key : String) : empty.get? key = none := rfl

/-- A field that is set is found under its key, and every other field as before. -/
theorem get?_set (fields : Fields) (key : String) (value : Value) (other : String) :
    (fields.set key value).get? other = if key = other then some value else fields.get? other :=
  find?_setField key value fields.entries other

/-! ## Overlays -/

/-- Of fields that are set one after the other, those of the update are found, and below them those
that were there. -/
theorem get?_setAll {entries : List (String × Value)} (hordered : entries.Pairwise (·.1 < ·.1))
    (fields : Fields) (key : String) :
    (entries.foldl (fun acc field => acc.set field.1 field.2) fields).get? key =
      ((entries.find? (·.1 == key)).map (·.2)).or (fields.get? key) := by
  induction entries generalizing fields with
  | nil => rfl
  | cons head rest ih =>
    obtain ⟨hhead, htail⟩ := List.pairwise_cons.mp hordered
    rw [List.foldl_cons, ih htail, get?_set]
    by_cases h : head.1 = key
    · -- No later field sets the key again.
      have hnone : rest.find? (·.1 == key) = none := by
        refine List.find?_eq_none.mpr fun field hfield heq => ?_
        have hlt := hhead field hfield
        rw [h, beq_iff_eq.mp heq] at hlt
        exact String.lt_irrefl _ hlt
      simp [h, hnone]
    · simp [h]

/-- An overlay has the value of the update where the update has one, and else the one below. -/
@[simp]
theorem get?_overlay (fields update : Fields) (key : String) :
    (fields.overlay update).get? key = (update.get? key).or (fields.get? key) :=
  get?_setAll update.ordered fields key

/-- No fields overlay nothing. -/
@[simp]
theorem overlay_empty (fields : Fields) : fields.overlay empty = fields := rfl

/-- Overlaying nothing leaves the update. -/
@[simp]
theorem empty_overlay (update : Fields) : empty.overlay update = update :=
  eq_of_get? fun key => by simp

/-- Overlaying twice is overlaying once. -/
@[simp]
theorem overlay_overlay (fields update : Fields) :
    (fields.overlay update).overlay update = fields.overlay update :=
  eq_of_get? fun key => by simp [← Option.or_assoc]

/-- Two overlays one after the other are one, by the second update on the first. -/
theorem overlay_assoc (fields update next : Fields) :
    (fields.overlay update).overlay next = fields.overlay (update.overlay next) :=
  eq_of_get? fun key => by simp [Option.or_assoc]

/-! ## Keys -/

/-- The keys that have a value. -/
def keys (fields : Fields) : List String := fields.entries.map (·.1)

theorem mem_keys_iff {fields : Fields} {key : String} :
    key ∈ fields.keys ↔ (fields.get? key).isSome := by
  simp [keys, get?, List.isSome_find?]

/-- An overlay has the keys of both. -/
theorem mem_keys_overlay {fields update : Fields} {key : String} :
    key ∈ (fields.overlay update).keys ↔ key ∈ fields.keys ∨ key ∈ update.keys := by
  simp only [mem_keys_iff, get?_overlay, Option.isSome_or, Bool.or_eq_true]
  exact or_comm

end Fields

end MediaGrid.Json
