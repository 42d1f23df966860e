import MediaGrid.Artifact.Metadata
import MediaGrid.Proofs.Json.Fields

/-!
# Updates of a record

Updates act on records. A named field and a further value behave alike: what the update has is
taken, and what it lacks is left alone. So an update that says nothing changes nothing, an update
that was applied already changes nothing when it is applied again, and two updates one after the
other are one update, the second applied to the first.
-/

namespace MediaGrid.Metadata

open Json

/-- The record that says nothing changes nothing. -/
@[simp]
theorem amend_empty (record : Metadata) : record.amend empty = record := by
  simp [amend, empty]

/-- What is left of the record that says nothing is the update. -/
@[simp]
theorem empty_amend (update : Metadata) : empty.amend update = update := by
  simp [amend, empty]

/-- Amending twice is amending once. -/
@[simp]
theorem amend_amend (record update : Metadata) :
    (record.amend update).amend update = record.amend update := by
  simp [amend, ← Option.or_assoc]

/-- An update says nothing that it does not say already. -/
@[simp]
theorem amend_self (update : Metadata) : update.amend update = update := by
  simpa using amend_amend empty update

/-- Two updates one after the other are one, the second applied to the first. -/
theorem amend_assoc (record update next : Metadata) :
    (record.amend update).amend next = record.amend (update.amend next) := by
  simp [amend, Option.or_assoc, Fields.overlay_assoc]

/-- Updates with `amend` are a monoid in which every update is idempotent, and they act on records.
Among the further values, a record that was amended has the keys of both, and where both have a
value, that of the update. -/
theorem amend_acts (record update next : Metadata) :
    record.amend empty = record ∧ empty.amend update = update ∧
      (record.amend update).amend update = record.amend update ∧
      (record.amend update).amend next = record.amend (update.amend next) ∧
      ∀ key, (key ∈ (record.amend update).extra.keys ↔
          key ∈ record.extra.keys ∨ key ∈ update.extra.keys) ∧
        (record.amend update).extra.get? key = (update.extra.get? key).or (record.extra.get? key) :=
  ⟨amend_empty record, empty_amend update, amend_amend record update,
    amend_assoc record update next,
    fun key => ⟨Fields.mem_keys_overlay, Fields.get?_overlay record.extra update.extra key⟩⟩

end MediaGrid.Metadata
