import MediaGrid.Proofs.Calendar.IsoText
import MediaGrid.Proofs.Json.Form
import MediaGrid.Wire.Artifact

/-!
# Artifacts, records and states read back

Each form is read back from the value it is written as. A name in a table of names is found again
because no two choices share it, a day because its text is one that is read, and a record because
each of its parts is found under its own name. The further values of a metadata record are left out
where there are none, which is also what is read where they are left out.
-/

namespace MediaGrid

open Json

/-- A choice is read back from its name, if it has one and no two choices share one. -/
theorem standsFor_nameIn {α : Type} [DecidableEq α] {table : List (String × α)} {a : α}
    (ha : a ∈ table.map (·.2)) (hdistinct : (table.map (·.1)).Nodup) :
    StandsFor (chosen? table) (nameIn table a) a := by
  refine ⟨rfl, ?_⟩
  obtain ⟨row, hrow, rfl⟩ := List.mem_map.mp ha
  cases hfound : table.find? (·.2 == row.2) with
  | none => exact absurd (beq_self_eq_true row.2) (List.find?_eq_none.mp hfound row hrow)
  | some found =>
    have hchoice : found.2 = row.2 := by simpa using List.find?_some hfound
    have hrow : found ∈ (⟨table, hdistinct⟩ : Table String α).rows :=
      List.mem_of_find?_eq_some hfound
    have hname : named? table found.1 = some found.2 := Table.mem_rows_iff.mp hrow
    rw [hchoice] at hname
    simpa [nameIn, hfound, Value.source, chosen?, Source.choice?] using hname

theorem MediaKind.standsFor_write (kind : MediaKind) : StandsFor read kind.write kind :=
  standsFor_nameIn (by cases kind <;> decide) (by decide)

theorem ItemId.standsFor_write (id : ItemId) : StandsFor read id.write id := ⟨rfl, rfl⟩

/-- A day is read back from its text. -/
theorem Day.ofText?_text (d : Day) : Day.ofText? d.text = some d := by
  have hread := Calendar.readDayWith_text Calendar.skipBlank
    (Calendar.skipBlank_cons (by decide)) d []
  have hend : Calendar.skipBlank [] = [] := rfl
  rw [List.append_nil] at hread
  simp only [ofText?, Calendar.dayOfLoose?, hread, hend, Option.bind_eq_bind, Option.bind_some,
    List.isEmpty_nil, guard, if_true, Option.pure_def, Day.of?_self]

theorem Day.standsFor_write (d : Day) : StandsFor read d.write d := ⟨rfl, d.ofText?_text⟩

/-! ## Artifacts -/

namespace Artifact

/-- The parts of an artifact. -/
def slots (ref : Artifact) : Slots where
  rows := [("bucket", some (.text ref.bucket)), ("name", some (.text ref.name)),
    ("kind", some ref.kind.write)]
  distinct := show ["bucket", "name", "kind"].Nodup by decide

theorem standsFor_write (ref : Artifact) : StandsFor read ref.write ref := by
  have hkind := ref.kind.standsFor_write
  constructor
  · exact ref.slots.exact_toValue
      (by simp [slots, Value.all, Value.isExact, hkind.exact])
  · have hparts : ref.write.source.parts? ["bucket", "name", "kind"] = some ref.slots.parts :=
      ref.slots.parts?_toValue
    have hbucket : ref.slots.parts.required "bucket" Source.text? = some ref.bucket :=
      Slots.text_parts (by simp [slots])
    have hname : ref.slots.parts.required "name" Source.text? = some ref.name :=
      Slots.text_parts (by simp [slots])
    have hkind : ref.slots.parts.required "kind" MediaKind.read = some ref.kind :=
      Slots.required_parts (by simp [slots]) hkind
    simp [read, hparts, hbucket, hname, hkind]

end Artifact

namespace VideoLinks

/-- The parts of the addresses of a video. -/
def slots (links : VideoLinks) : Slots where
  rows := [("preview_url", some (.text links.preview)),
    ("streamable_url", some (.text links.stream))]
  distinct := show ["preview_url", "streamable_url"].Nodup by decide

theorem standsFor_write (links : VideoLinks) : StandsFor read links.write links := by
  constructor
  · exact links.slots.exact_toValue (by simp [slots, Value.all, Value.isExact])
  · have hparts : links.write.source.parts? ["preview_url", "streamable_url"] =
        some links.slots.parts := links.slots.parts?_toValue
    have hpreview : links.slots.parts.required "preview_url" Source.text? = some links.preview :=
      Slots.text_parts (by simp [slots])
    have hstream : links.slots.parts.required "streamable_url" Source.text? = some links.stream :=
      Slots.text_parts (by simp [slots])
    simp [read, hparts, hpreview, hstream]

end VideoLinks

/-! ## States of requests -/

namespace RequestStatus

theorem standsFor_write (status : RequestStatus) : StandsFor read status.write status := by
  cases status with
  | idle => exact ⟨rfl, rfl⟩
  | loading => exact ⟨rfl, rfl⟩
  | succeeded => exact ⟨rfl, rfl⟩
  | failed error => exact ⟨rfl, rfl⟩

end RequestStatus

/-! ## Metadata records -/

namespace Metadata

/-- The further values as a part, which is left out where there are none. -/
def extraPart (fields : Fields) : Option Value :=
  if fields.entries.isEmpty then none else some (.object fields.entries)

theorem eq_empty_of_extraPart {fields : Fields} (h : extraPart fields = none) :
    Fields.empty = fields := by
  obtain ⟨entries, ordered⟩ := fields
  cases entries with
  | nil => rfl
  | cons field rest => cases h

theorem eq_object_of_extraPart {fields : Fields} {value : Value}
    (h : extraPart fields = some value) : .object fields.entries = value := by
  unfold extraPart at h
  split at h
  · cases h
  · exact Option.some.inj h

/-- The parts of a metadata record. -/
def slots (record : Metadata) : Slots where
  rows := [("name", record.name.map .text), ("notes", record.notes.map .text),
    ("camera", record.camera.map .text), ("session", record.session.map .text),
    ("platform", record.platform.map .text), ("captureDate", record.captureDate.map Day.write),
    ("extra", extraPart record.extra)]
  distinct := show ["name", "notes", "camera", "session", "platform", "captureDate",
    "extra"].Nodup by decide

theorem write_eq (record : Metadata) : record.write = record.slots.toValue := by
  have hextra : (if record.extra.entries.isEmpty then []
      else [("extra", Value.object record.extra.entries)]) =
      presentFields [("extra", extraPart record.extra)] := by
    unfold extraPart
    split <;> rfl
  rw [write, hextra]
  simp only [presentField_eq, presentFields_append, List.cons_append, List.nil_append]
  rfl

/-- A record is read back wherever its further values stay above the deepest nesting. -/
theorem standsFor_write {record : Metadata} {levels depth : Nat} (h : record.extra.Plain levels)
    (hlevels : 0 < levels) (hdepth : depth + 1 + levels ≤ maxDepth) :
    StandsFor (read depth) record.write record := by
  rw [write_eq]
  constructor
  · have hextra : ∀ value ∈ extraPart record.extra, value.all Value.isExact := by
      intro value hm
      rw [← eq_object_of_extraPart hm]
      simpa [Value.all, Value.isExact, Value.allFields_iff] using h.all_isExact
    exact record.slots.exact_toValue
      (by simpa [slots, Value.all, Value.isExact, Day.write] using hextra)
  · have hparts : record.slots.toValue.source.parts? ["name", "notes", "camera", "session",
        "platform", "captureDate", "extra"] = some record.slots.parts := record.slots.parts?_toValue
    have hname : record.slots.parts.optional "name" Source.text? = some record.name :=
      Slots.optional_text_parts (by simp [slots])
    have hnotes : record.slots.parts.optional "notes" Source.text? = some record.notes :=
      Slots.optional_text_parts (by simp [slots])
    have hcamera : record.slots.parts.optional "camera" Source.text? = some record.camera :=
      Slots.optional_text_parts (by simp [slots])
    have hsession : record.slots.parts.optional "session" Source.text? = some record.session :=
      Slots.optional_text_parts (by simp [slots])
    have hplatform : record.slots.parts.optional "platform" Source.text? = some record.platform :=
      Slots.optional_text_parts (by simp [slots])
    have hdate : record.slots.parts.optional "captureDate" Day.read = some record.captureDate :=
      Slots.optional_parts (by simp [slots]) (fun d _ => d.standsFor_write) rfl
    have hextra : record.slots.parts.orElse "extra" .empty (Source.object? (depth + 1)) =
        some record.extra := by
      have hslot : ("extra", extraPart record.extra) ∈ record.slots.rows := by simp [slots]
      refine Slots.orElse_parts hslot eq_empty_of_extraPart fun value hm => ?_
      rw [← eq_object_of_extraPart hm]
      exact object?_source h hlevels hdepth
    simp [read, hparts, hname, hnotes, hcamera, hsession, hplatform, hdate, hextra]

end Metadata

end MediaGrid
