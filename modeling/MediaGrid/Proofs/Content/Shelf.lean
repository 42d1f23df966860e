import Mathlib.Data.List.Nodup
import MediaGrid.Content.Shelf

/-!
# What is on the shelf

The marks of a shelf are the identifiers of its contents with their facets. Putting a content
under a new identifier adds a mark, and taking handles back removes theirs; the two counts
tell how often each was done. An identifier has one mark.
-/

namespace MediaGrid

namespace Shelf

/-- The identifiers of the contents with their facets. -/
def marks (shelf : Shelf) : List (Uuid × Facet) :=
  shelf.contents.rows.map fun row => (row.1, row.2.facet)

/-- A mark belongs to a content that is kept. -/
theorem mem_marks {shelf : Shelf} {key : Uuid} {facet : Facet} :
    (key, facet) ∈ shelf.marks ↔ ∃ content, shelf.find? key = some content ∧
      content.facet = facet := by
  simp only [marks, List.mem_map, Prod.mk.injEq]
  constructor
  · rintro ⟨row, hrow, rfl, rfl⟩
    exact ⟨row.2, Table.mem_rows_iff.mp hrow, rfl⟩
  · rintro ⟨content, hcontent, rfl⟩
    exact ⟨(key, content), Table.mem_rows_iff.mpr hcontent, rfl, rfl⟩

/-- What is kept has a mark. -/
theorem keeps_iff {shelf : Shelf} {key : Uuid} :
    shelf.keeps key = true ↔ ∃ facet, (key, facet) ∈ shelf.marks := by
  rw [keeps, Table.contains_eq_isSome, Option.isSome_iff_exists]
  constructor
  · rintro ⟨content, hcontent⟩
    exact ⟨content.facet, mem_marks.mpr ⟨content, hcontent, rfl⟩⟩
  · rintro ⟨facet, hm⟩
    obtain ⟨content, hcontent, -⟩ := mem_marks.mp hm
    exact ⟨content, hcontent⟩

/-- An identifier has one mark. -/
theorem nodup_keys (shelf : Shelf) : (shelf.marks.map (·.1)).Nodup := by
  rw [marks, List.map_map]
  exact shelf.contents.distinct

/-- There is one mark of a facet for each of its contents. -/
theorem countOf_eq (shelf : Shelf) (facet : Facet) :
    shelf.countOf facet = shelf.marks.countP (·.2 = facet) := by
  rw [countOf, marks, List.countP_map, List.countP_eq_length_filter]
  rfl

/-- A content that is put under a new identifier adds its mark and is counted. -/
theorem put_marks {shelf : Shelf} {id : Uuid} (hid : ¬shelf.keeps id) (facet : Facet)
    (data : String) :
    (shelf.put id facet data).2.marks.Perm ((id, facet) :: shelf.marks) ∧
      (shelf.put id facet data).2.released = shelf.released := by
  refine ⟨?_, rfl⟩
  simp only [put, marks, Table.rows_insert hid, List.map_append]
  exact List.perm_append_comm

/-- A handle that is taken back removes its mark and is counted. -/
theorem takeBack_marks {shelf : Shelf} {handle : Handle} {facet : Facet}
    {rest : List (Uuid × Facet)} (h : shelf.marks.Perm ((handle.id, facet) :: rest)) :
    (shelf.takeBack handle).marks.Perm rest ∧
      (shelf.takeBack handle).released = shelf.released + 1 := by
  have hmark : (handle.id, facet) ∈ shelf.marks := h.mem_iff.mpr (List.mem_cons_self ..)
  obtain ⟨content, hcontent, hfacet⟩ := mem_marks.mp hmark
  have hrows := (Table.rows_perm_erase hcontent).map fun row => (row.1, row.2.facet)
  rw [List.map_cons, hfacet] at hrows
  rw [takeBack, if_pos (keeps_iff.mpr ⟨facet, hmark⟩)]
  exact ⟨(hrows.symm.trans h).cons_inv, rfl⟩

/-- Handles that are taken back remove their marks and are counted. -/
theorem takeBackAll_marks {gone : List (Handle × Facet)} {rest : List (Uuid × Facet)}
    {shelf : Shelf}
    (h : shelf.marks.Perm (gone.map (fun mark => (mark.1.id, mark.2)) ++ rest)) :
    (shelf.takeBackAll (gone.map (·.1))).marks.Perm rest ∧
      (shelf.takeBackAll (gone.map (·.1))).released = shelf.released + gone.length := by
  induction gone generalizing shelf with
  | nil => exact ⟨h, rfl⟩
  | cons head tail ih =>
    obtain ⟨hmarks, hreleased⟩ := takeBack_marks h
    obtain ⟨hrest, hcount⟩ := ih hmarks
    refine ⟨hrest, hcount.trans ?_⟩
    rw [hreleased, List.length_cons]
    omega

/-- A handle that is taken back drops its content, and every other one is kept. -/
theorem find?_takeBack (shelf : Shelf) (handle : Handle) (key : Uuid) :
    (shelf.takeBack handle).find? key = if key = handle.id then none else shelf.find? key := by
  unfold takeBack
  split
  · exact Table.find?_erase shelf.contents handle.id key
  · rename_i hkeeps
    split
    · rename_i hkey
      rw [keeps, Table.contains_eq_isSome] at hkeeps
      rw [hkey]
      exact Option.not_isSome_iff_eq_none.mp hkeeps
    · rfl

/-- Handles that are taken back drop their contents, and every other one is kept. -/
theorem find?_takeBackAll (shelf : Shelf) (handles : List Handle) (key : Uuid) :
    (shelf.takeBackAll handles).find? key =
      if ⟨key⟩ ∈ handles then none else shelf.find? key := by
  induction handles generalizing shelf with
  | nil => rfl
  | cons handle rest ih =>
    rw [takeBackAll, List.foldl_cons, ← takeBackAll, ih, find?_takeBack]
    by_cases hkey : key = handle.id
    · simp [hkey]
    · have hne : (⟨key⟩ : Handle) ≠ handle := fun he => hkey (congrArg Handle.id he)
      simp only [List.mem_cons, hne, false_or, if_neg hkey]

/-- Taking handles back puts nothing on the shelf. -/
@[simp]
theorem created_takeBackAll (shelf : Shelf) (handles : List Handle) :
    (shelf.takeBackAll handles).created = shelf.created := by
  induction handles generalizing shelf with
  | nil => rfl
  | cons handle rest ih =>
    refine (ih (shelf.takeBack handle)).trans ?_
    unfold takeBack
    split <;> rfl

end Shelf

end MediaGrid
