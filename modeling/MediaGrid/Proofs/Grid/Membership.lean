import MediaGrid.Grid.Paging

/-!
# Which entries there are

Adding, dropping and clearing decide which ids have an entry. Added artifacts get an entry of
which nothing is loaded, unless their id has one already, and come behind the others in the
view; dropped ids have none. The rest of the grid is left alone.
-/

namespace MediaGrid.Grid

/-! ## Adding -/

/-- An added artifact has an entry: the one it had, or a new one. -/
theorem find?_add (grid : Grid) (ref : Artifact) (id : ItemId) :
    (grid.add ref).find? id =
      (grid.find? id).or (if id = ref.id then some (Entry.ofRef ref) else none) := by
  unfold add
  by_cases hc : grid.contains ref.id
  · rw [if_pos hc]
    by_cases h : id = ref.id
    · subst h
      obtain ⟨entry, hentry⟩ := Option.isSome_iff_exists.mp
        ((Table.contains_eq_isSome _ _).symm.trans hc)
      simp [find?, hentry]
    · simp [h]
  · rw [if_neg hc]
    rw [contains, Table.contains_eq_isSome] at hc
    simp only [find?, Table.find?_insert]
    by_cases h : id = ref.id
    · subst h
      simp only [Option.not_isSome_iff_eq_none.mp hc, Option.none_or]
    · simp [h]

/-- Adding changes the entries and their order only. -/
theorem add_rest (grid : Grid) (ref : Artifact) :
    { grid.add ref with entries := grid.entries, ids := grid.ids } = grid := by
  unfold add
  split <;> rfl

/-- The entry of an id after adding is the one it had, or that of the first artifact of this
id. -/
theorem find?_addAll (grid : Grid) (refs : List Artifact) (id : ItemId) :
    (grid.addAll refs).2.find? id =
      (grid.find? id).or ((refs.find? (·.id == id)).map Entry.ofRef) := by
  induction refs generalizing grid with
  | nil => simp [addAll]
  | cons ref rest ih =>
    simp only [addAll, ih, find?_add]
    by_cases h : ref.id = id
    · simp [h]
    · simp [h, Ne.symm h]

/-- Adding changes the entries and their order only. -/
theorem addAll_rest (grid : Grid) (refs : List Artifact) :
    { (grid.addAll refs).2 with entries := grid.entries, ids := grid.ids } = grid := by
  induction refs generalizing grid with
  | nil => rfl
  | cons ref rest ih =>
    have hadd := add_rest grid ref
    rw [← ih (grid.add ref)] at hadd
    exact hadd

@[simp]
theorem active_addAll (grid : Grid) (refs : List Artifact) :
    (grid.addAll refs).2.active = grid.active :=
  (congrArg Grid.active (addAll_rest grid refs) : _)

@[simp]
theorem requests_addAll (grid : Grid) (refs : List Artifact) :
    (grid.addAll refs).2.requests = grid.requests :=
  (congrArg Grid.requests (addAll_rest grid refs) : _)

@[simp]
theorem epoch_addAll (grid : Grid) (refs : List Artifact) :
    (grid.addAll refs).2.epoch = grid.epoch :=
  (congrArg Grid.epoch (addAll_rest grid refs) : _)

@[simp]
theorem lastTicket_addAll (grid : Grid) (refs : List Artifact) :
    (grid.addAll refs).2.lastTicket = grid.lastTicket :=
  (congrArg Grid.lastTicket (addAll_rest grid refs) : _)

/-- No page is merged after its epoch, or without a query. -/
theorem mergePage_eq_none {grid grid' : Grid} {epoch : Nat} {page : Page}
    (h : grid.mergePage epoch page = (none, grid')) :
    epoch ≠ grid.epoch ∧ grid' = grid ∨
      epoch = grid.epoch ∧ grid.active = none ∧ grid' = (grid.addAll page.refs).2 := by
  unfold mergePage at h
  split at h
  · rename_i hepoch
    cases h
    exact Or.inl ⟨hepoch, rfl⟩
  · rename_i hepoch
    refine Or.inr ⟨Decidable.not_not.mp hepoch, ?_⟩
    dsimp only at h
    split at h
    · rename_i hactive
      rw [active_addAll] at hactive
      cases h
      exact ⟨hactive, rfl⟩
    · cases h

/-- A page that is merged adds its artifacts and is noted in the query. -/
theorem mergePage_eq_some {grid grid' : Grid} {epoch : Nat} {page : Page} {merged : Merged}
    (h : grid.mergePage epoch page = (some merged, grid')) :
    epoch = grid.epoch ∧ ∃ active, grid.active = some active ∧
      grid' = { (grid.addAll page.refs).2 with active := some (active.merged page) } := by
  unfold mergePage at h
  split at h
  · cases h
  · rename_i hepoch
    refine ⟨Decidable.not_not.mp hepoch, ?_⟩
    dsimp only at h
    split at h
    · cases h
    · rename_i active hactive
      rw [active_addAll] at hactive
      cases h
      exact ⟨active, hactive, rfl⟩

/-- Merging a page adds its artifacts and touches the query besides, or changes nothing. -/
theorem mergePage_cases (grid : Grid) (epoch : Nat) (page : Page) :
    (grid.mergePage epoch page).2 = grid ∨
      ∃ active : Option PagedQuery, (active.isSome = grid.active.isSome) ∧
        (grid.mergePage epoch page).2 = { (grid.addAll page.refs).2 with active := active } := by
  rcases hmerge : grid.mergePage epoch page with ⟨_ | merged, grid'⟩
  · rcases mergePage_eq_none hmerge with ⟨-, rfl⟩ | ⟨-, hnone, rfl⟩
    · exact Or.inl rfl
    · refine Or.inr ⟨(grid.addAll page.refs).2.active, ?_, rfl⟩
      rw [active_addAll]
  · obtain ⟨-, active, hactive, rfl⟩ := mergePage_eq_some hmerge
    refine Or.inr ⟨some (active.merged page), ?_, rfl⟩
    rw [hactive]
    rfl

theorem requests_mergePage (grid : Grid) (epoch : Nat) (page : Page) :
    (grid.mergePage epoch page).2.requests = grid.requests := by
  rcases grid.mergePage_cases epoch page with h | ⟨active, -, h⟩
  · rw [h]
  · rw [h]
    exact grid.requests_addAll page.refs

/-! ## Dropping -/

/-- An erased id has no entry, and every other id has the one it had. -/
theorem find?_erase (grid : Grid) (head id : ItemId) :
    { grid with entries := grid.entries.erase head }.find? id =
      if id = head then none else grid.find? id :=
  Table.find?_erase grid.entries head id

/-- Dropped ids have no entry, and every other id has the one it had. -/
theorem find?_dropEntries (grid : Grid) (ids : List ItemId) (id : ItemId) :
    (grid.dropEntries ids).2.find? id = if id ∈ ids then none else grid.find? id := by
  induction ids generalizing grid with
  | nil => rfl
  | cons head rest ih =>
    rw [dropEntries]
    split
    · rename_i hnone
      rw [ih]
      by_cases h : id = head
      · subst h
        simp [hnone]
      · simp [h]
    · rw [ih, find?_erase]
      by_cases h : id = head
      · simp [h]
      · simp [h]

/-- The ids that were dropped are those that were given and had an entry. -/
theorem mem_ids_dropEntries (grid : Grid) (ids : List ItemId) (id : ItemId) :
    id ∈ (grid.dropEntries ids).1.ids ↔ id ∈ ids ∧ (grid.find? id).isSome := by
  induction ids generalizing grid with
  | nil => simp [dropEntries]
  | cons head rest ih =>
    rw [dropEntries]
    split
    · rename_i hnone
      rw [ih, List.mem_cons]
      constructor
      · rintro ⟨hm, hs⟩
        exact ⟨Or.inr hm, hs⟩
      · rintro ⟨rfl | hm, hs⟩
        · simp [hnone] at hs
        · exact ⟨hm, hs⟩
    · rename_i entry hentry
      rw [List.mem_cons, ih, List.mem_cons, find?_erase]
      by_cases h : id = head
      · subst h
        simp [hentry]
      · simp [h]

/-- Dropping entries changes the entries only. -/
theorem dropEntries_rest (grid : Grid) (ids : List ItemId) :
    { (grid.dropEntries ids).2 with entries := grid.entries } = grid := by
  induction ids generalizing grid with
  | nil => rfl
  | cons head rest ih =>
    rw [dropEntries]
    split
    · exact ih grid
    · exact congrArg (fun other : Grid => { other with entries := grid.entries })
        (ih { grid with entries := grid.entries.erase head })

/-- Where nothing was dropped the grid is as before. -/
theorem dropEntries_of_none {grid : Grid} {ids : List ItemId}
    (h : (grid.dropEntries ids).1.ids = []) : (grid.dropEntries ids).2 = grid := by
  induction ids with
  | nil => rfl
  | cons head rest ih =>
    rw [dropEntries] at h ⊢
    split at h
    · exact ih h
    · cases h

/-- Discarding entries that are not there does nothing. -/
theorem discard_of_none {grid : Grid} {ids : List ItemId}
    (h : (grid.dropEntries ids).1.ids = []) : (grid.discard ids).2 = grid := by
  simp only [discard, h, List.isEmpty_nil, if_true]
  exact dropEntries_of_none h

/-- Discarding entries takes their ids out of the view order and counts the selection anew. -/
theorem discard_of_some {grid : Grid} {ids : List ItemId}
    (h : (grid.dropEntries ids).1.ids ≠ []) :
    (grid.discard ids).2 =
      { (grid.dropEntries ids).2 with
        ids := (grid.dropEntries ids).2.ids.filter
          (· ∉ (grid.dropEntries ids).1.ids) }.recount := by
  simp only [discard, List.isEmpty_iff, if_neg h]

/-- Discarding changes the entries, their order and the count of the selection only. -/
theorem discard_rest (grid : Grid) (ids : List ItemId) :
    { (grid.discard ids).2 with
      entries := grid.entries, ids := grid.ids, selectionCount := grid.selectionCount } =
      grid := by
  have hdrop := dropEntries_rest grid ids
  unfold discard
  dsimp only
  split
  · exact congrArg (fun other : Grid =>
      { other with ids := grid.ids, selectionCount := grid.selectionCount }) hdrop
  · exact congrArg (fun other : Grid =>
      { other with ids := grid.ids, selectionCount := grid.selectionCount }) hdrop

@[simp]
theorem active_discard (grid : Grid) (ids : List ItemId) :
    (grid.discard ids).2.active = grid.active :=
  (congrArg Grid.active (discard_rest grid ids) : _)

@[simp]
theorem requests_discard (grid : Grid) (ids : List ItemId) :
    (grid.discard ids).2.requests = grid.requests :=
  (congrArg Grid.requests (discard_rest grid ids) : _)

@[simp]
theorem epoch_discard (grid : Grid) (ids : List ItemId) :
    (grid.discard ids).2.epoch = grid.epoch :=
  (congrArg Grid.epoch (discard_rest grid ids) : _)

@[simp]
theorem lastTicket_discard (grid : Grid) (ids : List ItemId) :
    (grid.discard ids).2.lastTicket = grid.lastTicket :=
  (congrArg Grid.lastTicket (discard_rest grid ids) : _)

/-- Discarded ids have no entry, and every other id has the one it had. -/
theorem find?_discard (grid : Grid) (ids : List ItemId) (id : ItemId) :
    (grid.discard ids).2.find? id = if id ∈ ids then none else grid.find? id := by
  rw [← find?_dropEntries]
  unfold discard
  dsimp only
  split <;> rfl

/-- Removed ids have no entry, and every other id has the one it had. -/
theorem find?_removed (grid : Grid) (ids : List ItemId) (id : ItemId) :
    (grid.discard ids).2.find? id =
      if id ∈ (grid.discard ids).1.ids then none else grid.find? id := by
  have hremoved := mem_ids_dropEntries grid ids id
  change _ = if id ∈ (grid.dropEntries ids).1.ids then none else grid.find? id
  rw [find?_discard]
  cases hentry : grid.find? id with
  | none => simp
  | some entry => simp [hremoved, hentry]

/-- The ids that are left keep their order. -/
theorem ids_discard (grid : Grid) (ids : List ItemId) :
    (grid.discard ids).2.ids = grid.ids.filter (· ∉ (grid.discard ids).1.ids) := by
  have hdrop := (congrArg Grid.ids (dropEntries_rest grid ids) : _)
  change (grid.discard ids).2.ids = grid.ids.filter (· ∉ (grid.dropEntries ids).1.ids)
  by_cases hnone : (grid.dropEntries ids).1.ids = []
  · rw [discard_of_none hnone, hnone]
    exact (List.filter_eq_self.mpr fun _ _ => rfl).symm
  · rw [discard_of_some hnone]
    exact congrArg (List.filter _) hdrop

end MediaGrid.Grid
