import MediaGrid.Proofs.Grid.Frame
import MediaGrid.Proofs.Grid.Membership

/-!
# The byte slots

What each operation does to the byte slots of the grid, with an id that has no entry counted
as an empty slot. Claiming turns empty slots into waiting ones, a fetch that is accepted or
given up settles one waiting slot, and loaded slots become empty only when their content or
their entry is dropped. Every other operation leaves the slots alone.
-/

namespace MediaGrid

/-- The slot once its content was dropped. -/
def ByteSlot.dropped : ByteSlot → ByteSlot
  | .loaded _ => .empty
  | slot => slot

@[simp]
theorem ByteSlot.dropped_empty : ByteSlot.empty.dropped = .empty := rfl

/-- Dropping contents does not concern what waits. -/
theorem ByteSlot.dropped_eq_pending {slot : ByteSlot} {ticket : Nat} :
    slot.dropped = .pending ticket ↔ slot = .pending ticket := by
  cases slot <;> simp [dropped]

/-- A slot without a handle has nothing to drop. -/
theorem ByteSlot.dropped_of_handle_none {slot : ByteSlot} (h : slot.handle? = none) :
    slot.dropped = slot := by
  cases slot with
  | loaded handle => cases h
  | empty => rfl
  | pending ticket => rfl

namespace Grid

/-- The slot of a byte facet; an id without an entry has an empty one. -/
def slotAt (grid : Grid) (id : ItemId) (facet : ByteFacet) : ByteSlot :=
  ((grid.find? id).map (·.slot facet)).getD .empty

theorem slotAt_of_none {grid : Grid} {id : ItemId} (h : grid.find? id = none)
    (facet : ByteFacet) : grid.slotAt id facet = .empty := by
  rw [slotAt, h]
  rfl

theorem slotAt_of_some {grid : Grid} {id : ItemId} {entry : Entry}
    (h : grid.find? id = some entry) (facet : ByteFacet) :
    grid.slotAt id facet = entry.slot facet := by
  rw [slotAt, h]
  rfl

/-- A slot that is not empty belongs to an entry. -/
theorem exists_entry_of_slotAt {grid : Grid} {id : ItemId} {facet : ByteFacet}
    (h : grid.slotAt id facet ≠ .empty) : ∃ entry, grid.find? id = some entry := by
  cases hentry : grid.find? id with
  | none => exact absurd (slotAt_of_none hentry facet) h
  | some entry => exact ⟨entry, rfl⟩

/-- A facet waits for a claim when its slot holds the ticket. -/
theorem awaits_iff {grid : Grid} {facet : ByteFacet} {claim : Claim} :
    grid.awaits facet claim = true ↔ grid.slotAt claim.id facet = .pending claim.ticket := by
  cases hentry : grid.find? claim.id with
  | none => simp [awaits, slotAt, hentry]
  | some entry => simp [awaits, slotAt, hentry]

/-- A slot that was set is found again, and every other slot is left alone. -/
theorem slotAt_modify {grid : Grid} {id : ItemId} {entry : Entry}
    (hentry : grid.find? id = some entry) (facet other : ByteFacet) (slot : ByteSlot)
    (key : ItemId) :
    (grid.modify id (·.setSlot facet slot)).slotAt key other =
      if key = id ∧ other = facet then slot else grid.slotAt key other := by
  rw [slotAt, find?, modify, Table.find?_modify]
  by_cases hkey : key = id
  · subst hkey
    rw [if_pos rfl, ← find?, slotAt, hentry]
    simp only [Option.map_some, Option.getD_some, Entry.slot_setSlot, true_and]
  · rw [if_neg hkey, if_neg fun h => hkey h.1]
    rfl

/-- What does not concern a facet leaves its slots alone. -/
theorem SameUpTo.slotAt_eq {blank : Entry → Entry} {before after : Grid}
    (h : SameUpTo blank before after) {facet : ByteFacet}
    (hv : ∀ entry, (blank entry).slot facet = entry.slot facet) (id : ItemId) :
    after.slotAt id facet = before.slotAt id facet := by
  rw [slotAt, slotAt, h.find?_map (·.slot facet) hv id]

/-- New entries have empty slots. -/
@[simp]
theorem slotAt_addAll (grid : Grid) (refs : List Artifact) (id : ItemId) (facet : ByteFacet) :
    (grid.addAll refs).2.slotAt id facet = grid.slotAt id facet := by
  rw [slotAt, find?_addAll]
  cases hentry : grid.find? id with
  | some entry => rw [slotAt_of_some hentry]; rfl
  | none =>
    rw [slotAt_of_none hentry, Option.none_or]
    cases refs.find? (·.id == id) with
    | none => rfl
    | some ref => cases facet <;> rfl

/-- Merging a page changes no slot. -/
@[simp]
theorem slotAt_mergePage (grid : Grid) (epoch : Nat) (page : Page) (id : ItemId)
    (facet : ByteFacet) : (grid.mergePage epoch page).2.slotAt id facet = grid.slotAt id facet := by
  rcases grid.mergePage_cases epoch page with h | ⟨active, -, h⟩
  · rw [h]
  · rw [h]
    exact slotAt_addAll grid page.refs id facet

/-- Merging a page gives no tickets out. -/
@[simp]
theorem lastTicket_mergePage (grid : Grid) (epoch : Nat) (page : Page) :
    (grid.mergePage epoch page).2.lastTicket = grid.lastTicket := by
  rcases grid.mergePage_cases epoch page with h | ⟨active, -, h⟩
  · rw [h]
  · rw [h]
    exact lastTicket_addAll grid page.refs

/-- A cleared grid has no slots. -/
@[simp]
theorem slotAt_clear (grid : Grid) (keepQuery : Bool) (id : ItemId) (facet : ByteFacet) :
    (grid.clear keepQuery).2.slotAt id facet = .empty := rfl

/-- The slots of removed entries are gone. -/
theorem slotAt_discard (grid : Grid) (ids : List ItemId) (id : ItemId) (facet : ByteFacet) :
    (grid.discard ids).2.slotAt id facet = if id ∈ ids then .empty else grid.slotAt id facet := by
  rw [slotAt, find?_discard]
  split <;> rfl

/-! ## Operations that leave the slots alone -/

/-- The same ids have entries with the same slots, and no tickets were given out. -/
structure SameBytes (before after : Grid) : Prop where
  /-- The slots are the same. -/
  slots : ∀ id facet, after.slotAt id facet = before.slotAt id facet
  /-- The same ids have entries. -/
  contains : ∀ id, after.contains id = before.contains id
  /-- The last ticket is the same. -/
  lastTicket : after.lastTicket = before.lastTicket

namespace SameBytes

variable {before middle after : Grid}

protected theorem refl (grid : Grid) : SameBytes grid grid := ⟨fun _ _ => rfl, fun _ => rfl, rfl⟩

protected theorem trans (h : SameBytes before middle) (h' : SameBytes middle after) :
    SameBytes before after :=
  ⟨fun id facet => (h'.slots id facet).trans (h.slots id facet),
    fun id => (h'.contains id).trans (h.contains id), h'.lastTicket.trans h.lastTicket⟩

/-- What changes neither entries nor tickets leaves the slots alone. -/
theorem of_entries (hentries : after.entries = before.entries)
    (hlast : after.lastTicket = before.lastTicket) : SameBytes before after :=
  ⟨fun id facet => by rw [slotAt, slotAt, find?, find?, hentries],
    fun id => by rw [Grid.contains, Grid.contains, hentries], hlast⟩

/-- What changes a part of the entries other than the slots leaves the slots alone. -/
theorem of_sameUpTo {blank : Entry → Entry} (h : SameUpTo blank before after)
    (hv : ∀ entry facet, (blank entry).slot facet = entry.slot facet) :
    SameBytes before after :=
  ⟨fun id facet => h.slotAt_eq (fun entry => hv entry facet) id, h.contains_eq, h.lastTicket_eq⟩

/-- What changes metadata at most leaves the slots alone. -/
theorem of_records (h : SameUpTo Entry.withoutMetadata before after) : SameBytes before after :=
  of_sameUpTo h fun _ facet => by cases facet <;> rfl

end SameBytes

theorem sameBytes_mark (grid : Grid) (ids : Option (List ItemId)) (value : Bool) :
    SameBytes grid (grid.mark ids value).2 := by
  by_cases hnone : (grid.flag value (ids.getD grid.ids)).1 = []
  · rw [mark_of_none hnone]
    exact .refl grid
  · rw [mark_of_some hnone]
    have hflag := SameBytes.of_sameUpTo (sameUpTo_flag grid value (ids.getD grid.ids))
      fun _ facet => by cases facet <;> rfl
    exact hflag.trans (.of_entries rfl rfl)

theorem sameBytes_setVideo (grid : Grid) (id : ItemId) (urls : Option VideoLinks) :
    SameBytes grid ((grid.setVideo? id urls).getD grid) := by
  cases h : grid.setVideo? id urls with
  | none => exact .refl grid
  | some grid' =>
    exact .of_sameUpTo (sameUpTo_setVideo h) fun _ facet => by cases facet <;> rfl

theorem sameBytes_askFurther (grid : Grid) (page : Nat) :
    SameBytes grid (((grid.askFurther? page).map (·.2)).getD grid) := by
  cases h : grid.askFurther? page with
  | none => exact .refl grid
  | some result =>
    obtain ⟨asked, grid'⟩ := result
    obtain ⟨active, -, -, -, -, -, rfl⟩ := askFurther?_eq_some_iff.mp h
    exact .of_entries rfl rfl

theorem sameBytes_withdrawPage (grid : Grid) (epoch : Nat) :
    SameBytes grid ((grid.withdrawPage? epoch).getD grid) := by
  unfold withdrawPage?
  split <;> exact .of_entries rfl rfl

theorem sameBytes_moveRequest (grid : Grid) (kind : Request) (state : RequestStatus) :
    SameBytes grid ((grid.moveRequest? kind state).getD grid) := by
  unfold moveRequest?
  split <;> exact .of_entries rfl rfl

theorem sameBytes_beginOnSelection (grid : Grid) (kind : Request) :
    SameBytes grid (((grid.beginOnSelection? kind).map (·.2)).getD grid) := by
  simp only [beginOnSelection?]
  split
  · exact .refl grid
  · split <;> exact .of_entries rfl rfl

theorem sameBytes_setSearch (grid : Grid) (search : String) (menu : Menu) :
    SameBytes grid ((grid.setSearch? search menu).getD grid) := by
  unfold setSearch?
  split <;> exact .of_entries rfl rfl

theorem sameBytes_setCompletions (grid : Grid) (completions : List String) :
    SameBytes grid ((grid.setCompletions? completions).getD grid) := by
  unfold setCompletions?
  split <;> exact .of_entries rfl rfl

theorem sameBytes_setDialog (grid : Grid) (isOpen : Bool) :
    SameBytes grid ((grid.setDialog? isOpen).getD grid) := by
  unfold setDialog?
  split <;> exact .of_entries rfl rfl

/-! ## Settling a claim -/

/-- A content that is accepted was waited for, and its handle goes into the slot. -/
theorem fill?_eq_some {σ : Type} {grid grid' : Grid} {facet : ByteFacet} {claim : Claim}
    {create : σ → Handle × σ} {place place' : σ}
    (h : grid.fill? facet claim create place = some (grid', place')) :
    grid.awaits facet claim = true ∧ place' = (create place).2 ∧
      grid' = grid.modify claim.id (·.setSlot facet (.loaded (create place).1)) := by
  simp only [fill?] at h
  split at h
  · rename_i hawaits
    obtain ⟨rfl, rfl⟩ := Prod.mk.inj (Option.some.inj h)
    exact ⟨hawaits, rfl, rfl⟩
  · cases h

/-- A content is accepted exactly when it is waited for. -/
theorem isSome_fill? {σ : Type} (grid : Grid) (facet : ByteFacet) (claim : Claim)
    (create : σ → Handle × σ) (place : σ) :
    (grid.fill? facet claim create place).isSome = grid.awaits facet claim := by
  unfold fill?
  split <;> simp [*]

/-- A claim is given up exactly when it is waited for. -/
theorem isSome_giveUp? (grid : Grid) (facet : ByteFacet) (claim : Claim) :
    (grid.giveUp? facet claim).isSome = grid.awaits facet claim := by
  unfold giveUp?
  split <;> simp [*]

theorem giveUp?_eq_some {grid grid' : Grid} {facet : ByteFacet} {claim : Claim}
    (h : grid.giveUp? facet claim = some grid') :
    grid.awaits facet claim = true ∧
      grid' = grid.modify claim.id (·.setSlot facet .empty) := by
  simp only [giveUp?] at h
  split at h
  · rename_i hawaits
    cases h
    exact ⟨hawaits, rfl⟩
  · cases h

/-- Setting the slot that waits for a claim changes that slot only. -/
theorem slotAt_settled {grid : Grid} {facet : ByteFacet} {claim : Claim}
    (h : grid.awaits facet claim = true) (slot : ByteSlot) (id : ItemId) (other : ByteFacet) :
    (grid.modify claim.id (·.setSlot facet slot)).slotAt id other =
      if id = claim.id ∧ other = facet then slot else grid.slotAt id other := by
  have hslot : grid.slotAt claim.id facet ≠ .empty := by
    rw [awaits_iff.mp h]
    exact ByteSlot.noConfusion
  obtain ⟨entry, hentry⟩ := exists_entry_of_slotAt hslot
  exact slotAt_modify hentry facet other slot id

theorem slotAt_giveUp {grid grid' : Grid} {facet : ByteFacet} {claim : Claim}
    (h : grid.giveUp? facet claim = some grid') (id : ItemId) (other : ByteFacet) :
    grid'.slotAt id other =
      if id = claim.id ∧ other = facet then .empty else grid.slotAt id other := by
  obtain ⟨hawaits, rfl⟩ := giveUp?_eq_some h
  exact slotAt_settled hawaits _ id other

/-! ## Claiming -/

/-- A claim is made of an empty slot, which then waits for it. -/
theorem slotAt_claimOne {grid grid' : Grid} {facet : ByteFacet} {id : ItemId}
    {claim : Claim × Artifact} (h : grid.claimOne? facet id = some (claim, grid')) :
    grid.slotAt id facet = .empty ∧ claim.1 = ⟨id, grid.lastTicket + 1⟩ ∧
      grid'.lastTicket = grid.lastTicket + 1 ∧
      ∀ key other, grid'.slotAt key other =
        if key = id ∧ other = facet then .pending (grid.lastTicket + 1)
        else grid.slotAt key other := by
  obtain ⟨entry, hentry, hempty, hclaim, hgrid⟩ := claimOne?_eq_some h
  refine ⟨(slotAt_of_some hentry facet).trans hempty, by rw [hclaim], by rw [hgrid], ?_⟩
  intro key other
  rw [hgrid]
  exact slotAt_modify hentry facet other _ key

/-- The claims take the next tickets in order. -/
theorem tickets_claimAll (grid : Grid) (facet : ByteFacet) (ids : List ItemId) :
    (grid.claimAll facet ids).1.map (·.1.ticket) =
        List.range' (grid.lastTicket + 1) (grid.claimAll facet ids).1.length ∧
      (grid.claimAll facet ids).2.lastTicket =
        grid.lastTicket + (grid.claimAll facet ids).1.length := by
  induction ids generalizing grid with
  | nil => exact ⟨rfl, rfl⟩
  | cons id rest ih =>
    rw [claimAll]
    split
    · exact ih grid
    · rename_i claim grid' hone
      obtain ⟨-, hclaim, hlast, -⟩ := slotAt_claimOne hone
      obtain ⟨htickets, hlast'⟩ := ih grid'
      simp only [List.map_cons, List.length_cons, List.range'_succ, hclaim]
      rw [htickets, hlast', hlast]
      exact ⟨rfl, by omega⟩

/-- The claimed slots wait for their claims, and every slot that waited still does. -/
theorem pending_claimAll {grid : Grid} {facet other : ByteFacet} {ids : List ItemId}
    {id : ItemId} {ticket : Nat} :
    (grid.claimAll facet ids).2.slotAt id other = .pending ticket ↔
      grid.slotAt id other = .pending ticket ∨
        other = facet ∧ ⟨id, ticket⟩ ∈ (grid.claimAll facet ids).1.map (·.1) := by
  induction ids generalizing grid with
  | nil => simp [claimAll]
  | cons head rest ih =>
    rw [claimAll]
    split
    · exact ih
    · rename_i claim grid' hone
      obtain ⟨hempty, hclaim, -, hslots⟩ := slotAt_claimOne hone
      simp only [List.map_cons, List.mem_cons, ih, hslots, hclaim, Claim.mk.injEq]
      by_cases h : id = head ∧ other = facet
      · obtain ⟨rfl, rfl⟩ := h
        simp only [and_self, if_true, hempty, ByteSlot.pending.injEq, true_and, false_or,
          reduceCtorEq, eq_comm]
      · rw [if_neg h]
        constructor
        · rintro (hp | ⟨ho, hm⟩)
          · exact Or.inl hp
          · exact Or.inr ⟨ho, Or.inr hm⟩
        · rintro (hp | ⟨ho, ⟨hid, -⟩ | hm⟩)
          · exact Or.inl hp
          · exact absurd ⟨hid, ho⟩ h
          · exact Or.inr ⟨ho, hm⟩

/-- Claiming leaves the other slots alone. -/
theorem slotAt_claimAll {grid : Grid} {facet other : ByteFacet} {ids : List ItemId} {id : ItemId}
    (h : other ≠ facet ∨ id ∉ ids) :
    (grid.claimAll facet ids).2.slotAt id other = grid.slotAt id other := by
  induction ids generalizing grid with
  | nil => rfl
  | cons head rest ih =>
    have hrest := h.imp_right fun hout hm => hout (List.mem_cons_of_mem head hm)
    rw [claimAll]
    split
    · exact ih hrest
    · rename_i claim grid' hone
      obtain ⟨-, -, -, hslots⟩ := slotAt_claimOne hone
      have hother : ¬(id = head ∧ other = facet) := by
        rintro ⟨rfl, rfl⟩
        exact h.elim (fun hne => hne rfl) fun hout => hout List.mem_cons_self
      refine (ih hrest).trans ?_
      rw [hslots, if_neg hother]

/-- Claiming loads nothing and drops nothing. -/
theorem loaded_claimAll {grid : Grid} {facet other : ByteFacet} {ids : List ItemId}
    {id : ItemId} {handle : Handle} :
    (grid.claimAll facet ids).2.slotAt id other = .loaded handle ↔
      grid.slotAt id other = .loaded handle := by
  induction ids generalizing grid with
  | nil => rfl
  | cons head rest ih =>
    rw [claimAll]
    split
    · exact ih
    · rename_i claim grid' hone
      obtain ⟨hempty, -, -, hslots⟩ := slotAt_claimOne hone
      simp only [ih, hslots]
      by_cases h : id = head ∧ other = facet
      · obtain ⟨rfl, rfl⟩ := h
        simp [hempty]
      · rw [if_neg h]

/-! ## Dropping contents -/

/-- The contents of the given facets are dropped. -/
theorem slotAt_unload (grid : Grid) (facet other : ByteFacet) (ids : List ItemId) (id : ItemId) :
    (grid.unload facet ids).2.slotAt id other =
      if other = facet ∧ id ∈ ids then (grid.slotAt id other).dropped
      else grid.slotAt id other := by
  induction ids generalizing grid with
  | nil => simp [unload]
  | cons head rest ih =>
    rw [unload]
    split
    · rename_i hnone
      rw [ih]
      by_cases h : other = facet ∧ id = head
      · obtain ⟨rfl, rfl⟩ := h
        have hslot : (grid.slotAt id other).handle? = none := by
          cases hentry : grid.find? id with
          | none => rw [slotAt_of_none hentry]; rfl
          | some entry => simpa [slotAt_of_some hentry, hentry] using hnone
        simp [ByteSlot.dropped_of_handle_none hslot]
      · grind
    · rename_i handle hsome
      obtain ⟨entry, hentry, hhandle⟩ := Option.bind_eq_some_iff.mp hsome
      rw [ih, slotAt_modify hentry]
      by_cases h : id = head ∧ other = facet
      · obtain ⟨rfl, rfl⟩ := h
        have hslot : (grid.slotAt id other).dropped = .empty := by
          rw [slotAt_of_some hentry]
          cases hs : entry.slot other with
          | loaded handle => rfl
          | empty => rfl
          | pending ticket => rw [hs] at hhandle; cases hhandle
        simp [hslot]
      · grind

/-- Dropping contents does not concern what waits. -/
theorem pending_unload {grid : Grid} {facet other : ByteFacet} {ids : List ItemId}
    {id : ItemId} {ticket : Nat} :
    (grid.unload facet ids).2.slotAt id other = .pending ticket ↔
      grid.slotAt id other = .pending ticket := by
  rw [slotAt_unload]
  split
  · exact ByteSlot.dropped_eq_pending
  · rfl

end Grid

end MediaGrid
