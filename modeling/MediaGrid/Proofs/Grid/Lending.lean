import MediaGrid.Proofs.Grid.Consistency
import MediaGrid.Proofs.Grid.Slots

/-!
# Claims that are given up

Slots that were claimed are lent: giving all the claims up leaves the grid as it was before, but for
the tickets that were given out. Claiming again then takes the same entries in the same order, as a
claim looks at nothing but the artifact of an entry and at whether its slot is empty. Contents that
come are no part of it.
-/

namespace MediaGrid

/-! ## Equal tables and equal entries -/

/-- Tables with the same keys in the same order and the same values are equal. -/
theorem Table.eq_of_find? {κ α : Type} [DecidableEq κ] {table other : Table κ α}
    (hkeys : table.rows.map (·.1) = other.rows.map (·.1))
    (hfind : ∀ key, table.find? key = other.find? key) : table = other := by
  have hlength : table.rows.length = other.rows.length := by
    simpa using congrArg List.length hkeys
  have hrows : table.rows = other.rows := by
    refine List.ext_getElem hlength fun i hi hi' => ?_
    have hkey := List.getElem_of_eq hkeys (by rwa [List.length_map])
    rw [List.getElem_map, List.getElem_map] at hkey
    have hvalue := hfind table.rows[i].1
    rw [mem_rows_iff.mp (List.getElem_mem hi), hkey, mem_rows_iff.mp (List.getElem_mem hi')]
      at hvalue
    exact Prod.ext hkey (Option.some.inj hvalue)
  cases table
  cases other
  congr

namespace Entry

/-- An entry is told by what is left of it without a slot, and by the slot. -/
theorem eq_of_withoutSlot {entry other : Entry} {facet : ByteFacet}
    (h : entry.withoutSlot facet = other.withoutSlot facet)
    (hslot : entry.slot facet = other.slot facet) : entry = other := by
  cases entry
  cases other
  cases facet <;> simp_all [withoutSlot, setSlot, slot]

/-- An entry is told by what is left of it without its metadata, and by the metadata. -/
theorem eq_of_withoutMetadata {entry other : Entry}
    (h : entry.withoutMetadata = other.withoutMetadata)
    (hmetadata : entry.metadata = other.metadata) : entry = other := by
  cases entry
  cases other
  simp_all [withoutMetadata]

end Entry

namespace Grid

variable {before after grid : Grid} {facet : ByteFacet}

/-- Grids that differ at most in a part of the entries are equal if the entries are found to be
equal. -/
theorem SameUpTo.eq_of_find? {blank : Entry → Entry} (h : SameUpTo blank before after)
    (hfind : ∀ id, after.find? id = before.find? id) : after = before := by
  have hkeys := congrArg (List.map Prod.fst) (h.map_rows (fun _ => ()) fun _ => rfl)
  rw [List.map_map, List.map_map] at hkeys
  have hentries : after.entries = before.entries := Table.eq_of_find? hkeys hfind
  rw [h.rest, hentries]

/-- Grids that differ at most in a part of the entries are equal if that part looks equal. -/
theorem SameUpTo.eq_of_view {α : Type} {blank : Entry → Entry} {view : Entry → α}
    (h : SameUpTo blank before after) (hblank : ∀ entry, blank (blank entry) = blank entry)
    (heq : ∀ entry other : Entry, blank entry = blank other → view entry = view other →
      entry = other)
    (hview : ∀ id entry other, before.find? id = some entry → after.find? id = some other →
      view other = view entry) : after = before := by
  refine h.eq_of_find? fun id => ?_
  have hrest := h.find?_map blank hblank id
  cases hold : before.find? id with
  | none =>
    rw [hold] at hrest
    exact Option.map_eq_none_iff.mp hrest
  | some entry =>
    rw [hold] at hrest
    obtain ⟨found, hfound, hsame⟩ := Option.map_eq_some_iff.mp hrest
    rw [hfound, heq found entry hsame (hview id entry found hold hfound)]

/-! ## Slots that are lent -/

/-- The slots of some claims are lent: they were empty and wait now. Everything else is as before,
but that tickets were given out. -/
structure Lent (facet : ByteFacet) (before after : Grid) (claims : List Claim) : Prop where
  /-- No more than slots and tickets changed. -/
  same : SameUpTo (Entry.withoutSlot facet) before { after with lastTicket := before.lastTicket }
  /-- No slot is lent twice. -/
  nodup : (claims.map (·.id)).Nodup
  /-- The slots were empty. -/
  empty : ∀ claim ∈ claims, before.slotAt claim.id facet = .empty
  /-- The slots wait. -/
  waits : ∀ claim ∈ claims, after.slotAt claim.id facet = .pending claim.ticket
  /-- The other slots are as before. -/
  rest : ∀ id, id ∉ claims.map (·.id) → after.slotAt id facet = before.slotAt id facet

/-- One more slot is lent first. -/
theorem Lent.cons {middle : Grid} {id : ItemId} {claim : Claim × Artifact} {claims : List Claim}
    (hone : before.claimOne? facet id = some (claim, middle))
    (h : Lent facet middle after claims) : Lent facet before after (claim.1 :: claims) := by
  obtain ⟨hempty, hclaim, -, hslots⟩ := slotAt_claimOne hone
  have hid : claim.1.id = id := congrArg Claim.id hclaim
  have hwaits : middle.slotAt id facet = .pending (before.lastTicket + 1) := by
    rw [hslots, if_pos ⟨rfl, rfl⟩]
  -- The slot waits already when the other claims are made.
  have hnew : id ∉ claims.map (·.id) := by
    intro hm
    obtain ⟨other, hother, rfl⟩ := List.mem_map.mp hm
    rw [h.empty other hother] at hwaits
    cases hwaits
  have hsame : ∀ other, other ≠ id → middle.slotAt other facet = before.slotAt other facet := by
    intro other hne
    rw [hslots, if_neg fun he => hne he.1]
  constructor
  · obtain ⟨entry, -, -, -, rfl⟩ := claimOne?_eq_some hone
    have hstep : SameUpTo (Entry.withoutSlot facet) before
        (before.modify id (·.setSlot facet (.pending (before.lastTicket + 1)))) :=
      .modify before id fun entry => entry.withoutSlot_setSlot _ _
    exact hstep.trans (h.same.withTicket before.lastTicket)
  · rw [List.map_cons, List.nodup_cons, hid]
    exact ⟨hnew, h.nodup⟩
  · intro other hm
    rcases List.mem_cons.mp hm with rfl | hm
    · rw [hid]
      exact hempty
    · have hne : other.id ≠ id := fun he => hnew (List.mem_map.mpr ⟨other, hm, he⟩)
      rw [← hsame other.id hne]
      exact h.empty other hm
  · intro other hm
    rcases List.mem_cons.mp hm with rfl | hm
    · rw [hclaim, h.rest id hnew]
      exact hwaits
    · exact h.waits other hm
  · intro other hm
    rw [List.map_cons, List.mem_cons, not_or, hid] at hm
    exact (h.rest other hm.2).trans (hsame other hm.1)

/-- What is claimed is lent. -/
theorem lent_claimAll (grid : Grid) (facet : ByteFacet) (ids : List ItemId) :
    Lent facet grid (grid.claimAll facet ids).2 ((grid.claimAll facet ids).1.map (·.1)) := by
  induction ids generalizing grid with
  | nil =>
    constructor
    · exact .refl grid
    · exact .nil
    · exact fun _ hm => absurd hm List.not_mem_nil
    · exact fun _ hm => absurd hm List.not_mem_nil
    · exact fun _ _ => rfl
  | cons id rest ih =>
    rw [claimAll]
    split
    · exact ih grid
    · rename_i claim middle hone
      exact (ih middle).cons hone

/-- A claim that is given up is lent no more. -/
theorem Lent.giveUp {claim : Claim} {claims : List Claim}
    (h : Lent facet before after (claim :: claims)) :
    ∃ given, after.giveUp? facet claim = some given ∧ Lent facet before given claims := by
  have hawaits := awaits_iff.mpr (h.waits claim List.mem_cons_self)
  obtain ⟨given, hgiven⟩ := Option.isSome_iff_exists.mp
    ((after.isSome_giveUp? facet claim).trans hawaits)
  have hslots := fun id => slotAt_giveUp hgiven id facet
  obtain ⟨hnew, hnodup⟩ := List.nodup_cons.mp h.nodup
  have hother : ∀ id ≠ claim.id, given.slotAt id facet = after.slotAt id facet := by
    intro id hne
    rw [hslots, if_neg fun he => hne he.1]
  refine ⟨given, hgiven, ?_⟩
  constructor
  · exact h.same.trans ((sameUpTo_giveUp hgiven).withTicket before.lastTicket)
  · exact hnodup
  · exact fun other hm => h.empty other (List.mem_cons_of_mem _ hm)
  · intro other hm
    have hne : other.id ≠ claim.id := fun he => hnew (List.mem_map.mpr ⟨other, hm, he⟩)
    rw [hother other.id hne]
    exact h.waits other (List.mem_cons_of_mem _ hm)
  · intro id hm
    by_cases hid : id = claim.id
    · rw [hslots, if_pos ⟨hid, rfl⟩, hid]
      exact (h.empty claim List.mem_cons_self).symm
    · rw [hother id hid]
      exact h.rest id fun hin => (List.mem_cons.mp hin).elim hid hm

/-- Where nothing is lent, the grid is as before but for the tickets. -/
theorem Lent.restored (h : Lent facet before after []) :
    after = { before with lastTicket := after.lastTicket } := by
  have heq : { after with lastTicket := before.lastTicket } = before := by
    refine h.same.eq_of_view (fun entry => entry.withoutSlot_setSlot _ _)
      (fun _ _ => Entry.eq_of_withoutSlot) fun id entry other hentry hother => ?_
    have hfound : after.find? id = some other := hother
    rw [← slotAt_of_some hentry, ← slotAt_of_some hfound]
    exact h.rest id List.not_mem_nil
  rw [← heq]

end Grid

/-! ## Claiming again -/

/-- The target of a claim as if it had got no ticket. -/
def unticketed (target : Claim × Artifact) : Claim × Artifact := (⟨target.1.id, 0⟩, target.2)

namespace Grid

variable {before after : Grid} {facet : ByteFacet}

/-- What a claim looks at: the artifact of an entry and whether its slot is empty. -/
def claimable (grid : Grid) (facet : ByteFacet) (id : ItemId) : Option (Artifact × Bool) :=
  (grid.find? id).map fun entry => (entry.ref, entry.slot facet == .empty)

theorem claimOne?_eq_none {grid : Grid} {id : ItemId} (h : grid.claimOne? facet id = none)
    (ref : Artifact) : grid.claimable facet id ≠ some (ref, true) := by
  intro hclaimable
  obtain ⟨entry, hentry, hview⟩ := Option.map_eq_some_iff.mp hclaimable
  have hempty : entry.slot facet = .empty := by simpa using congrArg Prod.snd hview
  simp [claimOne?, hentry, hempty] at h

/-- After a claim, the slot that was claimed is not empty, and nothing else looks different. -/
theorem claimable_claimOne {grid grid' : Grid} {id : ItemId} {claim : Claim × Artifact}
    (h : grid.claimOne? facet id = some (claim, grid')) :
    grid.claimable facet id = some (claim.2, true) ∧ claim.1.id = id ∧
      ∀ key, grid'.claimable facet key =
        if key = id then some (claim.2, false) else grid.claimable facet key := by
  obtain ⟨entry, hentry, hempty, rfl, rfl⟩ := claimOne?_eq_some h
  refine ⟨by simp [claimable, hentry, hempty], rfl, fun key => ?_⟩
  simp only [claimable, find?, modify, Table.find?_modify]
  split
  · rename_i hkey
    rw [hkey, ← find?, hentry]
    simp [Entry.slot_setSlot]
  · rfl

/-- Grids that look the same to a claim have the same claims made of them, up to tickets. -/
theorem claimAll_of_claimable (h : ∀ id, after.claimable facet id = before.claimable facet id)
    (ids : List ItemId) :
    (after.claimAll facet ids).1.map unticketed = (before.claimAll facet ids).1.map unticketed := by
  induction ids generalizing before after with
  | nil => rfl
  | cons id rest ih =>
    rw [claimAll, claimAll]
    cases hafter : after.claimOne? facet id with
    | none =>
      cases hbefore : before.claimOne? facet id with
      | none => exact ih h
      | some claimed =>
        exact absurd ((h id).trans (claimable_claimOne hbefore).1) (claimOne?_eq_none hafter _)
    | some claimed =>
      obtain ⟨hopen, hid, hrest⟩ := claimable_claimOne hafter
      cases hbefore : before.claimOne? facet id with
      | none => exact absurd ((h id).symm.trans hopen) (claimOne?_eq_none hbefore _)
      | some claimed' =>
        obtain ⟨hopen', hid', hrest'⟩ := claimable_claimOne hbefore
        have href : claimed.1.2 = claimed'.1.2 := by
          rw [h id, hopen'] at hopen
          exact (congrArg Prod.fst (Option.some.inj hopen)).symm
        have hlook : ∀ key, claimed.2.claimable facet key = claimed'.2.claimable facet key := by
          intro key
          rw [hrest, hrest', href, h key]
        simp only [List.map_cons]
        rw [ih hlook, unticketed, unticketed, hid, hid', href]

/-- Tickets that were given out do not change what is claimed. -/
theorem claimAll_withTicket (grid : Grid) (facet : ByteFacet) (ids : List ItemId) (ticket : Nat) :
    ({ grid with lastTicket := ticket }.claimAll facet ids).1.map unticketed =
      (grid.claimAll facet ids).1.map unticketed := by
  refine claimAll_of_claimable (fun id => ?_) ids
  rfl

/-- Metadata is claimed whatever tickets were given out. -/
theorem claimRecords_withTicket (grid : Grid) (ticket : Nat) (ids : List ItemId) :
    ({ grid with lastTicket := ticket }.claimRecords ids).1 = (grid.claimRecords ids).1 := by
  induction ids generalizing grid with
  | nil => rfl
  | cons head rest ih =>
    rw [claimRecords, claimRecords, find?, find?]
    cases grid.entries.find? head with
    | none => exact ih grid
    | some entry =>
      dsimp only
      split
      · exact congrArg ((head, entry.ref) :: ·) (ih (grid.setMetadata head .pending))
      · exact ih grid

end Grid

end MediaGrid
