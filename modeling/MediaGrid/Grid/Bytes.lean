import MediaGrid.Grid.Basic

/-!
# Loading byte facets

A facet that is not loaded is claimed before it is fetched. The claim gets a ticket that no
other claim ever had, and the facet remembers it; only the claim whose ticket a facet
remembers can store a content in it or give it up.
-/

namespace MediaGrid

/-- The right to settle one byte facet of one entry. -/
structure Claim where
  /-- The entry. -/
  id : ItemId
  /-- The ticket that the facet remembers. -/
  ticket : Nat
  deriving DecidableEq, Repr

namespace Grid

/-- Claims a facet of one entry, if it is neither loaded nor claimed. -/
def claimOne? (grid : Grid) (facet : ByteFacet) (id : ItemId) :
    Option ((Claim × Artifact) × Grid) := do
  let entry ← grid.find? id
  if entry.slot facet = .empty then
    let ticket := grid.lastTicket + 1
    return ((⟨id, ticket⟩, entry.ref),
      { grid.modify id (·.setSlot facet (.pending ticket)) with lastTicket := ticket })
  else none

/-- A claim is made of an entry whose facet is neither loaded nor claimed. It takes the next
ticket, and the facet remembers it. -/
theorem claimOne?_eq_some {grid grid' : Grid} {facet : ByteFacet} {id : ItemId}
    {claim : Claim × Artifact} (h : grid.claimOne? facet id = some (claim, grid')) :
    ∃ entry, grid.find? id = some entry ∧ entry.slot facet = .empty ∧
      claim = (⟨id, grid.lastTicket + 1⟩, entry.ref) ∧
      grid' = { grid.modify id (·.setSlot facet (.pending (grid.lastTicket + 1))) with
        lastTicket := grid.lastTicket + 1 } := by
  simp only [claimOne?, Option.bind_eq_bind, Option.bind_eq_some_iff] at h
  obtain ⟨entry, hentry, h⟩ := h
  split at h
  · rename_i hempty
    obtain ⟨rfl, rfl⟩ := Prod.mk.inj (Option.some.inj h)
    exact ⟨entry, hentry, hempty, rfl, rfl⟩
  · cases h

/-- Claims a facet of several entries, and returns the claims with the artifacts to fetch. -/
def claimAll (grid : Grid) (facet : ByteFacet) :
    List ItemId → List (Claim × Artifact) × Grid
  | [] => ([], grid)
  | id :: rest =>
    match grid.claimOne? facet id with
    | none => grid.claimAll facet rest
    | some (claim, grid) =>
      let (claims, grid) := grid.claimAll facet rest
      (claim :: claims, grid)

/-- Whether a facet still waits for a claim. -/
def awaits (grid : Grid) (facet : ByteFacet) (claim : Claim) : Bool :=
  (grid.find? claim.id).any fun entry => entry.slot facet == .pending claim.ticket

/-- Stores a content in a facet, if the facet waits for the claim. Only then is the content
put in its place by `create`, which gives the handle. -/
def fill? {σ : Type} (grid : Grid) (facet : ByteFacet) (claim : Claim)
    (create : σ → Handle × σ) (place : σ) : Option (Grid × σ) :=
  if grid.awaits facet claim then
    let (handle, place) := create place
    some (grid.modify claim.id (·.setSlot facet (.loaded handle)), place)
  else none

/-- Gives a facet up, so that it can be claimed again, if it waits for the claim. -/
def giveUp? (grid : Grid) (facet : ByteFacet) (claim : Claim) : Option Grid :=
  if grid.awaits facet claim then some (grid.modify claim.id (·.setSlot facet .empty))
  else none

/-- Drops the loaded contents of a facet, and returns the ids that had one and the handles. -/
def unload (grid : Grid) (facet : ByteFacet) : List ItemId → Removal × Grid
  | [] => (⟨[], []⟩, grid)
  | id :: rest =>
    match (grid.find? id).bind fun entry => (entry.slot facet).handle? with
    | none => grid.unload facet rest
    | some handle =>
      let (removal, grid) := (grid.modify id (·.setSlot facet .empty)).unload facet rest
      (⟨id :: removal.ids, handle :: removal.handles⟩, grid)

end Grid

end MediaGrid
