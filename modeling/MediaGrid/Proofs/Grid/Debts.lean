import MediaGrid.Proofs.Grid.Asked
import MediaGrid.Proofs.Grid.Slots

/-!
# What the grid owes

A debt is something that the grid shows as being under way: metadata that is asked for, a page
of the query in the current epoch, or a request on the selection. The operations of the grid
that settle nothing make no debt either, apart from claiming metadata and from putting a
request into the state of loading. Byte slots that wait are not covered here.
-/

namespace MediaGrid

/-- Something that is under way. -/
inductive Debt where
  /-- The metadata of an id is asked for. -/
  | record (id : ItemId)
  /-- The query loads a page in an epoch. -/
  | page (epoch : Nat)
  /-- A request on the selection runs. -/
  | bulk (kind : Request)

/-- Whether a debt is that of a request. -/
def Debt.concerns (debt : Debt) (kind : Request) : Prop :=
  match debt with
  | .record _ => False
  | .page _ => kind = .query
  | .bulk other => other = kind

/-- The state of a request that was set is found again, and the others are left alone. -/
theorem Requests.get_set (states : Requests) (kind other : Request) (state : RequestStatus) :
    (states.set kind state).get other = if other = kind then state else states.get other := by
  cases kind <;> cases other <;> rfl

/-- Setting the state that a request has changes nothing. -/
theorem Requests.set_get (states : Requests) (kind : Request) :
    states.set kind (states.get kind) = states := by
  cases kind <;> rfl

namespace Grid

/-- Whether the grid shows something as being under way. -/
def owes (grid : Grid) : Debt → Prop
  | .record id => grid.asks id
  | .page epoch => grid.requests.get .query = .loading ∧ epoch = grid.epoch
  | .bulk kind => kind ≠ .query ∧ grid.requests.get kind = .loading

/-- No debt is made, and a query that lasts for the epoch is still there. -/
structure Keeps (before after : Grid) : Prop where
  /-- What is owed was owed before. -/
  owes : ∀ debt, after.owes debt → before.owes debt
  /-- The epoch does not go back. -/
  epoch : before.epoch ≤ after.epoch
  /-- In the same epoch the query is not lost. -/
  active : after.epoch = before.epoch → before.active.isSome → after.active.isSome

/-- No debt is made, and some are paid. -/
structure Pays (paid : Debt → Prop) (before after : Grid) : Prop extends Keeps before after where
  /-- What was paid is not owed any more. -/
  paid : ∀ debt, paid debt → ¬after.owes debt

variable {before middle after : Grid} {paid : Debt → Prop}

namespace Keeps

protected theorem refl (grid : Grid) : Keeps grid grid :=
  ⟨fun _ h => h, Nat.le_refl _, fun _ h => h⟩

protected theorem trans (h : Keeps before middle) (h' : Keeps middle after) :
    Keeps before after where
  owes debt hd := h.owes debt (h'.owes debt hd)
  epoch := Nat.le_trans h.epoch h'.epoch
  active he ha := by
    have hle := h.epoch
    have hle' := h'.epoch
    exact h'.active (by omega) (h.active (by omega) ha)

/-- What leaves requests and query alone, and asks for no metadata, makes no debt. -/
theorem of_rest (hrequests : after.requests = before.requests) (hepoch : after.epoch = before.epoch)
    (hactive : after.active = before.active) (hasks : ∀ id, after.asks id → before.asks id) :
    Keeps before after where
  owes debt hd := by
    cases debt with
    | record id => exact hasks id hd
    | page epoch =>
      simp only [Grid.owes, hrequests, hepoch] at hd
      exact hd
    | bulk kind =>
      simp only [Grid.owes, hrequests] at hd
      exact hd
  epoch := Nat.le_of_eq hepoch.symm
  active _ ha := by rw [hactive]; exact ha

/-- What changes some part of the entries other than metadata makes no debt. -/
theorem of_sameUpTo {blank : Entry → Entry} (h : SameUpTo blank before after)
    (hv : ∀ entry, (blank entry).metadata = entry.metadata) : Keeps before after :=
  of_rest h.requests_eq h.epoch_eq h.active_eq fun id ha => (h.metadata?_eq hv id).symm.trans ha

/-- What changes metadata at most makes no debt, if it asks for none. -/
theorem of_records (h : SameUpTo Entry.withoutMetadata before after)
    (hasks : ∀ id, after.asks id → before.asks id) : Keeps before after :=
  of_rest h.requests_eq h.epoch_eq h.active_eq hasks

end Keeps

/-- Where no debt is made, none is paid at least. -/
theorem Keeps.pays_none (h : Keeps before after) : Pays (fun _ => False) before after :=
  { h with paid := fun _ hp => hp.elim }

theorem Keeps.trans_pays (h : Keeps before middle) (h' : Pays paid middle after) :
    Pays paid before after :=
  { h.trans h'.toKeeps with paid := h'.paid }

/-! ## The operations -/

variable (grid : Grid)

theorem keeps_addAll (refs : List Artifact) : Keeps grid (grid.addAll refs).2 :=
  .of_rest (requests_addAll grid refs) (epoch_addAll grid refs) (active_addAll grid refs)
    fun _ => asks_addAll

theorem keeps_discard (ids : List ItemId) : Keeps grid (grid.discard ids).2 :=
  .of_rest (requests_discard grid ids) (epoch_discard grid ids) (active_discard grid ids)
    fun _ => asks_discard

/-- Clearing the view ends what is owed, as pages of the epoch will not be merged. -/
theorem keeps_clear (keepQuery : Bool) : Keeps grid (grid.clear keepQuery).2 where
  owes debt hd := by
    cases debt with
    | record id => exact absurd hd (not_asks_clear grid keepQuery id)
    | page epoch =>
      obtain ⟨hloading, -⟩ := hd
      simp only [clear] at hloading
      split at hloading
      · cases hloading
      · rename_i hquery
        exact absurd hloading hquery
    | bulk kind =>
      obtain ⟨hkind, hloading⟩ := hd
      refine ⟨hkind, ?_⟩
      simp only [clear] at hloading
      split at hloading
      · rwa [Requests.get_set, if_neg hkind] at hloading
      · exact hloading
  epoch := Nat.le_succ _
  active he := absurd he (Nat.succ_ne_self _)

theorem keeps_unload (facet : ByteFacet) (ids : List ItemId) :
    Keeps grid (grid.unload facet ids).2 :=
  .of_sameUpTo (grid.sameUpTo_unload facet ids) fun _ => Entry.metadata_setSlot _ _ _

theorem keeps_claimAll (facet : ByteFacet) (ids : List ItemId) :
    Keeps grid (grid.claimAll facet ids).2 :=
  (Keeps.of_sameUpTo (grid.sameUpTo_claimAll facet ids) fun _ => Entry.metadata_setSlot _ _ _).trans
    (.of_rest rfl rfl rfl fun _ h => h)

theorem keeps_setSlot (id : ItemId) (facet : ByteFacet) (slot : ByteSlot) :
    Keeps grid (grid.modify id (·.setSlot facet slot)) :=
  .of_sameUpTo (.modify grid id fun entry => entry.withoutSlot_setSlot _ _) fun _ =>
    Entry.metadata_setSlot _ _ _

theorem keeps_amendRecords (update : Metadata) (ids : List ItemId) :
    Keeps grid (grid.amendRecords update ids).2 :=
  .of_records (grid.sameUpTo_amendRecords update ids) fun _ => asks_amendRecords

/-- Settling a claim of metadata ends it for all its ids. -/
theorem pays_settleRecords (claimed : List ItemId) (records : List (Artifact × Metadata)) :
    Pays (fun debt => ∃ id ∈ claimed, debt = .record id) grid
      (grid.settleRecords claimed records).2 :=
  { Keeps.of_records (grid.sameUpTo_settleRecords claimed records)
      fun _ h => (asks_settleRecords h).1 with
    paid := by
      rintro _ ⟨id, hm, rfl⟩ hd
      exact (asks_settleRecords hd).2 hm }

theorem pays_giveUpRecords (ids : List ItemId) :
    Pays (fun debt => ∃ id ∈ ids, debt = .record id) grid (grid.giveUpRecords ids) :=
  { Keeps.of_records (grid.sameUpTo_giveUpRecords ids) fun _ h => (asks_giveUpRecords h).1 with
    paid := by
      rintro _ ⟨id, hm, rfl⟩ hd
      exact (asks_giveUpRecords hd).2 hm }

theorem keeps_mark (ids : Option (List ItemId)) (value : Bool) :
    Keeps grid (grid.mark ids value).2 := by
  have hflag := grid.sameUpTo_flag value (ids.getD grid.ids)
  by_cases hnone : (grid.flag value (ids.getD grid.ids)).1 = []
  · rw [mark_of_none hnone]
    exact .refl grid
  · rw [mark_of_some hnone]
    exact (Keeps.of_sameUpTo hflag fun _ => rfl).trans (.of_rest rfl rfl rfl fun _ h => h)

theorem keeps_setVideo (id : ItemId) (urls : Option VideoLinks) :
    Keeps grid ((grid.setVideo? id urls).getD grid) := by
  cases h : grid.setVideo? id urls with
  | none => exact .refl grid
  | some grid' => exact .of_sameUpTo (sameUpTo_setVideo h) fun _ => rfl

theorem keeps_mergePage (epoch : Nat) (page : Page) :
    Keeps grid (grid.mergePage epoch page).2 := by
  have hadd := grid.keeps_addAll page.refs
  rcases grid.mergePage_cases epoch page with h | ⟨active, hactive, h⟩
  · rw [h]
    exact .refl grid
  · rw [h]
    exact ⟨hadd.owes, hadd.epoch, fun _ ha => hactive.trans ha⟩

theorem keeps_withdrawPage (epoch : Nat) :
    Keeps grid ((grid.withdrawPage? epoch).getD grid) := by
  unfold withdrawPage?
  split
  · exact .refl grid
  · refine ⟨fun _ h => h, Nat.le_refl _, fun _ ha => ?_⟩
    rw [Option.getD_some, Option.isSome_map]
    exact ha

/-- Putting a request into a state sets its state, also where nothing changes. -/
theorem getD_moveRequest (kind : Request) (state : RequestStatus) :
    (grid.moveRequest? kind state).getD grid =
      { grid with requests := grid.requests.set kind state } := by
  unfold moveRequest?
  split
  · rename_i hsame
    rw [← hsame, Requests.set_get]
    rfl
  · rfl

/-- A request that does not load any more is not owed. -/
theorem pays_setRequest (kind : Request) {state : RequestStatus} (hstate : state ≠ .loading) :
    Pays (·.concerns kind) grid { grid with requests := grid.requests.set kind state } where
  owes debt hd := by
    cases debt with
    | record id => exact hd
    | page epoch =>
      simp only [owes, Requests.get_set] at hd
      split at hd
      · exact absurd hd.1 hstate
      · exact hd
    | bulk other =>
      simp only [owes, Requests.get_set] at hd
      split at hd
      · exact absurd hd.2 hstate
      · exact hd
  epoch := Nat.le_refl _
  active _ ha := ha
  paid debt hp hd := by
    cases debt with
    | record id => exact hp
    | page epoch =>
      cases hp
      exact hstate hd.1
    | bulk other =>
      cases hp
      simp only [owes, Requests.get_set] at hd
      exact hstate hd.2

end Grid

end MediaGrid
