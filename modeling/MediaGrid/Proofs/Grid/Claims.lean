import Mathlib.Data.List.Nodup
import MediaGrid.Proofs.Grid.Run
import MediaGrid.Proofs.Grid.Slots

/-!
# What becomes of claims

A ledger beside a run of the grid notes which claims were handed out, which of them were
settled, and which lost their entry. A claim is open when it was handed out for its facet,
was not settled, and its entry is still the one it was made of. The slots that wait are
exactly those of the open claims; so a claim that is not open can settle nothing, also where
its id has an entry again and was claimed again.
-/

namespace MediaGrid

/-- What happened to the claims of a run. -/
structure Ledger where
  /-- The claims that were handed out, with their facets. -/
  issued : List (ByteFacet × Claim)
  /-- The claims that were settled, by a content or by being given up. -/
  settled : List Claim
  /-- The claims whose entry was dropped after they were handed out. -/
  dropped : List Claim

namespace Ledger

/-- The ledger before anything was claimed. -/
def blank : Ledger := ⟨[], [], []⟩

/-- Notes what an action on a grid does to the claims. -/
def record (ledger : Ledger) (grid : Grid) : GridAction → Ledger
  | .claim facet ids =>
    { ledger with
      issued := ledger.issued ++ (grid.claimAll facet ids).1.map fun target => (facet, target.1) }
  | .fill facet claim handle =>
    if (grid.fill? facet claim (fun place : Unit => (handle, place)) ()).isSome then
      { ledger with settled := claim :: ledger.settled }
    else ledger
  | .giveUp facet claim =>
    if (grid.giveUp? facet claim).isSome then { ledger with settled := claim :: ledger.settled }
    else ledger
  | .discard ids =>
    { ledger with
      dropped := ledger.dropped ++
        (ledger.issued.map (·.2)).filter (·.id ∈ (grid.discard ids).1.ids) }
  | .clear _ => { ledger with dropped := ledger.dropped ++ ledger.issued.map (·.2) }
  | _ => ledger

/-- The ledger after actions taken one after the other. -/
def follow (ledger : Ledger) (grid : Grid) : List GridAction → Ledger
  | [] => ledger
  | action :: rest => (ledger.record grid action).follow (grid.act action) rest

/-- The claim was handed out for the facet, was not settled, and its entry was not dropped. -/
def isOpen (ledger : Ledger) (facet : ByteFacet) (claim : Claim) : Prop :=
  (facet, claim) ∈ ledger.issued ∧ claim ∉ ledger.settled ∧ claim ∉ ledger.dropped

/-- The ledger agrees with the grid. -/
structure Agrees (ledger : Ledger) (grid : Grid) : Prop where
  /-- The tickets were handed out in order. -/
  tickets : ledger.issued.map (·.2.ticket) = List.range' 1 grid.lastTicket
  /-- A slot waits for a claim exactly when the claim is open. -/
  pending_iff : ∀ facet claim,
    grid.slotAt claim.id facet = .pending claim.ticket ↔ ledger.isOpen facet claim
  /-- What was settled was handed out. -/
  settled_issued : ∀ claim ∈ ledger.settled, ∃ facet, (facet, claim) ∈ ledger.issued
  /-- What was dropped was handed out. -/
  dropped_issued : ∀ claim ∈ ledger.dropped, ∃ facet, (facet, claim) ∈ ledger.issued
  /-- No claim was settled twice. -/
  nodup_settled : ledger.settled.Nodup

theorem agrees_empty : blank.Agrees Grid.empty where
  tickets := rfl
  pending_iff facet claim := by
    simp [isOpen, blank, Grid.slotAt_of_none (show Grid.empty.find? claim.id = none from rfl)]
  settled_issued _ h := by cases h
  dropped_issued _ h := by cases h
  nodup_settled := .nil

namespace Agrees

variable {ledger : Ledger} {grid grid' : Grid}

/-- No ticket was handed out twice. -/
theorem nodup_tickets (h : ledger.Agrees grid) : (ledger.issued.map (·.2.ticket)).Nodup := by
  rw [h.tickets]
  exact List.nodup_range'

theorem ticket_le (h : ledger.Agrees grid) {facet : ByteFacet} {claim : Claim}
    (hm : (facet, claim) ∈ ledger.issued) : claim.ticket ≤ grid.lastTicket := by
  have hticket : claim.ticket ∈ ledger.issued.map (·.2.ticket) :=
    List.mem_map.mpr ⟨(facet, claim), hm, rfl⟩
  rw [h.tickets, List.mem_range'_1] at hticket
  omega

/-- A claim belongs to one facet. -/
theorem facet_unique (h : ledger.Agrees grid) {facet other : ByteFacet} {claim : Claim}
    (ha : (facet, claim) ∈ ledger.issued) (hb : (other, claim) ∈ ledger.issued) :
    facet = other :=
  congrArg Prod.fst (List.inj_on_of_nodup_map h.nodup_tickets ha hb rfl)

/-- What changes neither waiting slots nor tickets keeps the agreement. -/
theorem congr (h : ledger.Agrees grid)
    (hslots : ∀ id facet ticket,
      grid'.slotAt id facet = .pending ticket ↔ grid.slotAt id facet = .pending ticket)
    (hlast : grid'.lastTicket = grid.lastTicket) : ledger.Agrees grid' :=
  { h with
    tickets := by rw [hlast, h.tickets]
    pending_iff := fun facet claim => (hslots _ _ _).trans (h.pending_iff facet claim) }

/-- What leaves the slots alone keeps the agreement. -/
theorem same (h : ledger.Agrees grid) (hsame : Grid.SameBytes grid grid') :
    ledger.Agrees grid' :=
  h.congr (fun id facet _ => by rw [hsame.slots id facet]) hsame.lastTicket

/-- Claims that are made get tickets that no earlier claim has, so they are open. -/
theorem claim (h : ledger.Agrees grid) (facet : ByteFacet) (ids : List ItemId) :
    (ledger.record grid (.claim facet ids)).Agrees (grid.act (.claim facet ids)) := by
  obtain ⟨htickets, hlast⟩ := Grid.tickets_claimAll grid facet ids
  -- The tickets of the new claims lie above those of all earlier ones.
  have hfresh : ∀ claim ∈ (grid.claimAll facet ids).1.map (·.1),
      ∀ other, (other, claim) ∉ ledger.issued := by
    intro claim hm other hold
    obtain ⟨target, htarget, rfl⟩ := List.mem_map.mp hm
    have hticket : target.1.ticket ∈ (grid.claimAll facet ids).1.map (·.1.ticket) :=
      List.mem_map.mpr ⟨target, htarget, rfl⟩
    rw [htickets, List.mem_range'_1] at hticket
    have hle := h.ticket_le hold
    omega
  refine ⟨?_, ?_, ?_, ?_, h.nodup_settled⟩
  · simp only [record, Grid.act, List.map_append, h.tickets, List.map_map]
    refine (congrArg (List.range' 1 grid.lastTicket ++ ·) htickets).trans ?_
    rw [Nat.add_comm grid.lastTicket 1, List.range'_append_1, hlast]
  · intro other claim
    simp only [Grid.act, Grid.pending_claimAll, h.pending_iff]
    simp only [isOpen, record, List.mem_append]
    constructor
    · rintro (⟨hi, hs, hd⟩ | ⟨rfl, hm⟩)
      · exact ⟨Or.inl hi, hs, hd⟩
      · refine ⟨Or.inr ?_, fun hs => ?_, fun hd => ?_⟩
        · obtain ⟨target, htarget, he⟩ := List.mem_map.mp hm
          exact List.mem_map.mpr ⟨target, htarget, congrArg (Prod.mk other) he⟩
        · obtain ⟨old, hold⟩ := h.settled_issued claim hs
          exact hfresh claim hm old hold
        · obtain ⟨old, hold⟩ := h.dropped_issued claim hd
          exact hfresh claim hm old hold
    · rintro ⟨hi | hm, hs, hd⟩
      · exact Or.inl ⟨hi, hs, hd⟩
      · obtain ⟨target, htarget, he⟩ := List.mem_map.mp hm
        obtain ⟨rfl, rfl⟩ := Prod.mk.inj he
        exact Or.inr ⟨rfl, List.mem_map.mpr ⟨target, htarget, rfl⟩⟩
  · intro claim hs
    obtain ⟨other, hi⟩ := h.settled_issued claim hs
    exact ⟨other, List.mem_append_left _ hi⟩
  · intro claim hd
    obtain ⟨other, hi⟩ := h.dropped_issued claim hd
    exact ⟨other, List.mem_append_left _ hi⟩

/-- A claim that is settled was open and is so no more. -/
theorem settle (h : ledger.Agrees grid) {facet : ByteFacet} {claim : Claim}
    (hawaits : grid.awaits facet claim = true) {slot : ByteSlot}
    (hslot : ∀ ticket, slot ≠ .pending ticket) :
    Agrees { ledger with settled := claim :: ledger.settled }
      (grid.modify claim.id (·.setSlot facet slot)) := by
  have hpending := Grid.awaits_iff.mp hawaits
  obtain ⟨hissued, hunsettled, -⟩ := (h.pending_iff facet claim).mp hpending
  refine ⟨h.tickets, ?_, ?_, h.dropped_issued, List.nodup_cons.mpr ⟨hunsettled, h.nodup_settled⟩⟩
  · intro other held
    rw [Grid.slotAt_settled hawaits]
    simp only [isOpen, List.mem_cons, not_or]
    split
    · rename_i hsame
      obtain ⟨hid, rfl⟩ := hsame
      constructor
      · exact fun hp => absurd hp (hslot _)
      · rintro ⟨hi, ⟨hne, hs⟩, hd⟩
        -- The slot holds one ticket, so the two claims would be one.
        have hheld := (h.pending_iff other held).mpr ⟨hi, hs, hd⟩
        rw [hid, hpending] at hheld
        refine absurd ?_ hne
        cases held
        cases claim
        simp only [ByteSlot.pending.injEq] at hheld hid
        rw [hid, hheld]
    · rename_i hother
      rw [h.pending_iff]
      constructor
      · rintro ⟨hi, hs, hd⟩
        refine ⟨hi, ⟨?_, hs⟩, hd⟩
        rintro rfl
        exact hother ⟨rfl, h.facet_unique hi hissued⟩
      · rintro ⟨hi, ⟨-, hs⟩, hd⟩
        exact ⟨hi, hs, hd⟩
  · intro held hs
    rcases List.mem_cons.mp hs with rfl | hs
    · exact ⟨facet, hissued⟩
    · exact h.settled_issued held hs

/-- Removing entries drops the claims made of them. -/
theorem discard (h : ledger.Agrees grid) (ids : List ItemId) :
    (ledger.record grid (.discard ids)).Agrees (grid.act (.discard ids)) := by
  refine ⟨?_, ?_, h.settled_issued, ?_, h.nodup_settled⟩
  · simp only [record, Grid.act, Grid.lastTicket_discard, h.tickets]
  · intro facet claim
    simp only [Grid.act, Grid.slotAt_discard]
    simp only [isOpen, record, List.mem_append, List.mem_filter, decide_eq_true_eq, not_or, not_and]
    split
    · rename_i hid
      constructor
      · exact fun hp => by cases hp
      · rintro ⟨hi, hs, hd, hkept⟩
        -- The entry of an open claim is there, so it was removed.
        have hpending := (h.pending_iff facet claim).mpr ⟨hi, hs, hd⟩
        have hslot : grid.slotAt claim.id facet ≠ .empty := by
          rw [hpending]
          exact ByteSlot.noConfusion
        obtain ⟨entry, hentry⟩ := Grid.exists_entry_of_slotAt hslot
        refine absurd ?_ (hkept (List.mem_map.mpr ⟨_, hi, rfl⟩))
        exact (Grid.mem_ids_dropEntries grid ids claim.id).mpr ⟨hid, by rw [hentry]; rfl⟩
    · rename_i hid
      rw [h.pending_iff]
      constructor
      · rintro ⟨hi, hs, hd⟩
        refine ⟨hi, hs, hd, fun _ hremoved => hid ?_⟩
        exact ((Grid.mem_ids_dropEntries grid ids claim.id).mp hremoved).1
      · rintro ⟨hi, hs, hd, -⟩
        exact ⟨hi, hs, hd⟩
  · intro claim hd
    rcases List.mem_append.mp hd with hd | hd
    · exact h.dropped_issued claim hd
    · obtain ⟨issued, hi, rfl⟩ := List.mem_map.mp (List.mem_filter.mp hd).1
      exact ⟨issued.1, hi⟩

/-- Clearing the view drops every claim. -/
theorem clear (h : ledger.Agrees grid) (keepQuery : Bool) :
    (ledger.record grid (.clear keepQuery)).Agrees (grid.act (.clear keepQuery)) := by
  refine ⟨h.tickets, ?_, h.settled_issued, ?_, h.nodup_settled⟩
  · intro facet claim
    simp only [Grid.act, Grid.slotAt_clear]
    constructor
    · exact fun hp => by cases hp
    · rintro ⟨hi, -, hd⟩
      exact absurd (List.mem_append_right _ (List.mem_map.mpr ⟨_, hi, rfl⟩)) hd
  · intro claim hd
    rcases List.mem_append.mp hd with hd | hd
    · exact h.dropped_issued claim hd
    · obtain ⟨issued, hi, rfl⟩ := List.mem_map.mp hd
      exact ⟨issued.1, hi⟩

/-- A content that is accepted settles its claim, and any other is not noted. -/
theorem fill (h : ledger.Agrees grid) (facet : ByteFacet) (claim : Claim) (handle : Handle) :
    (ledger.record grid (.fill facet claim handle)).Agrees
      (grid.act (.fill facet claim handle)) := by
  simp only [record, Grid.act]
  cases hfill : grid.fill? facet claim (fun place : Unit => (handle, place)) () with
  | none => exact h
  | some filled =>
    obtain ⟨grid', place⟩ := filled
    obtain ⟨hawaits, -, rfl⟩ := Grid.fill?_eq_some hfill
    simp only [Option.isSome_some, if_true, Option.map_some, Option.getD_some]
    exact h.settle hawaits fun ticket => ByteSlot.noConfusion

theorem giveUp (h : ledger.Agrees grid) (facet : ByteFacet) (claim : Claim) :
    (ledger.record grid (.giveUp facet claim)).Agrees (grid.act (.giveUp facet claim)) := by
  simp only [record, Grid.act]
  cases hgive : grid.giveUp? facet claim with
  | none => exact h
  | some grid' =>
    obtain ⟨hawaits, hgrid⟩ := Grid.giveUp?_eq_some hgive
    simp only [Option.isSome_some, if_true, Option.getD_some, hgrid]
    exact h.settle hawaits fun ticket => ByteSlot.noConfusion

/-- Every operation keeps the agreement. -/
theorem act (h : ledger.Agrees grid) (action : GridAction) :
    (ledger.record grid action).Agrees (grid.act action) := by
  cases action with
  | claim facet ids => exact h.claim facet ids
  | fill facet claim handle => exact h.fill facet claim handle
  | giveUp facet claim => exact h.giveUp facet claim
  | discard ids => exact h.discard ids
  | clear keepQuery => exact h.clear keepQuery
  | unload facet ids =>
    exact h.congr (fun _ _ _ => Grid.pending_unload)
      (Grid.sameUpTo_unload grid facet ids).lastTicket_eq
  | add refs =>
    exact h.congr (fun _ _ _ => by rw [Grid.act, Grid.slotAt_addAll])
      (Grid.lastTicket_addAll grid refs)
  | mergePage epoch page =>
    exact h.congr (fun _ _ _ => by rw [Grid.act, Grid.slotAt_mergePage])
      (Grid.lastTicket_mergePage grid epoch page)
  | claimRecords ids => exact h.same (.of_records (Grid.sameUpTo_claimRecords grid ids))
  | settleRecords claimed records =>
    exact h.same (.of_records (Grid.sameUpTo_settleRecords grid claimed records))
  | giveUpRecords ids => exact h.same (.of_records (Grid.sameUpTo_giveUpRecords grid ids))
  | amendRecords update ids =>
    exact h.same (.of_records (Grid.sameUpTo_amendRecords grid update ids))
  | openQuery queries page => exact h.same (.of_entries rfl rfl)
  | askFurther page => exact h.same (Grid.sameBytes_askFurther grid page)
  | withdrawPage epoch => exact h.same (Grid.sameBytes_withdrawPage grid epoch)
  | mark ids value => exact h.same (Grid.sameBytes_mark grid ids value)
  | moveRequest kind state => exact h.same (Grid.sameBytes_moveRequest grid kind state)
  | beginOnSelection kind => exact h.same (Grid.sameBytes_beginOnSelection grid kind)
  | setVideo id urls => exact h.same (Grid.sameBytes_setVideo grid id urls)
  | setSearch search menu => exact h.same (Grid.sameBytes_setSearch grid search menu)
  | setCompletions completions => exact h.same (Grid.sameBytes_setCompletions grid completions)
  | setDialog isOpen => exact h.same (Grid.sameBytes_setDialog grid isOpen)

/-- The agreement lasts over a run. -/
theorem follow (h : ledger.Agrees grid) (actions : List GridAction) :
    (ledger.follow grid actions).Agrees (grid.run actions) := by
  induction actions generalizing ledger grid with
  | nil => exact h
  | cons action rest ih => exact ih (h.act action)

end Agrees

/-- The ledger of a run from the empty grid agrees with the grid at its end. -/
theorem agrees_run (actions : List GridAction) :
    (blank.follow .empty actions).Agrees (Grid.empty.run actions) :=
  agrees_empty.follow actions

end Ledger

end MediaGrid
