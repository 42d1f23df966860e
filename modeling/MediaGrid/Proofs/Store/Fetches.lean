import Mathlib.Data.List.Induction
import MediaGrid.Proofs.Grid.Claims
import MediaGrid.Proofs.Store.Turns

/-!
# Fetches and the slots that wait for them

The claims that the waiting operations have still to settle carry different tickets, and every
slot that waits does so for one of them. A claim whose entry never left the grid is waited
for, so two fetches for one facet of such an entry would wait in one slot under two tickets.
Fetches for an entry that was dropped may still be under way when its id is claimed again;
they settle nothing.
-/

namespace MediaGrid

namespace Store

/-- Settling a claim either changes the slot that waits for it, which then waits no more, or
changes no slot. -/
theorem grid_settleClaim (facet : ByteFacet) (state : Store × LoadTally) (claim : Claim)
    (outcome : Except Failure String) :
    (state.1.grid.awaits facet claim = true ∧ ∃ slot, (∀ ticket, slot ≠ .pending ticket) ∧
      (settleClaim facet state claim outcome).1.grid =
        state.1.grid.modify claim.id (·.setSlot facet slot)) ∨
    (state.1.grid.awaits facet claim = false ∧
      (settleClaim facet state claim outcome).1.grid = state.1.grid) := by
  obtain ⟨store, tally⟩ := state
  cases outcome with
  | ok content =>
    simp only [settleClaim, fill]
    have hsome := store.grid.isSome_fill? facet claim
      (fun shelf : Shelf => shelf.put (store.draw shelf.created) facet.facet content) store.shelf
    cases hfill : store.grid.fill? facet claim
        (fun shelf : Shelf => shelf.put (store.draw shelf.created) facet.facet content)
        store.shelf with
    | none =>
      rw [hfill] at hsome
      exact Or.inr ⟨hsome.symm, rfl⟩
    | some filled =>
      obtain ⟨grid, shelf⟩ := filled
      obtain ⟨hawaits, -, hgrid⟩ := Grid.fill?_eq_some hfill
      exact Or.inl ⟨hawaits, _, fun _ => ByteSlot.noConfusion, hgrid⟩
  | error failure =>
    simp only [settleClaim]
    have hsome := store.grid.isSome_giveUp? facet claim
    cases hgive : store.grid.giveUp? facet claim with
    | none =>
      rw [hgive] at hsome
      exact Or.inr ⟨hsome.symm, rfl⟩
    | some grid =>
      obtain ⟨hawaits, hgrid⟩ := Grid.giveUp?_eq_some hgive
      exact Or.inl ⟨hawaits, _, fun _ => ByteSlot.noConfusion, hgrid⟩

/-- A claim that was settled is waited for no more, and every other claim is as before. -/
theorem pending_settleClaim (facet : ByteFacet) (state : Store × LoadTally) (claim : Claim)
    (outcome : Except Failure String) (id : ItemId) (other : ByteFacet) (ticket : Nat) :
    (settleClaim facet state claim outcome).1.grid.slotAt id other = .pending ticket ↔
      state.1.grid.slotAt id other = .pending ticket ∧
        (other, (⟨id, ticket⟩ : Claim)) ≠ (facet, claim) := by
  rcases grid_settleClaim facet state claim outcome with
    ⟨hawaits, slot, hslot, hgrid⟩ | ⟨hawaits, hgrid⟩
  · rw [hgrid, Grid.slotAt_settled hawaits]
    split
    · rename_i hsame
      obtain ⟨rfl, rfl⟩ := hsame
      rw [Grid.awaits_iff.mp hawaits]
      constructor
      · exact fun hp => absurd hp (hslot ticket)
      · rintro ⟨hp, hne⟩
        cases hp
        exact absurd rfl hne
    · rename_i hother
      refine ⟨fun hp => ⟨hp, fun he => hother ?_⟩, fun h => h.1⟩
      cases he
      exact ⟨rfl, rfl⟩
  · rw [hgrid]
    refine ⟨fun hp => ⟨hp, fun he => ?_⟩, fun h => h.1⟩
    cases he
    rw [Grid.awaits_iff.mpr hp] at hawaits
    cases hawaits

/-- Once a chunk is settled, none of its claims is waited for, and every other claim is as
before. -/
theorem pending_settleClaims (facet : ByteFacet) (state : Store × LoadTally)
    (settled : List ((Claim × Artifact) × Except Failure String)) (id : ItemId)
    (other : ByteFacet) (ticket : Nat) :
    (settleClaims facet state settled).1.grid.slotAt id other = .pending ticket ↔
      state.1.grid.slotAt id other = .pending ticket ∧
        (other, (⟨id, ticket⟩ : Claim)) ∉ settled.map fun row => (facet, row.1.1) := by
  induction settled generalizing state with
  | nil => simp [settleClaims]
  | cons head rest ih =>
    refine (ih _).trans ?_
    rw [pending_settleClaim, List.map_cons, List.mem_cons, not_or, and_assoc]

/-- Settling a claim fills no empty slot. -/
theorem empty_settleClaim (facet : ByteFacet) (state : Store × LoadTally) (claim : Claim)
    (outcome : Except Failure String) {id : ItemId} {other : ByteFacet}
    (h : state.1.grid.slotAt id other = .empty) :
    (settleClaim facet state claim outcome).1.grid.slotAt id other = .empty := by
  rcases grid_settleClaim facet state claim outcome with ⟨hawaits, slot, -, hgrid⟩ | ⟨-, hgrid⟩
  · have hother : ¬(id = claim.id ∧ other = facet) := by
      rintro ⟨rfl, rfl⟩
      rw [Grid.awaits_iff.mp hawaits] at h
      cases h
    rw [hgrid, Grid.slotAt_settled hawaits, if_neg hother, h]
  · rw [hgrid, h]

theorem empty_settleClaims (facet : ByteFacet) (state : Store × LoadTally)
    (settled : List ((Claim × Artifact) × Except Failure String)) {id : ItemId}
    {other : ByteFacet} (h : state.1.grid.slotAt id other = .empty) :
    (settleClaims facet state settled).1.grid.slotAt id other = .empty := by
  induction settled generalizing state with
  | nil => exact h
  | cons head rest ih => exact ih _ (empty_settleClaim facet state head.1.1 head.2 h)

theorem lastTicket_settleClaim (facet : ByteFacet) (state : Store × LoadTally) (claim : Claim)
    (outcome : Except Failure String) :
    (settleClaim facet state claim outcome).1.grid.lastTicket = state.1.grid.lastTicket := by
  rcases grid_settleClaim facet state claim outcome with ⟨-, slot, -, hgrid⟩ | ⟨-, hgrid⟩
  · rw [hgrid]
    rfl
  · rw [hgrid]

theorem lastTicket_settleClaims (facet : ByteFacet) (state : Store × LoadTally)
    (settled : List ((Claim × Artifact) × Except Failure String)) :
    (settleClaims facet state settled).1.grid.lastTicket = state.1.grid.lastTicket := by
  induction settled generalizing state with
  | nil => rfl
  | cons head rest ih => exact (ih _).trans (lastTicket_settleClaim facet state head.1.1 head.2)

end Store

/-- The claims of a chunk are those of its outcomes. -/
theorem ByteLoad.fetches_eq (load : ByteLoad) {outcomes : List (Except Failure String)}
    (h : outcomes.length = load.chunk.length) :
    load.fetches = (load.chunk.zip outcomes).map fun row => (load.facet, row.1.1) := by
  have hzip := List.map_fst_zip (Nat.le_of_eq h.symm)
  rw [fetches, ← hzip, List.map_map, hzip]
  rfl

namespace Service

/-- The claims to be settled have different tickets, and every slot that waits does so for one
of them. -/
structure Tracked (service : Service) : Prop where
  /-- No ticket is waited for twice. -/
  nodup : (service.targets.map (·.2.ticket)).Nodup
  /-- Every ticket was given out. -/
  le : ∀ target ∈ service.targets, target.2.ticket ≤ service.store.grid.lastTicket
  /-- Every slot that waits belongs to a claim that is to be settled. -/
  pending : ∀ id facet ticket, service.store.grid.slotAt id facet = .pending ticket →
    (facet, (⟨id, ticket⟩ : Claim)) ∈ service.targets

theorem tracked_fresh (config : Config) (draw : Nat → Uuid) : (fresh config draw).Tracked where
  nodup := .nil
  le _ h := by cases h
  pending _ _ _ h := by cases h

variable {before after : Service} {facet? : Option ByteFacet} {count : Nat}

/-- Every turn keeps track of the slots that wait. -/
theorem Moves.tracked (h : before.Moves after facet? count) (ht : before.Tracked) :
    after.Tracked := by
  cases h with
  | sheds hsheds htargets =>
    have hnodup := (htargets.map _).nodup_iff.mpr ht.nodup
    refine ⟨hnodup, fun target hm => ?_, fun id facet ticket hp => ?_⟩
    · rw [hsheds.lastTicket]
      exact ht.le target (htargets.mem_iff.mp hm)
    · exact htargets.mem_iff.mpr (ht.pending id facet ticket (hsheds.pending id facet ticket hp))
  | claims middle facet ids hfacet hsheds hstore htargets =>
    obtain ⟨htickets, hlast⟩ := middle.grid.tickets_claimAll facet ids
    rw [hsheds.lastTicket] at htickets hlast
    have hmap : ((middle.grid.claimAll facet ids).1.map
        (fun target => (facet, target.1))).map (·.2.ticket) =
          (middle.grid.claimAll facet ids).1.map (·.1.ticket) := by
      rw [List.map_map]
      rfl
    refine ⟨?_, fun target hm => ?_, fun id other ticket hp => ?_⟩
    · -- The new tickets lie above all that were given out before.
      rw [(htargets.map _).nodup_iff, List.map_append, hmap, htickets, List.nodup_append]
      refine ⟨List.nodup_range', ht.nodup, fun a ha b hb => ?_⟩
      obtain ⟨target, hm, rfl⟩ := List.mem_map.mp hb
      have hle := ht.le target hm
      rw [List.mem_range'_1] at ha
      omega
    · rw [hstore]
      refine Nat.le_trans ?_ (Nat.le_of_eq hlast.symm)
      rcases List.mem_append.mp (htargets.mem_iff.mp hm) with hnew | hold
      · have hticket := List.mem_map_of_mem (f := (·.2.ticket)) hnew
        rw [hmap, htickets, List.mem_range'_1] at hticket
        omega
      · exact Nat.le_add_right_of_le (ht.le target hold)
    · rw [hstore] at hp
      refine htargets.mem_iff.mpr (List.mem_append.mpr ?_)
      rcases Grid.pending_claimAll.mp hp with hp | ⟨rfl, hm⟩
      · exact Or.inr (ht.pending id other ticket (hsheds.pending id other ticket hp))
      · obtain ⟨target, htarget, he⟩ := List.mem_map.mp hm
        exact Or.inl (List.mem_map.mpr ⟨target, htarget, congrArg (Prod.mk other) he⟩)
  | settles load outcomes others hlength hstore hbefore hafter =>
    have hnodup := (hbefore.map _).nodup_iff.mp ht.nodup
    rw [List.map_append] at hnodup
    refine ⟨?_, fun target hm => ?_, fun id other ticket hp => ?_⟩
    · exact (hafter.map _).nodup_iff.mpr (List.nodup_append.mp hnodup).2.1
    · rw [hstore, Store.lastTicket_settleClaims]
      exact ht.le target (hbefore.mem_iff.mpr (List.mem_append_right _ (hafter.mem_iff.mp hm)))
    · rw [hstore, Store.pending_settleClaims, ← load.fetches_eq hlength] at hp
      have hm := hbefore.mem_iff.mp (ht.pending id other ticket hp.1)
      exact hafter.mem_iff.mpr ((List.mem_append.mp hm).resolve_left hp.2)

theorem tracked_run {service : Service} (ht : service.Tracked) (turns : List Turn) :
    (service.run turns).Tracked :=
  run_keeps (fun service turn h => (service.turn_moves turn).tracked h) ht turns

/-- An empty slot is filled by a turn that claims its facet, and by no other. -/
theorem Moves.empty (h : before.Moves after facet? count) {id : ItemId} {facet : ByteFacet}
    (hfacet : facet? ≠ some facet) (hempty : before.store.grid.slotAt id facet = .empty) :
    after.store.grid.slotAt id facet = .empty := by
  have hshed : ∀ {middle : Store}, before.store.Sheds middle →
      middle.grid.slotAt id facet = .empty :=
    fun hsheds => (hsheds.slotAt_cases id facet).elim (fun h => h) fun hsame => hsame.trans hempty
  cases h with
  | sheds hsheds htargets => exact hshed hsheds
  | claims middle claimed ids hclaimed hsheds hstore htargets =>
    have hne : facet ≠ claimed := by
      rintro rfl
      exact hfacet hclaimed
    rw [hstore, Grid.slotAt_claimAll (Or.inl hne)]
    exact hshed hsheds
  | settles load outcomes others hlength hstore hbefore hafter =>
    rw [hstore]
    exact Store.empty_settleClaims _ _ _ hempty

/-- The entry of a claim stayed in the grid: it was there whenever the operations were suspended
and the claim was still to be settled. -/
def Stayed (service : Service) (turns : List Turn) (target : ByteFacet × Claim) : Prop :=
  ∀ early late, turns = early ++ late → target ∈ (service.run early).targets →
    (service.run early).store.grid.contains target.2.id = true

/-- A claim whose entry stays in the grid is waited for from when it is handed out until it is
settled. -/
theorem Moves.awaited (h : before.Moves after facet? count) (ht : before.Tracked)
    {target : ByteFacet × Claim} (hm : target ∈ after.targets)
    (hin : after.store.grid.contains target.2.id = true)
    (hbefore : target ∈ before.targets →
      before.store.grid.slotAt target.2.id target.1 = .pending target.2.ticket) :
    after.store.grid.slotAt target.2.id target.1 = .pending target.2.ticket := by
  cases h with
  | sheds hsheds htargets =>
    rcases hsheds.kept _ _ _ (hbefore (htargets.mem_iff.mp hm)) with hp | hout
    · exact hp
    · rw [hout] at hin
      cases hin
  | claims middle facet ids hfacet hsheds hstore htargets =>
    rw [hstore] at hin ⊢
    refine Grid.pending_claimAll.mpr ?_
    rcases List.mem_append.mp (htargets.mem_iff.mp hm) with hnew | hold
    · obtain ⟨claimed, hclaimed, rfl⟩ := List.mem_map.mp hnew
      exact Or.inr ⟨rfl, List.mem_map.mpr ⟨claimed, hclaimed, rfl⟩⟩
    · rcases hsheds.kept _ _ _ (hbefore hold) with hp | hout
      · exact Or.inl hp
      · -- Claiming drops no entry, so the entry was there before.
        have hsame := (middle.grid.sameUpTo_claimAll facet ids).contains_eq target.2.id
        rw [hout] at hsame
        exact absurd (hsame.symm.trans hin) Bool.false_ne_true
  | settles load outcomes others hlength hstore hb hafter =>
    have hother := hafter.mem_iff.mp hm
    rw [hstore, Store.pending_settleClaims, ← load.fetches_eq hlength]
    refine ⟨hbefore (hb.mem_iff.mpr (List.mem_append_right _ hother)), fun hfetch => ?_⟩
    -- A claim of the chunk has a ticket that no other claim has.
    have hnodup := (hb.map _).nodup_iff.mp ht.nodup
    rw [List.map_append] at hnodup
    exact (List.nodup_append.mp hnodup).2.2 _ (List.mem_map_of_mem hfetch) _
      (List.mem_map_of_mem hother) rfl

theorem awaited_of_stayed (config : Config) (draw : Nat → Uuid) (turns : List Turn)
    {target : ByteFacet × Claim} (hm : target ∈ ((fresh config draw).run turns).targets)
    (hstay : (fresh config draw).Stayed turns target) :
    ((fresh config draw).run turns).store.grid.slotAt target.2.id target.1 =
      .pending target.2.ticket := by
  induction turns using List.reverseRecOn with
  | nil => cases hm
  | append_singleton early turn ih =>
    have hin := hstay (early ++ [turn]) [] (List.append_nil _).symm hm
    rw [run_concat] at hm hin ⊢
    refine (turn_moves _ turn).awaited (tracked_run (tracked_fresh config draw) early) hm hin
      fun hbefore => ih hbefore fun first rest he => ?_
    exact hstay first (rest ++ [turn]) (by rw [he, List.append_assoc])

/-- What is fetched is still to be settled. -/
theorem fetches_sublist (service : Service) : service.fetches.Sublist service.targets := by
  unfold fetches targets
  induction service.waiting with
  | nil => exact .refl _
  | cons pending rest ih =>
    refine List.Sublist.append ?_ ih
    cases pending with
    | contents load => exact (List.sublist_append_left _ _).map _
    | _ => exact .refl _

/-- Entries that stayed in the grid are fetched once for each facet at most. -/
theorem fetches_alone (config : Config) (draw : Nat → Uuid) (turns : List Turn) :
    ((fresh config draw).run turns).fetches.Pairwise fun first second =>
      ¬(first.1 = second.1 ∧ first.2.id = second.2.id ∧
        (fresh config draw).Stayed turns first ∧ (fresh config draw).Stayed turns second) := by
  have hsub := ((fresh config draw).run turns).fetches_sublist
  have hnodup := (hsub.map (·.2.ticket)).nodup (tracked_run (tracked_fresh config draw) turns).nodup
  refine (List.pairwise_map.mp hnodup).imp_of_mem fun {first second} hm hm' hne => ?_
  rintro ⟨hfacet, hid, hstay, hstay'⟩
  have hp := awaited_of_stayed config draw turns (hsub.subset hm) hstay
  have hp' := awaited_of_stayed config draw turns (hsub.subset hm') hstay'
  rw [hfacet, hid, hp'] at hp
  exact hne (ByteSlot.pending.inj hp).symm

/-- The protocol of claims. In any run of the grid, no ticket is handed out twice and no claim
is settled twice; a content is accepted for a claim, or the claim given up, exactly when it
was handed out for the facet, was not settled, and its entry was not dropped since; otherwise
nothing changes and no content is put in its place. In any run of the store, an entry that
stayed in the grid is never fetched twice at once for the same facet. -/
theorem claims_settle_once :
    (∀ actions : List GridAction,
      let ledger := Ledger.blank.follow .empty actions
      let grid := Grid.empty.run actions
      (ledger.issued.map (·.2.ticket)).Nodup ∧ ledger.settled.Nodup ∧
      ∀ facet claim,
        (∀ (σ : Type) (create : σ → Handle × σ) (place : σ),
          (grid.fill? facet claim create place).isSome ↔ ledger.isOpen facet claim) ∧
        ((grid.giveUp? facet claim).isSome ↔ ledger.isOpen facet claim) ∧
        (¬ledger.isOpen facet claim →
          (∀ handle, grid.act (.fill facet claim handle) = grid) ∧
          grid.act (.giveUp facet claim) = grid ∧
          ∀ (store : Store) (content : String), store.grid = grid →
            store.fill facet claim content = (false, store))) ∧
    ∀ (config : Config) (draw : Nat → Uuid) (turns : List Turn),
      ((fresh config draw).run turns).fetches.Pairwise fun first second =>
        ¬(first.1 = second.1 ∧ first.2.id = second.2.id ∧
          (fresh config draw).Stayed turns first ∧ (fresh config draw).Stayed turns second) := by
  refine ⟨fun actions => ?_, fetches_alone⟩
  have hledger := Ledger.agrees_run actions
  intro ledger grid
  have hopen : ∀ facet claim, grid.awaits facet claim = true ↔ ledger.isOpen facet claim :=
    fun facet claim => Grid.awaits_iff.trans (hledger.pending_iff facet claim)
  refine ⟨hledger.nodup_tickets, hledger.nodup_settled, fun facet claim =>
    ⟨fun σ create place => ?_, ?_, fun hclosed => ?_⟩⟩
  · rw [Grid.isSome_fill?]
    exact hopen facet claim
  · rw [Grid.isSome_giveUp?]
    exact hopen facet claim
  · have hawaits : grid.awaits facet claim = false :=
      Bool.eq_false_iff.mpr fun h => hclosed ((hopen facet claim).mp h)
    refine ⟨fun handle => ?_, ?_, fun store content hgrid => ?_⟩
    · simp only [Grid.act, Grid.fill?, hawaits]
      rfl
    · simp only [Grid.act, Grid.giveUp?, hawaits]
      rfl
    · simp only [Store.fill, Grid.fill?, hgrid, hawaits]
      rfl

end Service

end MediaGrid
