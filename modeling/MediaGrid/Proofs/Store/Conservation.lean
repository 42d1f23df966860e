import MediaGrid.Proofs.Store.Turns

/-!
# Conservation of contents

In every run, the contents on the shelf are those of the loaded slots, one for one, and the
shelf has counted each outcome of a fetch that was accepted and each slot that was loaded and
is so no more. A content that arrives late, for a slot that was claimed again or whose entry
is gone, is neither put on the shelf nor counted. All this assumes that contents never got
the same identifier, as far as identifiers were drawn.
-/

namespace MediaGrid

/-- The mark that the content of a loaded slot has on the shelf. -/
def Holding.mark (holding : Holding) : Uuid × Facet := (holding.handle.id, holding.facet.facet)

/-- The first `count` identifiers differ from each other. -/
def DrawsApart (draw : Nat → Uuid) (count : Nat) : Prop :=
  ∀ i < count, ∀ j < count, draw i = draw j → i = j

theorem DrawsApart.mono {draw : Nat → Uuid} {count more : Nat} (h : DrawsApart draw more)
    (hle : count ≤ more) : DrawsApart draw count :=
  fun i hi j hj he => h i (Nat.lt_of_lt_of_le hi hle) j (Nat.lt_of_lt_of_le hj hle) he

/-- How many slots were loaded and do not hold their content any more. -/
def Grid.lost (before after : Grid) : Nat :=
  before.holdings.countP fun holding =>
    after.slotAt holding.id holding.facet ≠ .loaded holding.handle

namespace Grid

variable {before after : Grid}

/-- Where every loaded slot still is, none was lost. -/
theorem lost_eq_zero (h : ∀ holding ∈ before.holdings, holding ∈ after.holdings) :
    before.lost after = 0 := by
  refine List.countP_eq_zero.mpr fun holding hm => ?_
  simpa using mem_holdings.mp (h holding hm)

/-- The holdings that are gone are the slots that were lost. -/
theorem lost_eq_length {gone : List Holding}
    (h : before.holdings.Perm (gone ++ after.holdings)) : before.lost after = gone.length := by
  have hnodup := h.nodup_iff.mp before.nodup_holdings
  have hkept : after.holdings.countP (fun holding =>
      after.slotAt holding.id holding.facet ≠ .loaded holding.handle) = 0 :=
    lost_eq_zero fun _ hm => hm
  rw [lost, h.countP_eq, List.countP_append, hkept, Nat.add_zero, List.countP_eq_length]
  intro holding hgone
  rw [decide_eq_true_eq]
  exact fun hslot =>
    (List.nodup_append.mp hnodup).2.2 _ hgone _ (mem_holdings.mpr hslot) rfl

/-- Claiming loses no slot and hides no loss. -/
theorem lost_claimAll (facet : ByteFacet) (ids : List ItemId) :
    before.lost (after.claimAll facet ids).2 = before.lost after :=
  List.countP_congr fun _ _ => by simp only [ne_eq, loaded_claimAll]

end Grid

namespace Store

/-- The shelf keeps exactly the contents of the loaded slots, under identifiers drawn so far. -/
structure Balanced (store : Store) : Prop where
  /-- The marks on the shelf are those of the loaded slots. -/
  marks : store.shelf.marks.Perm (store.grid.holdings.map Holding.mark)
  /-- Identifiers on the shelf were drawn. -/
  drawn : ∀ key, store.shelf.keeps key = true →
    ∃ n < store.shelf.created, key = store.draw n

theorem balanced_fresh (config : Config) (draw : Nat → Uuid) : (fresh config draw).Balanced where
  marks := .nil
  drawn _ h := by cases h

variable {before after : Store}

/-- Handing back puts nothing on the shelf. -/
theorem Sheds.created (h : before.Sheds after) :
    after.shelf.created = before.shelf.created := by
  obtain ⟨gone, -, hshelf⟩ := h.holdings
  rw [hshelf, Shelf.created_takeBackAll]

/-- What is handed back is taken off the shelf and counted. -/
theorem Sheds.balanced (h : before.Sheds after) (hb : before.Balanced) :
    after.Balanced ∧
      after.shelf.released = before.shelf.released + before.grid.lost after.grid := by
  obtain ⟨gone, hperm, hshelf⟩ := h.holdings
  have hmarks : before.shelf.marks.Perm
      ((gone.map fun holding => (holding.handle, holding.facet.facet)).map
        (fun mark => (mark.1.id, mark.2)) ++ after.grid.holdings.map Holding.mark) := by
    have hall := hb.marks.trans (hperm.map Holding.mark)
    rw [List.map_append] at hall
    rw [List.map_map]
    exact hall
  obtain ⟨hrest, hreleased⟩ := Shelf.takeBackAll_marks hmarks
  rw [List.map_map] at hrest hreleased
  refine ⟨⟨?_, fun key hkey => ?_⟩, ?_⟩
  · rw [hshelf]
    exact hrest
  · -- What is kept after was kept before, under an identifier drawn then.
    rw [h.created, h.draw]
    apply hb.drawn
    rw [Shelf.keeps_iff] at hkey ⊢
    obtain ⟨facet, hm⟩ := hkey
    rw [hshelf] at hm
    exact ⟨facet, hmarks.mem_iff.mpr (List.mem_append_right _ (hrest.mem_iff.mp hm))⟩
  · rw [hshelf, Grid.lost_eq_length hperm]
    exact hreleased.trans (by rw [List.length_map])

namespace Balanced

variable {store : Store} {id id' : ItemId} {facet facet' : ByteFacet} {handle : Handle}

/-- Every content that is kept belongs to a loaded slot. -/
theorem exists_slot (hb : store.Balanced) {key : Uuid} {content : Content}
    (h : store.shelf.find? key = some content) :
    ∃ id facet, store.grid.slotAt id facet = .loaded ⟨key⟩ ∧ content.facet = facet.facet := by
  have hm := hb.marks.mem_iff.mp (Shelf.mem_marks.mpr ⟨content, h, rfl⟩)
  obtain ⟨holding, hholding, he⟩ := List.mem_map.mp hm
  obtain ⟨rfl, hfacet⟩ := Prod.mk.inj he
  exact ⟨holding.id, holding.facet, Grid.mem_holdings.mp hholding, hfacet.symm⟩

/-- The content of every loaded slot is kept. -/
theorem exists_content (hb : store.Balanced) (h : store.grid.slotAt id facet = .loaded handle) :
    ∃ content, store.shelf.find? handle.id = some content ∧ content.facet = facet.facet := by
  have hm : (⟨id, facet, handle⟩ : Holding) ∈ store.grid.holdings := Grid.mem_holdings.mpr h
  exact Shelf.mem_marks.mp (hb.marks.mem_iff.mpr (List.mem_map.mpr ⟨_, hm, rfl⟩))

/-- No content belongs to two slots. -/
theorem slot_unique (hb : store.Balanced) (h : store.grid.slotAt id facet = .loaded handle)
    (h' : store.grid.slotAt id' facet' = .loaded handle) : id = id' ∧ facet = facet' := by
  have hkeys : (store.grid.holdings.map fun holding => holding.handle.id).Nodup := by
    have hnodup := ((hb.marks.map (·.1)).nodup_iff).mp store.shelf.nodup_keys
    rwa [List.map_map] at hnodup
  have hm : (⟨id, facet, handle⟩ : Holding) ∈ store.grid.holdings := Grid.mem_holdings.mpr h
  have hm' : (⟨id', facet', handle⟩ : Holding) ∈ store.grid.holdings := Grid.mem_holdings.mpr h'
  cases List.inj_on_of_nodup_map hkeys hm hm' rfl
  exact ⟨rfl, rfl⟩

/-- As many contents of a facet are kept as slots of it are loaded. -/
theorem countOf_eq (hb : store.Balanced) (facet : ByteFacet) :
    store.shelf.countOf facet.facet = store.grid.loadedCount facet := by
  rw [Shelf.countOf_eq, Grid.loadedCount_eq, hb.marks.countP_eq, List.countP_map]
  refine List.countP_congr fun holding _ => ?_
  cases facet <;> cases hfacet : holding.facet <;> simp [Holding.mark, ByteFacet.facet, hfacet]

end Balanced

/-- Claiming concerns no content. -/
theorem Balanced.claimAll (hb : before.Balanced) (facet : ByteFacet) (ids : List ItemId) :
    Balanced { before with grid := (before.grid.claimAll facet ids).2 } where
  marks := hb.marks.trans ((before.grid.holdings_claimAll facet ids).map Holding.mark)
  drawn := hb.drawn

/-- Settling a claim either accepts a content, which goes on the shelf and into the slot, or
concerns no loaded slot and no content. -/
theorem settleClaim_cases (facet : ByteFacet) (state : Store × LoadTally) (claim : Claim)
    (outcome : Except Failure String) :
    (settleClaim facet state claim outcome).1.draw = state.1.draw ∧
    ((state.1.accepts facet claim outcome = true ∧
        (settleClaim facet state claim outcome).1.grid.holdings.Perm
          (⟨claim.id, facet, ⟨state.1.draw state.1.shelf.created⟩⟩ :: state.1.grid.holdings) ∧
        ∃ content, (settleClaim facet state claim outcome).1.shelf =
          (state.1.shelf.put (state.1.draw state.1.shelf.created) facet.facet content).2) ∨
      (state.1.accepts facet claim outcome = false ∧
        state.1.grid.holdings.Perm (settleClaim facet state claim outcome).1.grid.holdings ∧
        (settleClaim facet state claim outcome).1.shelf = state.1.shelf)) := by
  obtain ⟨store, tally⟩ := state
  cases outcome with
  | ok content =>
    simp only [settleClaim, accepts, fill]
    cases hfill : store.grid.fill? facet claim
        (fun shelf : Shelf => shelf.put (store.draw shelf.created) facet.facet content)
        store.shelf with
    | none => exact ⟨rfl, Or.inr ⟨rfl, .refl _, rfl⟩⟩
    | some filled =>
      obtain ⟨grid, shelf⟩ := filled
      obtain ⟨-, hshelf, -⟩ := Grid.fill?_eq_some hfill
      exact ⟨rfl, Or.inl ⟨rfl, Grid.holdings_fill hfill, content, hshelf⟩⟩
  | error failure =>
    simp only [settleClaim]
    cases hgive : store.grid.giveUp? facet claim with
    | none => exact ⟨rfl, Or.inr ⟨rfl, .refl _, rfl⟩⟩
    | some grid => exact ⟨rfl, Or.inr ⟨rfl, Grid.holdings_giveUp hgive, rfl⟩⟩

theorem draw_settleClaims (facet : ByteFacet) (state : Store × LoadTally)
    (settled : List ((Claim × Artifact) × Except Failure String)) :
    (settleClaims facet state settled).1.draw = state.1.draw := by
  induction settled generalizing state with
  | nil => rfl
  | cons head rest ih => exact (ih _).trans (settleClaim_cases facet state head.1.1 head.2).1

theorem created_settleClaim (facet : ByteFacet) (state : Store × LoadTally) (claim : Claim)
    (outcome : Except Failure String) :
    (settleClaim facet state claim outcome).1.shelf.created =
      state.1.shelf.created + if state.1.accepts facet claim outcome then 1 else 0 := by
  obtain ⟨-, ⟨haccepts, -, content, hshelf⟩ | ⟨hrefuses, -, hshelf⟩⟩ :=
    settleClaim_cases facet state claim outcome
  · rw [hshelf, haccepts]
    rfl
  · rw [hshelf, hrefuses]
    rfl

/-- The shelf counts the contents that are accepted. -/
theorem created_settleClaims (facet : ByteFacet) (state : Store × LoadTally)
    (settled : List ((Claim × Artifact) × Except Failure String)) :
    (settleClaims facet state settled).1.shelf.created =
      state.1.shelf.created + acceptedOf facet state settled := by
  induction settled generalizing state with
  | nil => rfl
  | cons head rest ih =>
    obtain ⟨⟨claim, ref⟩, outcome⟩ := head
    rw [acceptedOf, ← Nat.add_assoc, ← created_settleClaim]
    exact ih _

/-- A content that is accepted goes on the shelf under an identifier that is not in use. -/
theorem balanced_settleClaim {state : Store × LoadTally} (hb : state.1.Balanced)
    (facet : ByteFacet) (claim : Claim) (outcome : Except Failure String)
    (hdraw : DrawsApart state.1.draw
      (settleClaim facet state claim outcome).1.shelf.created) :
    (settleClaim facet state claim outcome).1.Balanced ∧
      (settleClaim facet state claim outcome).1.shelf.released = state.1.shelf.released ∧
      ∀ holding ∈ state.1.grid.holdings,
        holding ∈ (settleClaim facet state claim outcome).1.grid.holdings := by
  obtain ⟨hd, ⟨-, hperm, content, hshelf⟩ | ⟨-, hperm, hshelf⟩⟩ :=
    settleClaim_cases facet state claim outcome
  · rw [hshelf] at hdraw ⊢
    have hnew : ¬state.1.shelf.keeps (state.1.draw state.1.shelf.created) := by
      intro hkeeps
      obtain ⟨n, hn, he⟩ := hb.drawn _ hkeeps
      have hsame := hdraw _ (Nat.lt_succ_self _) n (Nat.lt_succ_of_lt hn) he
      omega
    obtain ⟨hmarks, hreleased⟩ := Shelf.put_marks hnew facet.facet content
    refine ⟨⟨?_, ?_⟩, rfl, fun holding hm => hperm.mem_iff.mpr (List.mem_cons_of_mem _ hm)⟩
    · rw [hshelf]
      exact hmarks.trans ((hb.marks.cons _).trans (hperm.map Holding.mark).symm)
    · intro key hkey
      rw [hshelf, Shelf.keeps_iff] at hkey
      obtain ⟨other, hm⟩ := hkey
      rw [hshelf, hd]
      rcases List.mem_cons.mp (hmarks.mem_iff.mp hm) with he | hm
      · exact ⟨_, Nat.lt_succ_self _, congrArg Prod.fst he⟩
      · obtain ⟨n, hn, he⟩ := hb.drawn key (Shelf.keeps_iff.mpr ⟨other, hm⟩)
        exact ⟨n, Nat.lt_succ_of_lt hn, he⟩
  · rw [hshelf]
    refine ⟨⟨?_, ?_⟩, rfl, fun holding hm => hperm.mem_iff.mp hm⟩
    · rw [hshelf]
      exact hb.marks.trans (hperm.map Holding.mark)
    · rw [hshelf, hd]
      exact hb.drawn

/-- A chunk that is settled adds the contents that are accepted and loses none. -/
theorem balanced_settleClaims {state : Store × LoadTally} (hb : state.1.Balanced)
    (facet : ByteFacet) (settled : List ((Claim × Artifact) × Except Failure String))
    (hdraw : DrawsApart state.1.draw (settleClaims facet state settled).1.shelf.created) :
    (settleClaims facet state settled).1.Balanced ∧
      (settleClaims facet state settled).1.shelf.released = state.1.shelf.released ∧
      ∀ holding ∈ state.1.grid.holdings,
        holding ∈ (settleClaims facet state settled).1.grid.holdings := by
  induction settled generalizing state with
  | nil => exact ⟨hb, rfl, fun _ hm => hm⟩
  | cons head rest ih =>
    obtain ⟨⟨claim, ref⟩, outcome⟩ := head
    have hle := created_settleClaims facet (settleClaim facet state claim outcome) rest
    obtain ⟨hb', hreleased, hkept⟩ :=
      balanced_settleClaim hb facet claim outcome (hdraw.mono (hle ▸ Nat.le_add_right _ _))
    have hd := (settleClaim_cases facet state claim outcome).1
    obtain ⟨hb'', hreleased', hkept'⟩ := ih hb' (by rw [hd]; exact hdraw)
    exact ⟨hb'', hreleased'.trans hreleased, fun holding hm => hkept' _ (hkept _ hm)⟩

end Store

namespace Service

/-- How many slots were loaded before a turn and do not hold their content after it. -/
def lost (service : Service) (turn : Turn) : Nat :=
  service.store.grid.lost (service.turn turn).store.grid

variable {before after : Service} {facet? : Option ByteFacet} {count : Nat}

theorem Moves.draw (h : before.Moves after facet? count) :
    after.store.draw = before.store.draw := by
  cases h with
  | sheds h ht => exact h.draw
  | claims middle facet ids hfacet h hs ht =>
    rw [hs]
    exact h.draw
  | settles load outcomes others hlength hs hb ha =>
    rw [hs]
    exact Store.draw_settleClaims _ _ _

/-- The shelf counts the outcomes of fetches that a turn accepts. -/
theorem Moves.created (h : before.Moves after facet? count) :
    after.store.shelf.created = before.store.shelf.created + count := by
  cases h with
  | sheds h ht => exact h.created
  | claims middle facet ids hfacet h hs ht =>
    rw [hs]
    exact h.created
  | settles load outcomes others hlength hs hb ha =>
    rw [hs]
    exact Store.created_settleClaims _ _ _

/-- Every turn keeps the balance, and the shelf counts the slots that it loses. -/
theorem Moves.balanced (h : before.Moves after facet? count) (hb : before.store.Balanced)
    (hdraw : DrawsApart before.store.draw after.store.shelf.created) :
    after.store.Balanced ∧ after.store.shelf.released =
      before.store.shelf.released + before.store.grid.lost after.store.grid := by
  cases h with
  | sheds h ht => exact h.balanced hb
  | claims middle facet ids hfacet h hs ht =>
    obtain ⟨hmiddle, hreleased⟩ := h.balanced hb
    rw [hs, Grid.lost_claimAll]
    exact ⟨hmiddle.claimAll facet ids, hreleased⟩
  | settles load outcomes others hlength hs hb' ha =>
    rw [hs] at hdraw ⊢
    obtain ⟨hafter, hreleased, hkept⟩ := Store.balanced_settleClaims hb load.facet _ hdraw
    rw [Grid.lost_eq_zero hkept]
    exact ⟨hafter, hreleased⟩

theorem created_run (service : Service) (turns : List Turn) :
    (service.run turns).store.shelf.created =
      service.store.shelf.created + service.total Service.accepted turns := by
  induction turns generalizing service with
  | nil => rfl
  | cons turn rest ih =>
    rw [total, ← Nat.add_assoc, ← (service.turn_moves turn).created]
    exact ih (service.turn turn)

/-- Every run keeps the balance, and the shelf counts the slots that it loses. -/
theorem balanced_run {service : Service} (hb : service.store.Balanced) {turns : List Turn}
    (hdraw : DrawsApart service.store.draw (service.run turns).store.shelf.created) :
    (service.run turns).store.Balanced ∧ (service.run turns).store.shelf.released =
      service.store.shelf.released + service.total lost turns := by
  induction turns generalizing service with
  | nil => exact ⟨hb, rfl⟩
  | cons turn rest ih =>
    have hmoves := service.turn_moves turn
    have hle := (service.turn turn).created_run rest
    obtain ⟨hb', hreleased⟩ := hmoves.balanced hb (hdraw.mono (hle ▸ Nat.le_add_right _ _))
    obtain ⟨hb'', hreleased'⟩ := ih hb' (by rw [hmoves.draw]; exact hdraw)
    refine ⟨hb'', hreleased'.trans ?_⟩
    rw [hreleased, total, Nat.add_assoc]
    rfl

/-- However the operations of a store overlap, and whatever the backend answers, the contents on
the shelf and the loaded slots correspond one to one, facet by facet. The shelf has counted as
created the outcomes of fetches that were accepted, and as released the slots that were loaded
and are so no more, also where their entries were removed. -/
theorem contents_conserved (config : Config) (draw : Nat → Uuid) (turns : List Turn)
    (hdraw : DrawsApart draw ((fresh config draw).run turns).store.shelf.created) :
    let store := ((fresh config draw).run turns).store
    (∀ key content, store.shelf.find? key = some content →
      ∃ id facet, store.grid.slotAt id facet = .loaded ⟨key⟩ ∧ content.facet = facet.facet) ∧
    (∀ id facet handle, store.grid.slotAt id facet = .loaded handle →
      ∃ content, store.shelf.find? handle.id = some content ∧ content.facet = facet.facet) ∧
    (∀ id id' facet facet' handle, store.grid.slotAt id facet = .loaded handle →
      store.grid.slotAt id' facet' = .loaded handle → id = id' ∧ facet = facet') ∧
    (∀ facet : ByteFacet, store.shelf.countOf facet.facet = store.grid.loadedCount facet) ∧
    store.shelf.created = (fresh config draw).total accepted turns ∧
    store.shelf.released = (fresh config draw).total lost turns := by
  intro store
  obtain ⟨hb, hreleased⟩ := balanced_run (Store.balanced_fresh config draw) hdraw
  have hcreated := (fresh config draw).created_run turns
  refine ⟨fun _ _ => hb.exists_slot, fun _ _ _ => hb.exists_content,
    fun _ _ _ _ _ => hb.slot_unique, hb.countOf_eq, ?_, ?_⟩
  · exact hcreated.trans (Nat.zero_add _)
  · exact hreleased.trans (Nat.zero_add _)

/-- Two contents were loaded for one image, and the small one was dropped again. -/
theorem contents_conserved_image :
    let turns : List Turn :=
      [.command (.add [⟨"shots", "a.jpg", .image⟩]),
        .start (.thumbnails [⟨"image:shots:a.jpg"⟩] 1), .start (.image ⟨"image:shots:a.jpg"⟩),
        .answer 1 (.fetched [.ok "small"]), .answer 0 (.fetched [.ok "large"]),
        .command (.unload .thumbnail [⟨"image:shots:a.jpg"⟩])]
    DrawsApart Uuid.supply ((fresh .standard .supply).run turns).store.shelf.created ∧
      (fresh .standard .supply).total accepted turns = 2 ∧
      (fresh .standard .supply).total lost turns = 1 := by
  intro turns
  have hcreated : ((fresh .standard .supply).run turns).store.shelf.created = 2 := by
    decide +kernel
  have hreleased : ((fresh .standard .supply).run turns).store.shelf.released = 1 := by
    decide +kernel
  have hdraw : DrawsApart Uuid.supply
      ((fresh .standard .supply).run turns).store.shelf.created := by
    rw [hcreated]
    unfold DrawsApart
    decide +kernel
  obtain ⟨-, -, -, -, haccepted, hlost⟩ := contents_conserved .standard .supply turns hdraw
  exact ⟨hdraw, haccepted.symm.trans hcreated, hlost.symm.trans hreleased⟩

end Service

end MediaGrid
