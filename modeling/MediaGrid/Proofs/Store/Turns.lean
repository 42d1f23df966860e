import Mathlib.Data.List.Perm.Basic
import MediaGrid.Proofs.Store.Stock

/-!
# What a turn does to claims and contents

A turn does one of three things. Most turns at most shed: contents are handed back, entries
are dropped or added, but nothing is claimed, settled or put on the shelf. The start of a load
claims slots after it may have shed contents. The answer to a chunk of fetches settles its
claims. Which of these a turn does, and what happens to the claims that the waiting
operations have still to settle, is shown here once for all operations.
-/

namespace MediaGrid

/-- The facet whose slots an operation claims where it starts. -/
def Operation.facet? : Operation → Option ByteFacet
  | .thumbnails _ _ => some .thumbnail
  | .image _ => some .full
  | .followScroll _ _ => some .thumbnail
  | _ => none

/-- The facet whose slots a turn claims. -/
def Turn.facet? : Turn → Option ByteFacet
  | .start operation => operation.facet?
  | _ => none

namespace Store

/-- Contents may be handed back and entries dropped or added, but nothing is claimed, settled
or put on the shelf. -/
structure Sheds (before after : Store) : Prop where
  /-- Contents get the same identifiers. -/
  draw : after.draw = before.draw
  /-- No ticket was given out. -/
  lastTicket : after.grid.lastTicket = before.grid.lastTicket
  /-- The handles of the holdings that are gone were handed back. -/
  holdings : ∃ gone, before.grid.holdings.Perm (gone ++ after.grid.holdings) ∧
    after.shelf = before.shelf.takeBackAll (gone.map (·.handle))
  /-- A slot that waits has waited for the same claim before. -/
  pending : ∀ id facet ticket, after.grid.slotAt id facet = .pending ticket →
    before.grid.slotAt id facet = .pending ticket
  /-- A slot that has waited still does, unless its entry was dropped. -/
  kept : ∀ id facet ticket, before.grid.slotAt id facet = .pending ticket →
    after.grid.slotAt id facet = .pending ticket ∨ after.grid.contains id = false

namespace Sheds

variable {before middle after : Store}

/-- What leaves slots and shelf alone sheds nothing. -/
theorem of_slots
    (hslots : ∀ id facet, after.grid.slotAt id facet = before.grid.slotAt id facet)
    (hlast : after.grid.lastTicket = before.grid.lastTicket) (hshelf : after.shelf = before.shelf)
    (hdraw : after.draw = before.draw) : before.Sheds after where
  draw := hdraw
  lastTicket := hlast
  holdings := ⟨[], Grid.holdings_perm_of_loaded fun id facet _ => by rw [hslots id facet], hshelf⟩
  pending id facet ticket h := (hslots id facet).symm.trans h
  kept id facet ticket h := Or.inl ((hslots id facet).trans h)

theorem of_same (h : before.SameStock after) : before.Sheds after :=
  of_slots h.bytes.slots h.bytes.lastTicket h.shelf h.draw

protected theorem refl (store : Store) : store.Sheds store := of_same (.refl store)

/-- A slot is emptied or left as it was. -/
theorem slotAt_cases (h : before.Sheds after) (id : ItemId) (facet : ByteFacet) :
    after.grid.slotAt id facet = .empty ∨
      after.grid.slotAt id facet = before.grid.slotAt id facet := by
  cases hslot : after.grid.slotAt id facet with
  | empty => exact Or.inl rfl
  | pending ticket => exact Or.inr (h.pending id facet ticket hslot).symm
  | loaded handle =>
    obtain ⟨gone, hperm, -⟩ := h.holdings
    have hm : ⟨id, facet, handle⟩ ∈ after.grid.holdings := Grid.mem_holdings.mpr hslot
    have hbefore := hperm.mem_iff.mpr (List.mem_append_right gone hm)
    exact Or.inr (Grid.mem_holdings.mp hbefore).symm

/-- Shedding twice is shedding, if no entry was added the second time. -/
protected theorem trans (h : before.Sheds middle) (h' : middle.Sheds after)
    (hclosed : ∀ id, middle.grid.contains id = false → after.grid.contains id = false) :
    before.Sheds after where
  draw := h'.draw.trans h.draw
  lastTicket := h'.lastTicket.trans h.lastTicket
  holdings := by
    obtain ⟨gone, hperm, hshelf⟩ := h.holdings
    obtain ⟨gone', hperm', hshelf'⟩ := h'.holdings
    refine ⟨gone ++ gone', ?_, ?_⟩
    · rw [List.append_assoc]
      exact hperm.trans (hperm'.append_left gone)
    · rw [hshelf', hshelf, List.map_append, Shelf.takeBackAll, Shelf.takeBackAll,
        Shelf.takeBackAll, List.foldl_append]
  pending id facet ticket hp := h.pending id facet ticket (h'.pending id facet ticket hp)
  kept id facet ticket hp := by
    rcases h.kept id facet ticket hp with hp | hnone
    · exact h'.kept id facet ticket hp
    · exact Or.inr (hclosed id hnone)

theorem trans_same (h : before.Sheds middle) (h' : middle.SameStock after) :
    before.Sheds after :=
  h.trans (of_same h') fun id hnone => (h'.bytes.contains id).trans hnone

theorem same_trans (h : before.SameStock middle) (h' : middle.Sheds after) :
    before.Sheds after where
  draw := h'.draw.trans h.draw
  lastTicket := h'.lastTicket.trans h.bytes.lastTicket
  holdings := by
    obtain ⟨gone, hperm, hshelf⟩ := h'.holdings
    exact ⟨gone, h.bytes.holdings.trans hperm, by rw [hshelf, h.shelf]⟩
  pending id facet ticket hp := (h.bytes.slots id facet).symm.trans (h'.pending id facet ticket hp)
  kept id facet ticket hp := h'.kept id facet ticket ((h.bytes.slots id facet).trans hp)

end Sheds

variable (store : Store)

theorem sheds_addAll (refs : List Artifact) : store.Sheds (store.addAll refs).2 := by
  have hadd : store.Sheds { store with grid := (store.grid.addAll refs).2 } :=
    .of_slots (Grid.slotAt_addAll _ _) (Grid.lastTicket_addAll _ _) rfl rfl
  exact hadd.trans_same (sameStock_publishFor _ _ _)

theorem sheds_clear (keepQuery : Bool) : store.Sheds (store.clear keepQuery) := by
  have hclear : store.Sheds { store with
      grid := (store.grid.clear keepQuery).2
      shelf := store.shelf.takeBackAll (store.grid.clear keepQuery).1.handles } :=
    { draw := rfl
      lastTicket := rfl
      holdings := ⟨store.grid.holdings, by rw [show (store.grid.clear keepQuery).2.holdings = []
        from rfl, List.append_nil], by rw [Grid.handles_clear]⟩
      pending := fun id facet ticket hp => by cases hp
      kept := fun id facet ticket _ => Or.inr rfl }
  have hnews := hclear.trans_same (sameStock_publish _ (.viewCleared keepQuery))
  unfold clear
  dsimp only
  split
  · exact hnews.trans_same (sameStock_publish _ _)
  · exact hnews

theorem sheds_unload (facet : ByteFacet) (ids : List ItemId) :
    store.Sheds (store.unload facet ids).2 := by
  obtain ⟨gone, hperm, hhandles⟩ := store.grid.holdings_unload facet ids
  have hunload : store.Sheds { store with
      grid := (store.grid.unload facet ids).2
      shelf := store.shelf.takeBackAll (store.grid.unload facet ids).1.handles } :=
    { draw := rfl
      lastTicket := (store.grid.sameUpTo_unload facet ids).lastTicket_eq
      holdings := ⟨gone, hperm, by rw [hhandles]⟩
      pending := fun _ _ _ hp => Grid.pending_unload.mp hp
      kept := fun _ _ _ hp => Or.inl (Grid.pending_unload.mpr hp) }
  exact hunload.trans_same
    (sameStock_publishFor _ (store.grid.unload facet ids).1.ids (.facetDropped · facet.facet))

theorem grid_unload (facet : ByteFacet) (ids : List ItemId) :
    (store.unload facet ids).2.grid = (store.grid.unload facet ids).2 := by
  unfold unload publishFor
  dsimp only
  split <;> rfl

/-- Dropping contents drops no entry. -/
theorem contains_unload (facet : ByteFacet) (ids : List ItemId) (id : ItemId) :
    (store.unload facet ids).2.grid.contains id = store.grid.contains id := by
  rw [grid_unload, (store.grid.sameUpTo_unload facet ids).contains_eq]

theorem sheds_discard (ids : List ItemId) : store.Sheds (store.discard ids).2 := by
  obtain ⟨gone, hperm, hhandles⟩ := store.grid.holdings_discard ids
  have hdiscard : store.Sheds { store with
      grid := (store.grid.discard ids).2
      shelf := store.shelf.takeBackAll (store.grid.discard ids).1.handles } :=
    { draw := rfl
      lastTicket := Grid.lastTicket_discard store.grid ids
      holdings := ⟨gone, hperm, by rw [hhandles]⟩
      pending := by
        intro id facet ticket hp
        rw [Grid.slotAt_discard] at hp
        split at hp
        · cases hp
        · exact hp
      kept := by
        intro id facet ticket hp
        rw [Grid.slotAt_discard, Grid.contains, Table.contains_eq_isSome, ← Grid.find?,
          Grid.find?_discard]
        by_cases hid : id ∈ ids
        · exact Or.inr (by rw [if_pos hid]; rfl)
        · exact Or.inl (by rw [if_neg hid, hp]) }
  have hnews := hdiscard.trans_same
    (sameStock_publishFor _ (store.grid.discard ids).1.ids .removed)
  exact hnews.trans_same (sameStock_publishFor _ (store.grid.discard ids).1.ids
    (.selected · false (store.grid.discard ids).2.selectionCount))

/-- The view is cleared once its contents were unloaded, and no entry comes back. -/
theorem sheds_rebuild (ids : List ItemId) (update : Metadata) :
    store.Sheds (store.rebuild ids update).1 ∧
      (store.rebuild ids update).2.pendings.flatMap Pending.targets = [] := by
  have hforget : store.SameStock (store.setDialog false).2.forget :=
    (store.sameStock_setDialog false).trans ⟨.refl _, rfl, rfl⟩
  unfold rebuild
  dsimp only
  generalize (store.setDialog false).2.forget = closed at hforget ⊢
  have hthumbnails := Sheds.same_trans hforget (closed.sheds_unload .thumbnail closed.grid.ids)
  have himages := hthumbnails.trans (sheds_unload _ .full closed.grid.ids)
    fun id hnone => (contains_unload _ _ _ id).trans hnone
  have hcleared := himages.trans (sheds_clear _ true) fun id _ => by
    unfold clear
    dsimp only
    split <;> rfl
  split
  · exact ⟨hcleared.trans_same (quiet_finishEdit _ ids update).stock,
      (quiet_finishEdit _ ids update).targets⟩
  · exact ⟨hcleared.trans_same (quiet_openQuery _ _ 0 (.edit ids update)).stock,
      (quiet_openQuery _ _ 0 (.edit ids update)).targets⟩

theorem sheds_mergePage (run : PageRun) (page : Page) :
    store.Sheds (store.mergePage run page).1 := by
  have hmerge : store.Sheds { store with grid := (store.grid.mergePage run.epoch page).2 } :=
    .of_slots (Grid.slotAt_mergePage _ _ _) (Grid.lastTicket_mergePage _ _ _) rfl rfl
  exact hmerge.trans_same (store.quiet_mergePage run page).stock

/-- Asking for the next chunk leaves the store alone and keeps the claims that are left. -/
theorem nextChunk_eq (load : ByteLoad) :
    (store.nextChunk load).1 = store ∧
      (store.nextChunk load).2.pendings.flatMap Pending.targets =
        load.rest.map fun target => (load.facet, target.1) := by
  unfold nextChunk
  split
  · rename_i hrest
    rw [List.isEmpty_iff.mp hrest]
    exact ⟨rfl, rfl⟩
  · refine ⟨rfl, ?_⟩
    simp only [Progress.pendings, Pending.targets, ByteLoad.targets, List.flatMap_cons,
      List.flatMap_nil, List.append_nil, List.take_append_drop]

/-- A load claims slots, and its claims are what it has still to settle. -/
theorem load_eq (facet : ByteFacet) (ids : List ItemId) (size : Nat) :
    (store.load facet ids size).1 = { store with grid := (store.grid.claimAll facet ids).2 } ∧
      (store.load facet ids size).2.pendings.flatMap Pending.targets =
        (store.grid.claimAll facet ids).1.map fun target => (facet, target.1) :=
  nextChunk_eq _ _

variable {store} in
/-- An operation that starts sheds at most, or claims slots after that. -/
theorem begin_cases {operation : Operation} {result : Store × Progress}
    (h : store.Begins operation result) :
    (store.Sheds result.1 ∧ result.2.pendings.flatMap Pending.targets = []) ∨
    ∃ middle facet ids, operation.facet? = some facet ∧ store.Sheds middle ∧
      result.1 = { middle with grid := (middle.grid.claimAll facet ids).2 } ∧
      result.2.pendings.flatMap Pending.targets =
        (middle.grid.claimAll facet ids).1.map fun target => (facet, target.1) := by
  have hquiet : ∀ {result}, store.Quiet result →
      store.Sheds result.1 ∧ result.2.pendings.flatMap Pending.targets = [] :=
    fun h => ⟨.of_same h.stock, h.targets⟩
  cases h with
  | declined operation outcome hdeclines => exact Or.inl ⟨.refl store, rfl⟩
  | openQuery queries page => exact Or.inl (hquiet (store.quiet_openQuery queries page .report))
  | furtherPage page queries epoch asked hask =>
    have hsame := store.grid.sameBytes_askFurther page
    rw [hask] at hsame
    exact Or.inl (hquiet ((SameStock.of_grid hsame).quiet (quiet_askPage _ _ page epoch .report)))
  | refill active hactive =>
    exact Or.inl ⟨(store.sheds_clear true).trans_same (quiet_openQuery _ _ 0 .report).stock,
      (quiet_openQuery _ _ 0 .report).targets⟩
  | submit =>
    exact Or.inl ⟨(store.sheds_clear false).trans_same (quiet_openQuery _ _ 0 .report).stock,
      (quiet_openQuery _ _ 0 .report).targets⟩
  | describe ids hsome =>
    have hclaimed := store.grid.sameUpTo_claimRecords ids
    exact Or.inl (hquiet ⟨.of_grid (.of_records hclaimed), rfl⟩)
  | thumbnails ids chunk =>
    exact Or.inr ⟨store, .thumbnail, ids, rfl, .refl store, store.load_eq .thumbnail ids chunk⟩
  | image id hin =>
    exact Or.inr ⟨store, .full, [id], rfl, .refl store, store.load_eq .full [id] 1⟩
  | followScroll entered exited =>
    exact Or.inr ⟨(store.unload .thumbnail exited).2, .thumbnail, entered, rfl,
      store.sheds_unload .thumbnail exited, load_eq _ .thumbnail entered _⟩
  | archive targets hbegin =>
    have hmoved := store.sameStock_moveRequest .download .loading
    exact Or.inl (hquiet ⟨hmoved.trans (sameStock_mark _ _ false), rfl⟩)
  | delete targets hbegin =>
    exact Or.inl (hquiet ⟨store.sameStock_moveRequest .delete .loading, rfl⟩)
  | edit update targets hbegin =>
    exact Or.inl (hquiet ⟨store.sameStock_moveRequest .metadataEdit .loading, rfl⟩)
  | suggestCached texts hcached => exact Or.inl (hquiet (store.quiet_finishSuggestions _ texts))
  | suggestNone hcached hnone => exact Or.inl (hquiet (store.quiet_finishSuggestions _ []))
  | suggestPage hcached hwords hlimit => exact Or.inl ⟨.refl store, rfl⟩

variable {store} in
/-- An operation that goes on sheds at most, unless it settles the claims of a chunk. -/
theorem resume_cases {pending : Pending} {reply : Reply} {result : Store × Progress}
    (h : store.resume pending reply = some result) :
    (pending.isLoad = false ∧ store.Sheds result.1 ∧
      result.2.pendings.flatMap Pending.targets = []) ∨
    ∃ load outcomes, pending = .contents load ∧ reply = .fetched outcomes ∧
      outcomes.length = load.chunk.length ∧ result = store.settleChunk load outcomes := by
  have hquiet : ∀ {result}, store.Quiet result →
      store.Sheds result.1 ∧ result.2.pendings.flatMap Pending.targets = [] :=
    fun h => ⟨.of_same h.stock, h.targets⟩
  have hmoved : ∀ {middle : Store} {kind state outcome}, store.SameStock middle →
      store.Sheds (middle.moveRequest kind state) ∧
        (Progress.done outcome).pendings.flatMap Pending.targets = [] :=
    fun h => ⟨.of_same (h.trans (sameStock_moveRequest _ _ _)), rfl⟩
  cases resumes_of_eq_some h with
  | page run page =>
    exact Or.inl ⟨rfl, store.sheds_mergePage run page, (store.quiet_mergePage run page).targets⟩
  | pageLost run failure => exact Or.inl ⟨rfl, hquiet (store.quiet_losePage run failure)⟩
  | pageRecords run added claimed records =>
    have hstored := store.sameStock_storeRecords claimed records
    exact Or.inl ⟨rfl, hquiet (hstored.quiet (quiet_settlePage _ run added))⟩
  | pageRecordsLost run added claimed failure =>
    have hgiven := (store.sameStock_giveUpRecords claimed).trans
      (sameStock_moveRequest _ .query (.failed failure.message))
    exact Or.inl ⟨rfl, hquiet (hgiven.quiet (quiet_afterPage _ run _))⟩
  | records claimed records =>
    exact Or.inl ⟨rfl, .of_same (store.sameStock_storeRecords claimed records), rfl⟩
  | recordsLost claimed failure =>
    exact Or.inl ⟨rfl, .of_same (store.sameStock_giveUpRecords claimed), rfl⟩
  | contents load outcomes hlength => exact Or.inr ⟨load, outcomes, rfl, rfl, hlength, rfl⟩
  | archive items => exact Or.inl ⟨rfl, hmoved (.refl store)⟩
  | archiveLost items failure => exact Or.inl ⟨rfl, hmoved (.refl store)⟩
  | delete targets =>
    have hforget : store.SameStock store.forget := ⟨.refl _, rfl, rfl⟩
    have hdiscard := Sheds.same_trans hforget (sheds_discard _ (targets.map (·.1)))
    exact Or.inl ⟨rfl, hdiscard.trans_same (sameStock_moveRequest _ _ _), rfl⟩
  | deleteLost targets failure => exact Or.inl ⟨rfl, hmoved (.refl store)⟩
  | edit targets update =>
    have hrebuilt := store.sheds_rebuild (targets.map (·.1)) update
    exact Or.inl ⟨rfl, hrebuilt⟩
  | editLost targets update failure => exact Or.inl ⟨rfl, hmoved (.refl store)⟩
  | suggestNone search request fragments page hempty =>
    exact Or.inl ⟨rfl, hquiet (store.quiet_rememberSuggestions search [])⟩
  | suggestPage search request fragments page hsome => exact Or.inl ⟨rfl, .refl store, rfl⟩
  | suggestPageLost search request fragments failure => exact Or.inl ⟨rfl, .refl store, rfl⟩
  | suggestRecords search refs fragments records =>
    exact Or.inl ⟨rfl, hquiet (store.quiet_rememberSuggestions search _)⟩
  | suggestRecordsLost search refs fragments failure => exact Or.inl ⟨rfl, .refl store, rfl⟩

/-- A command sheds at most. -/
theorem sheds_obey (command : Command) : store.Sheds (store.obey command) := by
  cases command with
  | add refs => exact store.sheds_addAll refs
  | clear keepQuery => exact store.sheds_clear keepQuery
  | unload facet ids => exact store.sheds_unload facet ids
  | mark ids value => exact .of_same (store.sameStock_mark ids value)
  | dialog isOpen => exact .of_same (store.sameStock_setDialog isOpen)
  | showVideo urlsOf id => exact .of_same (store.sameStock_showVideo urlsOf id)
  | hideVideo id => exact .of_same (store.sameStock_setVideo id none)
  | typeSearch search => exact .of_same (store.sameStock_typeSearch search)
  | pick completion => exact .of_same (store.sameStock_typeSearch _)

/-! ## Settling -/

/-- Whether the outcome of a fetch is accepted: a content for which the slot of the claim
still waits. -/
def accepts (store : Store) (facet : ByteFacet) (claim : Claim) :
    Except Failure String → Bool
  | .ok content => (store.fill facet claim content).1
  | .error _ => false

/-- How many of the outcomes of a chunk are accepted while its claims are settled in order. -/
def acceptedOf (facet : ByteFacet) (state : Store × LoadTally) :
    List ((Claim × Artifact) × Except Failure String) → Nat
  | [] => 0
  | ((claim, _), outcome) :: rest =>
    (if state.1.accepts facet claim outcome then 1 else 0) +
      acceptedOf facet (settleClaim facet state claim outcome) rest

end Store

namespace Service

/-- How many outcomes of fetches a turn accepts. -/
def accepted (service : Service) : Turn → Nat
  | .answer position (.fetched outcomes) =>
    match service.waiting[position]? with
    | some (.contents load) =>
      if outcomes.length = load.chunk.length then
        Store.acceptedOf load.facet (service.store, load.summary) (load.chunk.zip outcomes)
      else 0
    | _ => 0
  | _ => 0

/-- What a turn can do that may claim slots of one facet, with the number of outcomes it
accepts. -/
inductive Moves (before after : Service) (facet? : Option ByteFacet) : Nat → Prop where
  /-- At most contents are handed back and entries dropped or added. -/
  | sheds (h : before.store.Sheds after.store) (ht : after.targets.Perm before.targets) :
    Moves before after facet? 0
  /-- Slots are claimed after that. -/
  | claims (middle : Store) (facet : ByteFacet) (ids : List ItemId) (hfacet : facet? = some facet)
    (h : before.store.Sheds middle)
    (hs : after.store = { middle with grid := (middle.grid.claimAll facet ids).2 })
    (ht : after.targets.Perm
      ((middle.grid.claimAll facet ids).1.map (fun target => (facet, target.1)) ++
        before.targets)) : Moves before after facet? 0
  /-- The claims of a chunk are settled. -/
  | settles (load : ByteLoad) (outcomes : List (Except Failure String))
    (others : List (ByteFacet × Claim)) (hlength : outcomes.length = load.chunk.length)
    (hs : after.store = (Store.settleClaims load.facet (before.store, load.summary)
      (load.chunk.zip outcomes)).1)
    (hb : before.targets.Perm (load.fetches ++ others)) (ha : after.targets.Perm others) :
    Moves before after facet?
      (Store.acceptedOf load.facet (before.store, load.summary) (load.chunk.zip outcomes))

/-- What waits at a position comes before what waits elsewhere. -/
theorem targets_perm {service : Service} {position : Nat} {pending : Pending}
    (h : service.waiting[position]? = some pending) :
    service.targets.Perm
      (pending.targets ++ (service.waiting.eraseIdx position).flatMap Pending.targets) := by
  obtain ⟨hlt, rfl⟩ := List.getElem?_eq_some_iff.mp h
  exact (List.getElem_cons_eraseIdx_perm hlt).symm.flatMap_right _

/-- An answer that is not to a chunk of fetches accepts no outcome. -/
theorem accepted_of_not_load {service : Service} {position : Nat} {pending : Pending}
    (h : service.waiting[position]? = some pending) (hload : pending.isLoad = false)
    (reply : Reply) : service.accepted (.answer position reply) = 0 := by
  unfold accepted
  split
  · rename_i he
    cases he
    rw [h]
    cases pending <;> first | rfl | cases hload
  · rfl

/-- An answer that does not fit accepts no outcome. -/
theorem accepted_of_resume_none {service : Service} {position : Nat} {pending : Pending}
    {reply : Reply} (h : service.waiting[position]? = some pending)
    (hnone : service.store.resume pending reply = none) :
    service.accepted (.answer position reply) = 0 := by
  cases hload : pending.isLoad with
  | false => exact accepted_of_not_load h hload reply
  | true =>
    cases pending with
    | contents load =>
      cases reply with
      | fetched outcomes =>
        simp only [Store.resume, ite_eq_right_iff, reduceCtorEq, imp_false] at hnone
        simp only [accepted, h, if_neg hnone]
      | page outcome => rfl
      | records outcome => rfl
      | settled outcome => rfl
    | _ => cases hload

/-- Every turn does one of three things. -/
theorem turn_moves (service : Service) (turn : Turn) :
    service.Moves (service.turn turn) turn.facet? (service.accepted turn) := by
  cases turn with
  | command command => exact .sheds (service.store.sheds_obey command) (.refl _)
  | start operation =>
    have htargets : (service.turn (.start operation)).targets =
        (service.store.begin operation).2.pendings.flatMap Pending.targets ++ service.targets :=
      List.flatMap_append
    rcases Store.begin_cases (service.store.begins operation) with
      ⟨hsheds, hnone⟩ | ⟨middle, facet, ids, hfacet, hsheds, hgrid, hclaims⟩
    · exact .sheds hsheds (by rw [htargets, hnone]; exact .refl _)
    · exact .claims middle facet ids hfacet hsheds hgrid (by rw [htargets, hclaims])
  | answer position reply =>
    cases hpending : service.waiting[position]? with
    | none =>
      have hturn : service.turn (.answer position reply) = service := by
        simp only [Service.turn, hpending]
      have haccepted : service.accepted (.answer position reply) = 0 := by
        cases reply <;> simp only [accepted, hpending]
      rw [hturn, haccepted]
      exact .sheds (.refl _) (.refl _)
    | some pending =>
      cases hresume : service.store.resume pending reply with
      | none =>
        have hturn : service.turn (.answer position reply) = service := by
          simp only [Service.turn, hpending, hresume]
        rw [hturn, accepted_of_resume_none hpending hresume]
        exact .sheds (.refl _) (.refl _)
      | some result =>
        have hturn : service.turn (.answer position reply) =
            ⟨result.1, result.2.pendings ++ service.waiting.eraseIdx position⟩ := by
          simp only [Service.turn, hpending, hresume]
        have hbefore := targets_perm hpending
        rw [hturn]
        rcases Store.resume_cases hresume with
          ⟨hload, hsheds, hnone⟩ | ⟨load, outcomes, rfl, rfl, hlength, rfl⟩
        · rw [accepted_of_not_load hpending hload]
          refine .sheds hsheds ?_
          rw [targets, List.flatMap_append, hnone]
          rw [Pending.targets_of_not_load hload] at hbefore
          exact hbefore.symm
        · have haccepted : service.accepted (.answer position (.fetched outcomes)) =
              Store.acceptedOf load.facet (service.store, load.summary)
                (load.chunk.zip outcomes) := by
            simp only [accepted, hpending, if_pos hlength]
          obtain ⟨hstore, hnext⟩ := Store.nextChunk_eq
            (Store.settleClaims load.facet (service.store, load.summary)
              (load.chunk.zip outcomes)).1 _
          rw [haccepted]
          refine .settles load outcomes ((load.rest.map fun target => (load.facet, target.1)) ++
            (service.waiting.eraseIdx position).flatMap Pending.targets) hlength hstore ?_ ?_
          · rw [← List.append_assoc, ByteLoad.fetches, ← List.map_append]
            exact hbefore
          · rw [targets, List.flatMap_append]
            exact .append_right _ (.of_eq hnext)

end Service

end MediaGrid
