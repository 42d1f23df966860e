import MediaGrid.Proofs.Artifact.Ids
import MediaGrid.Proofs.Session.Paging
import MediaGrid.Proofs.Store.Cache
import MediaGrid.Proofs.Store.Refusal
import MediaGrid.Proofs.Store.Telling

/-!
# The metadata of a page

A query that succeeds has read the metadata of what its page added to the view. The artifacts of
the page that were in view before are not looked at: their metadata stays as it was, loaded or not.
So every artifact of the page has its metadata exactly if those that were in view before had theirs.
The collection does not fail and nothing is held back; what other operations do meanwhile is no part
of it.
-/

namespace MediaGrid

/-! ## What a page leaves in the grid -/

namespace Grid

variable {collection : Collection} {grid : Grid}

/-- Reading the metadata of some ids concerns no other. -/
theorem metadata?_describe_of_not_mem {ids : List ItemId} {id : ItemId}
    (hnamed : ∀ id entry, grid.find? id = some entry → entry.ref.id = id) (hout : id ∉ ids) :
    (grid.describe collection ids).metadata? id = grid.metadata? id := by
  have hclaimed : (grid.claimRecords ids).2.metadata? id = grid.metadata? id := by
    rw [metadata?_claimRecords, if_neg fun h => hout h.1]
  have hnot : id ∉ (grid.claimRecords ids).1.map (·.1) :=
    fun hm => hout (mem_claimRecords.mp hm).1
  rw [← hclaimed]
  refine metadata?_settleRecords (fun row hrow => ?_) (Or.inl hnot)
  exact List.mem_map_of_mem (f := Prod.fst) (id_of_mem_recordsFor hnamed hrow)

/-- An artifact of a page that was merged has an entry. Its metadata is as it was, if it had an
entry before, and else that of the collection. -/
theorem find?_filled (hnamed : ∀ id entry, grid.find? id = some entry → entry.ref.id = id)
    (active : PagedQuery) {page : Page}
    (hrows : ∀ ref ∈ page.refs, (collection.row? ref).isSome = true) {ref : Artifact}
    (hm : ref ∈ page.refs) :
    ∃ entry record, (Session.filled grid active collection page).find? ref.id = some entry ∧
      entry.ref = ref ∧ collection.recordOf? ref = some record ∧
      entry.metadata = (grid.metadata? ref.id).getD (.loaded record) := by
  let merged : Grid := { (grid.addAll page.refs).2 with active := some (active.merged page) }
  have hmerged : ∀ id entry, merged.find? id = some entry → entry.ref.id = id :=
    fun _ _ hentry => named_addAll hnamed hentry
  obtain ⟨row, hrow⟩ := Option.isSome_iff_exists.mp (hrows ref hm)
  have hrecord : collection.recordOf? ref = some row.2 := by
    rw [Collection.recordOf?, hrow, Option.map_some]
  -- The entry is found once its metadata is known, as reading changes nothing else.
  suffices hmetadata : (merged.describe collection (grid.unseen page.refs)).metadata? ref.id =
      some ((grid.metadata? ref.id).getD (.loaded row.2)) by
    obtain ⟨entry, hentry, hslot⟩ := Option.map_eq_some_iff.mp hmetadata
    obtain ⟨old, hold, href⟩ :=
      (sameUpTo_describe merged _).exists_before Entry.ref (fun _ => rfl) hentry
    have hid : entry.ref.id = ref.id := href ▸ hmerged _ _ hold
    exact ⟨entry, row.2, hentry, Artifact.eq_of_id_eq hid, hrecord, hslot⟩
  cases hfound : grid.find? ref.id with
  | some old =>
    have hkept : merged.find? ref.id = some old := by
      refine (grid.find?_addAll page.refs ref.id).trans ?_
      rw [hfound, Option.some_or]
    have hseen : ref.id ∉ grid.unseen page.refs := by
      intro hunseen
      have hin := contains_iff.mpr ⟨old, hfound⟩
      rw [(mem_unseen.mp hunseen).2] at hin
      cases hin
    rw [metadata?_describe_of_not_mem hmerged hseen, metadata?, hkept, metadata?, hfound]
    rfl
  | none =>
    have hunseen : ref.id ∈ grid.unseen page.refs := by
      refine mem_unseen.mpr ⟨⟨ref, hm, rfl⟩, Bool.eq_false_iff.mpr fun hin => ?_⟩
      obtain ⟨entry, hentry⟩ := contains_iff.mp hin
      rw [hfound] at hentry
      cases hentry
    obtain ⟨other, -, hid, hentry⟩ := find?_unseen hunseen
    cases Artifact.eq_of_id_eq hid
    rw [metadata?_describe_of_empty hmerged hunseen hentry rfl hrow, metadata?, hfound]
    rfl

/-- Metadata that is as it was, or else read, is loaded unless there was an entry without it. -/
theorem loaded_iff {before after : Grid} {id : ItemId} {record : Metadata}
    (h : after.metadata? id = some ((before.metadata? id).getD (.loaded record))) :
    (∃ loaded, after.metadata? id = some (.loaded loaded)) ↔
      (before.contains id = true → ∃ loaded, before.metadata? id = some (.loaded loaded)) := by
  rw [h]
  cases hold : before.find? id with
  | none =>
    have hout : before.contains id ≠ true := fun hin => by
      obtain ⟨entry, hentry⟩ := contains_iff.mp hin
      rw [hold] at hentry
      cases hentry
    have hnone : before.metadata? id = none := by rw [metadata?, hold, Option.map_none]
    rw [hnone]
    exact iff_of_true ⟨record, rfl⟩ fun hin => absurd hin hout
  | some old =>
    have hin : before.contains id = true := contains_iff.mpr ⟨old, hold⟩
    have hsome : before.metadata? id = some old.metadata := by
      rw [metadata?, hold, Option.map_some]
    rw [hsome, Option.getD_some]
    exact ⟨fun hloaded _ => hloaded, fun hloaded => hloaded hin⟩

end Grid

/-! ## Operations that ask for a page -/

namespace Store

variable {store : Store} {operation : Operation} {queries : List Query} {page : Nat}

/-- An operation asks for a page of queries: it begins them, or continues the active query, which
has use for the page. -/
inductive AsksFor (store : Store) : Operation → List Query → Nat → Prop where
  /-- A query is begun. -/
  | openQuery (queries : List Query) (page : Nat) :
    AsksFor store (.openQuery queries page) queries page
  /-- The active query is continued. -/
  | furtherPage {queries : List Query} {page epoch : Nat} {grid : Grid}
    (h : store.grid.askFurther? page = some ((queries, epoch), grid)) :
    AsksFor store (.furtherPage page) queries page

/-- The request for a page of queries. -/
def pageRequest (store : Store) (queries : List Query) (page : Nat) : PageRequest :=
  ⟨queries, store.config.orderings, store.config.resultsPerPage, page⟩

/-- Asking for a page changes no entry. -/
theorem AsksFor.begin_eq (h : store.AsksFor operation queries page) :
    ∃ asked active, store.begin operation = (asked, .waiting (.page
        ⟨store.pageRequest queries page, asked.grid.epoch, .report⟩)) ∧
      asked.grid.active = some active ∧ asked.grid.entries = store.grid.entries := by
  have hask : ∀ (grid : Grid), grid.entries = store.grid.entries →
      let asked := { store with grid := grid }.moveRequest .query .loading
      asked.grid.active = grid.active ∧ asked.grid.epoch = grid.epoch ∧
        asked.grid.entries = store.grid.entries := by
    intro grid hentries asked
    have hgrid : asked.grid = { grid with requests := grid.requests.set .query .loading } :=
      Store.grid_moveRequest _ _ _
    rw [hgrid]
    exact ⟨rfl, rfl, hentries⟩
  cases h with
  | openQuery queries page =>
    obtain ⟨hactive, hepoch, hrest⟩ := hask (store.grid.openQuery queries page).2 rfl
    refine ⟨_, _, ?_, hactive, hrest⟩
    rw [hepoch]
    rfl
  | @furtherPage queries page epoch grid hfurther =>
    obtain ⟨active, -, -, -, -, hasked, rfl⟩ := Grid.askFurther?_eq_some_iff.mp hfurther
    obtain ⟨hactive, hepoch, hrest⟩ :=
      hask { store.grid with active := some { active with requested := page } } rfl
    refine ⟨_, _, ?_, hactive, hrest⟩
    rw [hepoch, begin, askFurther, hfurther, (Prod.mk.inj hasked).2]
    rfl

end Store

namespace Service

/-- Nothing changes the configuration. -/
theorem config_run (service : Service) (turns : List Turn) :
    (service.run turns).store.config = service.store.config := by
  refine run_keeps (motive := fun later => later.store.config = service.store.config)
    (fun later turn hlater => ?_) rfl turns
  cases turn with
  | command command => exact (later.store.sameCache_obey command).config.trans hlater
  | start operation =>
    exact (Store.sameCache_begin (later.store.begins operation)).config.trans hlater
  | answer position reply =>
    cases hresumed : later.resumed? position reply with
    | none => rw [turn_of_not_resumed hresumed, hlater]
    | some result =>
      obtain ⟨pending, -, hresume⟩ := Option.bind_eq_some_iff.mp hresumed
      rw [turn_of_resumed hresumed]
      exact (Store.cache_resume hresume).1.trans hlater

end Service

/-! ## A page that is asked for -/

namespace Session

variable {session : Session} {operation : Operation} {queries : List Query} {page : Nat}

/-- A page that is asked for is answered within the step, and the ids of what it added are
returned. -/
theorem step_page (hasks : session.store.AsksFor operation queries page)
    (hholding : session.holding = []) (hfailing : session.collection.failing = [])
    (hperPage : 0 < session.store.config.resultsPerPage) :
    let delivered := session.collection.pageFor (session.store.pageRequest queries page)
    (session.step (.start operation)).1.answer =
        .result (.ok (.ids (session.store.grid.unseen delivered.refs))) ∧
      (session.step (.start operation)).2.tasks = session.tasks ∧
      ∃ asked active, asked.entries = session.store.grid.entries ∧
        (session.step (.start operation)).2.store.grid.find? =
          (filled asked active session.collection delivered).find? := by
  intro delivered
  obtain ⟨asked, active, hbegin, hactive, hentries⟩ := hasks.begin_eq
  obtain ⟨final, counts, nextTask, log, hstart, -, -, hgrid⟩ :=
    start_page _ hbegin rfl rfl hactive hholding hfailing hperPage
  have hsame : asked.grid.unseen delivered.refs = session.store.grid.unseen delivered.refs := by
    simp only [Grid.unseen, Grid.contains, hentries]
  have hanswer : (session.step (.start operation)).1.answer = (session.start operation none).1 :=
    rfl
  have hstore :
      (session.step (.start operation)).2.store = (session.start operation none).2.store := rfl
  have htasks :
      (session.step (.start operation)).2.tasks = (session.start operation none).2.tasks := rfl
  refine ⟨?_, ?_, asked.grid, active, hentries, ?_⟩
  · rw [hanswer, hstart, ← hsame]
  · rw [htasks, hstart]
  · rw [hstore, hstart]
    dsimp only
    rw [hgrid]
    rfl

/-- A page of a collection that does not fail is delivered, and every artifact of it has an entry.
The metadata of an entry is as it was, if the artifact was in view before, and else the record of
the collection. So all have their metadata loaded exactly if those had that were in view before. -/
theorem page_described (config : Config) (draw : Nat → Uuid) (early : List Turn)
    (hperPage : 0 < config.resultsPerPage)
    (hstore : session.store = ((Service.fresh config draw).run early).store)
    (htasks : session.tasks = []) (hholding : session.holding = [])
    (hfailing : session.collection.failing = [])
    (hasks : session.store.AsksFor operation queries page) :
    let before := session.store.grid
    let after := (session.step (.start operation)).2.store.grid
    ∃ delivered,
      session.collection.answer (session.store.pageRequest queries page) = .ok delivered ∧
      (session.step (.start operation)).1.answer =
        .result (.ok (.ids (before.unseen delivered.refs))) ∧
      (session.step (.start operation)).2.tasks = [] ∧
      (∀ ref ∈ delivered.refs, ∃ entry record, after.find? ref.id = some entry ∧ entry.ref = ref ∧
        session.collection.recordOf? ref = some record ∧
        entry.metadata = (before.metadata? ref.id).getD (.loaded record)) ∧
      ((∀ ref ∈ delivered.refs, ∃ record, after.metadata? ref.id = some (.loaded record)) ↔
        ∀ ref ∈ delivered.refs, before.contains ref.id = true →
          ∃ record, before.metadata? ref.id = some (.loaded record)) := by
  intro before after
  have hsize : 0 < session.store.config.resultsPerPage := by
    rw [hstore, Service.config_run]
    exact hperPage
  have hnamed : ∀ id entry, before.find? id = some entry → entry.ref.id = id := by
    have hconsistent := Service.consistent_store config draw early
    rw [← hstore] at hconsistent
    exact hconsistent.id_ref
  obtain ⟨hanswer, hover, asked, active, hentries, hfilled⟩ :=
    step_page hasks hholding hfailing hsize
  let delivered := session.collection.pageFor (session.store.pageRequest queries page)
  have hfind : asked.find? = before.find? := by
    funext id
    rw [Grid.find?, hentries]
    rfl
  have hrows : ∀ ref ∈ delivered.refs, (session.collection.row? ref).isSome = true :=
    fun ref href =>
      Collection.isSome_row?_of_matching (List.mem_of_mem_drop (List.mem_of_mem_take href))
  have hdescribed : ∀ ref ∈ delivered.refs, ∃ entry record, after.find? ref.id = some entry ∧
      entry.ref = ref ∧ session.collection.recordOf? ref = some record ∧
      entry.metadata = (before.metadata? ref.id).getD (.loaded record) := by
    intro ref href
    obtain ⟨entry, record, hentry, href, hrecord, hmetadata⟩ :=
      Grid.find?_filled (by rw [hfind]; exact hnamed) active hrows href
    rw [← hfilled] at hentry
    rw [Grid.metadata?, hfind] at hmetadata
    exact ⟨entry, record, hentry, href, hrecord, hmetadata⟩
  refine ⟨delivered, Collection.answer_eq_pageFor hfailing hsize, hanswer, hover.trans htasks,
    hdescribed, forall₂_congr fun ref href => ?_⟩
  obtain ⟨entry, record, hentry, -, -, hmetadata⟩ := hdescribed ref href
  have hread : after.metadata? ref.id =
      some ((before.metadata? ref.id).getD (.loaded record)) := by
    rw [Grid.metadata?, hentry, Option.map_some, hmetadata]
  exact Grid.loaded_iff hread

/-- Of the two artifacts of a page one was added to the view before, and its metadata is not there.
The query reads the metadata of the other. -/
theorem page_described_beside :
    let pier : Artifact := ⟨"shots", "a.jpg", .image⟩
    let dock : Artifact := ⟨"shots", "b.jpg", .image⟩
    let record : Metadata := { Metadata.empty with name := some "dock" }
    let session : Session :=
      { store := ((Service.fresh .standard .supply).run [.command (.add [pier])]).store
        collection := .ofRows [(pier, .empty), (dock, record)]
        channel := .create 256
        delivered := 0, tasks := [], nextTask := 0, nextCall := 0, nextTurn := 0, holding := []
        gate := none, log := [], view := none }
    let after := (session.step (.start (.openQuery [Query.all] 0))).2.store.grid
    session.store.AsksFor (.openQuery [Query.all] 0) [Query.all] 0 ∧
      after.metadata? dock.id = some (.loaded record) ∧ after.metadata? pier.id = some .empty := by
  intro pier dock record session after
  have hasks : session.store.AsksFor (.openQuery [Query.all] 0) [Query.all] 0 := .openQuery _ _
  have hstore : session.store =
      ((Service.fresh .standard .supply).run [.command (.add [pier])]).store := rfl
  obtain ⟨delivered, hanswer, -, -, hdescribed, -⟩ :=
    page_described _ _ _ (by decide) hstore rfl rfl rfl hasks
  have hrefs : delivered.refs = [pier, dock] := by
    rw [Collection.answer_eq_pageFor rfl (by decide), Except.ok.injEq] at hanswer
    rw [← hanswer]
    decide +kernel
  rw [hrefs] at hdescribed
  refine ⟨hasks, ?_, ?_⟩
  · obtain ⟨entry, read, hentry, -, hread, hmetadata⟩ :=
      hdescribed dock (List.mem_cons_of_mem _ List.mem_cons_self)
    have hnone : session.store.grid.metadata? dock.id = none := by decide +kernel
    have hrecord : session.collection.recordOf? dock = some record := by decide +kernel
    rw [hrecord, Option.some.injEq] at hread
    rw [hnone, ← hread] at hmetadata
    rw [Grid.metadata?, hentry, Option.map_some, hmetadata]
    rfl
  · obtain ⟨entry, read, hentry, -, -, hmetadata⟩ := hdescribed pier List.mem_cons_self
    have hempty : session.store.grid.metadata? pier.id = some .empty := by decide +kernel
    rw [hempty] at hmetadata
    rw [Grid.metadata?, hentry, Option.map_some, hmetadata]
    rfl

/-- An artifact was added to the view, and a query that finds it returns without a failure: its
metadata is still not there, though the collection has it. -/
theorem page_not_described :
    let pier : Artifact := ⟨"shots", "a.jpg", .image⟩
    let session : Session :=
      { store := ((Service.fresh .standard .supply).run [.command (.add [pier])]).store
        collection := .ofRows [(pier, { Metadata.empty with name := some "dock" })]
        channel := .create 256
        delivered := 0, tasks := [], nextTask := 0, nextCall := 0, nextTurn := 0, holding := []
        gate := none, log := [], view := none }
    let final := (session.step (.start (.openQuery [Query.all] 0))).2
    (session.step (.start (.openQuery [Query.all] 0))).1.answer = .result (.ok (.ids [])) ∧
      (session.collection.pageFor (session.store.pageRequest [Query.all] 0)).refs = [pier] ∧
      final.tasks = [] ∧ final.store.grid.requests.query = .succeeded ∧
      final.store.grid.metadata? pier.id = some .empty := by
  intro pier session final
  have hasks : session.store.AsksFor (.openQuery [Query.all] 0) [Query.all] 0 := .openQuery _ _
  obtain ⟨hanswer, htasks, -⟩ := step_page hasks rfl rfl (by decide)
  have hseen : session.store.grid.unseen
      (session.collection.pageFor (session.store.pageRequest [Query.all] 0)).refs = [] := by
    decide +kernel
  rw [hseen] at hanswer
  exact ⟨hanswer, by decide +kernel, htasks, by decide +kernel, by decide +kernel⟩

end Session

end MediaGrid
