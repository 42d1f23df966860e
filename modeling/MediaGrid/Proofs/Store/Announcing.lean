import MediaGrid.Proofs.Grid.Repetition
import MediaGrid.Proofs.Store.Exclusion
import MediaGrid.Proofs.Store.Paging
import MediaGrid.Session.Basic

/-!
# Changes are announced once

A command that says how a part of the grid is to be publishes one event if the grid changes and
does nothing at all otherwise, its result tells which, and when it is given again at once it does
nothing. An operation that finds nothing to do makes no call and leaves the store as it was. Both
hold in every store, whether a run leads to it or not. Clearing the view, which begins a new epoch
every time, and picking a completion, which is put into what the search has become, are not of this
kind.
-/

namespace MediaGrid

/-- Whether a command says how a part of the grid is to be, so that there is nothing left to do when
it is given a second time. -/
def Command.isRepeatable : Command → Bool
  | .clear _ | .pick _ => false
  | _ => true

/-- Whether an answer tells of a change. -/
def Answer.tellsChange : Answer → Bool
  | .ids found => !found.isEmpty
  | .count value => value != 0
  | .truth value => value
  | _ => false

namespace Grid

/-- The grid is as a command wants it. What the command names and the grid does not have, and images
that are given the addresses of a video, are passed over. -/
def Meets (grid : Grid) : Command → Prop
  | .add refs => ∀ ref ∈ refs, grid.contains ref.id = true
  | .unload facet ids => ∀ id ∈ ids, (grid.slotAt id facet).handle? = none
  | .mark ids value =>
    ∀ id ∈ ids.getD grid.ids, ∀ entry, grid.find? id = some entry → entry.selected = value
  | .dialog isOpen => grid.dialogOpen = isOpen
  | .showVideo urlsOf id =>
    ∀ entry, grid.find? id = some entry → entry.ref.kind = .video →
      ∀ urls, urlsOf entry.ref = some urls → entry.video = some urls
  | .hideVideo id =>
    ∀ entry, grid.find? id = some entry → entry.ref.kind = .video → entry.video = none
  | .typeSearch search => grid.search = search ∧ grid.menu = Menu.ofText search
  | .clear _ | .pick _ => False

/-- An operation finds nothing to do: a further page is not to be had or was asked for already,
there is no query to begin again, a request on the selection runs already or nothing is selected, or
everything that is to be loaded is loaded or on its way. -/
def NothingFor (grid : Grid) : Operation → Prop
  | .furtherPage page =>
    ∀ active, grid.active = some active → active.hasMore = true →
      page ≤ active.page ∨ page ≤ active.requested
  | .refill => grid.active = none
  | .describe ids => ∀ id ∈ ids, ∀ entry, grid.find? id = some entry → entry.metadata ≠ .empty
  | .thumbnails ids _ =>
    ∀ id ∈ ids, ∀ entry, grid.find? id = some entry → entry.thumbnail ≠ .empty
  | .image id => ∀ entry, grid.find? id = some entry → entry.image ≠ .empty
  | .followScroll entered exited =>
    grid.Meets (.unload .thumbnail exited) ∧
      ∀ id ∈ entered, ∀ entry, grid.find? id = some entry → entry.thumbnail ≠ .empty
  | .archive => grid.requests.download = .loading ∨ grid.selected = []
  | .delete => grid.requests.delete = .loading ∨ grid.selected = []
  | .edit _ => grid.requests.metadataEdit = .loading ∨ grid.selected = []
  | .openQuery _ _ | .submit | .suggest => False

end Grid

namespace Store

/-- What a command returns. -/
def answer (store : Store) : Command → Answer
  | .add refs => .ids (store.addAll refs).1
  | .clear _ => .nothing
  | .unload facet ids => .count (store.unload facet ids).1
  | .mark ids value => .truth (store.mark ids value).1
  | .dialog isOpen => .truth (store.setDialog isOpen).1
  | .showVideo urlsOf id => .truth (store.showVideo urlsOf id).1
  | .hideVideo id => .truth (store.setVideo id none).1
  | .typeSearch search => .truth (store.typeSearch search).1
  | .pick completion => .truth (store.pick completion).1

/-! ## One event, or nothing at all -/

/-- Nothing was told and nothing happened, or a change was told and one event was published. -/
def Announces (before : Store) (told : Bool) (after : Store) : Prop :=
  (told = false ∧ after = before) ∨
    (told = true ∧ ∃ event, after.published = before.published ++ [event])

variable {store : Store}

theorem announces_commit (changed : Option Grid) (event : Grid → Event) :
    store.Announces (store.commit changed event).1 (store.commit changed event).2 := by
  cases changed with
  | none => exact Or.inl ⟨rfl, rfl⟩
  | some grid => exact Or.inr ⟨rfl, event grid, rfl⟩

/-- What is published about some ids is one event, if there are any. -/
theorem exists_published_publishFor {ids : List ItemId} (h : ids ≠ [])
    (event : List ItemId → Event) :
    ∃ news, (store.publishFor ids event).published = store.published ++ [news] := by
  rw [publishFor, if_neg (by rwa [List.isEmpty_iff])]
  exact ⟨event ids, rfl⟩

theorem announces_addAll (refs : List Artifact) :
    store.Announces (!(store.addAll refs).1.isEmpty) (store.addAll refs).2 := by
  by_cases hnone : (store.grid.addAll refs).1 = []
  · have hsame : store.grid.addAll refs = ([], store.grid) :=
      Grid.addAll_of_contains (Grid.contains_of_addAll_nil hnone)
    left
    simp only [addAll, hsame]
    exact ⟨rfl, rfl⟩
  · right
    simp only [addAll]
    refine ⟨?_, exists_published_publishFor hnone _⟩
    rw [Bool.not_eq_true', List.isEmpty_eq_false_iff]
    exact hnone

theorem announces_unload (facet : ByteFacet) (ids : List ItemId) :
    store.Announces ((store.unload facet ids).1 != 0) (store.unload facet ids).2 := by
  by_cases hnone : (store.grid.unload facet ids).1.ids = []
  · left
    simp only [unload, Grid.unload_of_none hnone]
    exact ⟨rfl, rfl⟩
  · right
    simp only [unload]
    refine ⟨?_, exists_published_publishFor hnone _⟩
    rw [bne_iff_ne, ne_eq, List.length_eq_zero_iff]
    exact hnone

theorem announces_mark (ids : Option (List ItemId)) (value : Bool) :
    store.Announces (store.mark ids value).1 (store.mark ids value).2 := by
  unfold mark
  dsimp only
  split
  · exact Or.inl ⟨rfl, rfl⟩
  · exact Or.inr ⟨rfl, _, rfl⟩

theorem announces_showVideo (urlsOf : Artifact → Option VideoLinks) (id : ItemId) :
    store.Announces (store.showVideo urlsOf id).1 (store.showVideo urlsOf id).2 := by
  rcases store.showVideo_cases urlsOf id with ⟨hkept, -⟩ | ⟨entry, urls, -, -, hset⟩
  · rw [hkept]
    exact Or.inl ⟨rfl, rfl⟩
  · rw [hset]
    exact announces_commit _ _

/-- The answer of a command tells whether it did anything. -/
theorem announces_obey (store : Store) {command : Command} (h : command.isRepeatable = true) :
    store.Announces (store.answer command).tellsChange (store.obey command) := by
  cases command with
  | add refs => exact announces_addAll refs
  | unload facet ids => exact announces_unload facet ids
  | mark ids value => exact announces_mark ids value
  | dialog isOpen => exact announces_commit _ _
  | showVideo urlsOf id => exact announces_showVideo urlsOf id
  | hideVideo id => exact announces_commit _ _
  | typeSearch search => exact announces_commit _ _
  | clear keepQuery => cases h
  | pick completion => cases h

/-! ## What a command wants -/

/-- The addresses that the backend gives for a video are those that are stored for it. -/
theorem video_showVideo {urlsOf : Artifact → Option VideoLinks} {id : ItemId} {entry : Entry}
    (hentry : (store.showVideo urlsOf id).2.grid.find? id = some entry)
    (hkind : entry.ref.kind = .video) {urls : VideoLinks} (hurls : urlsOf entry.ref = some urls) :
    entry.video = some urls := by
  rcases store.showVideo_cases urlsOf id with ⟨hkept, hnone⟩ | ⟨old, given, hold, hgiven, hset⟩
  · rw [hkept] at hentry
    rw [hnone entry hentry hkind] at hurls
    cases hurls
  · rw [hset, setVideo, grid_commit] at hentry
    -- Setting addresses keeps the artifact, so the backend is asked for the same one.
    have href : old.ref = entry.ref := by
      cases hafter : store.grid.setVideo? id (some given) with
      | none =>
        rw [hafter, Option.getD_none, hold] at hentry
        rw [Option.some.inj hentry]
      | some after =>
        rw [hafter, Option.getD_some] at hentry
        obtain ⟨before, hbefore, href⟩ :=
          (Grid.sameUpTo_setVideo hafter).exists_before (·.ref) (fun _ => rfl) hentry
        rw [hold] at hbefore
        rw [Option.some.inj hbefore, href]
    rw [href, hurls] at hgiven
    rw [Grid.video_setVideo hentry hkind, hgiven]

/-- After a command the grid is as the command wants it. -/
theorem meets_obey (command : Command) (h : command.isRepeatable = true) :
    (store.obey command).grid.Meets command := by
  cases command with
  | add refs =>
    intro ref hm
    simp only [obey, addAll, grid_publishFor]
    exact Grid.contains_of_mem_addAll hm
  | unload facet ids =>
    intro id hm
    simp only [obey, unload, grid_publishFor]
    exact Grid.handle?_unload hm
  | mark ids value =>
    rw [obey, grid_mark]
    exact fun id hm entry hentry => Grid.selected_mark hm hentry
  | dialog isOpen =>
    simp only [obey, setDialog, grid_commit, Grid.setDialog?]
    split
    · rename_i hsame
      exact hsame
    · rfl
  | showVideo urlsOf id =>
    exact fun entry hentry hkind urls hurls => video_showVideo hentry hkind hurls
  | hideVideo id =>
    rw [obey, setVideo, grid_commit]
    exact fun entry hentry hkind => Grid.video_setVideo hentry hkind
  | typeSearch search =>
    simp only [obey, typeSearch, grid_commit, Grid.setSearch?]
    split
    · rename_i hsame
      exact hsame
    · exact ⟨rfl, rfl⟩
  | clear keepQuery => cases h
  | pick completion => cases h

/-- A command that finds the grid as it wants it tells of no change. -/
theorem tellsChange_of_meets {command : Command} (h : store.grid.Meets command) :
    (store.answer command).tellsChange = false := by
  cases command with
  | add refs =>
    simp only [answer, addAll, Grid.addAll_of_contains h]
    rfl
  | unload facet ids =>
    simp only [answer, unload, Grid.unload_of_empty h]
    rfl
  | mark ids value =>
    simp only [answer, mark, Grid.mark, Grid.flag_of_set h]
    rfl
  | dialog isOpen =>
    have hnone : store.grid.setDialog? isOpen = none := if_pos h
    simp only [answer, setDialog, hnone]
    rfl
  | showVideo urlsOf id =>
    rcases store.showVideo_cases urlsOf id with ⟨hkept, -⟩ | ⟨entry, urls, hentry, hurls, hset⟩
    · simp only [answer, hkept]
      rfl
    · have hnone : store.grid.setVideo? id (some urls) = none :=
        Grid.setVideo?_eq_none_iff.mpr fun other hother hkind => by
          rw [hentry] at hother
          cases hother
          exact h entry hentry hkind urls hurls
      simp only [answer, hset, setVideo, hnone]
      rfl
  | hideVideo id =>
    have hnone : store.grid.setVideo? id none = none := Grid.setVideo?_eq_none_iff.mpr h
    simp only [answer, setVideo, hnone]
    rfl
  | typeSearch search =>
    have hnone : store.grid.setSearch? search (Menu.ofText search) = none := if_pos h
    simp only [answer, typeSearch, hnone]
    rfl
  | clear keepQuery => cases h
  | pick completion => cases h

/-! ## Operations that find nothing to do -/

/-- A load that finds nothing to claim ends at once, and no other does. -/
theorem load_of_taken (facet : ByteFacet) {ids : List ItemId} (size : Nat)
    (h : ∀ id ∈ ids, ∀ entry, store.grid.find? id = some entry → entry.slot facet ≠ .empty) :
    ∃ summary, store.load facet ids size = (store, .done (.ok (.summary summary))) := by
  simp only [load, Grid.claimAll_of_taken h, nextChunk, List.isEmpty_nil, if_true]
  exact ⟨_, rfl⟩

theorem taken_of_load {facet : ByteFacet} {ids : List ItemId} {size : Nat} {after : Store}
    {result : Except Failure Outcome}
    (h : store.load facet ids size = (after, .done result)) :
    ∀ id ∈ ids, ∀ entry, store.grid.find? id = some entry → entry.slot facet ≠ .empty := by
  simp only [load, nextChunk] at h
  split at h
  · rename_i hnone
    exact Grid.taken_of_claimAll_nil (List.isEmpty_iff.mp hnone)
  · cases h

/-- An operation that finds nothing to do makes no call and leaves the store as it was. -/
def PassesOver (store : Store) (operation : Operation) : Prop :=
  ∃ result, store.begin operation = (store, .done result)

/-- A request on the selection is passed over exactly if it is turned away. -/
theorem passesOver_onSelection (operation : Operation) {kind : Request}
    (hkind : operation.request? = some kind) : store.PassesOver operation ↔
      store.grid.requests.get kind = .loading ∨ store.grid.selected = [] := by
  rw [← beginOnSelection_eq_none_iff]
  rcases begin_onSelection (store.begins operation) hkind with
    ⟨hnone, hstore, hends⟩ | ⟨hsome, -, hcarries⟩
  · refine iff_of_true ?_ hnone
    cases hbegin : store.begin operation with
    | mk after progress =>
      rw [hbegin] at hstore hends
      cases progress with
      | done result =>
        have hsame : after = store := hstore
        exact ⟨result, hsame ▸ hbegin⟩
      | waiting pending => cases hends
  · refine iff_of_false ?_ (Option.isSome_iff_ne_none.mp hsome)
    rintro ⟨result, hbegin⟩
    rw [hbegin] at hcarries
    cases hcarries

/-- An image is passed over also where there is no entry to load it for. -/
theorem passesOver_image {id : ItemId} : store.PassesOver (.image id) ↔
    ∀ entry, store.grid.find? id = some entry → entry.image ≠ .empty := by
  rw [PassesOver, begin]
  split
  · constructor
    · rintro ⟨result, hload⟩ entry hentry
      exact taken_of_load hload id List.mem_cons_self entry hentry
    · intro h
      have htaken : ∀ key ∈ [id], ∀ entry, store.grid.find? key = some entry →
          entry.slot .full ≠ .empty := fun key hm => List.mem_singleton.mp hm ▸ h
      obtain ⟨summary, hload⟩ := load_of_taken .full 1 htaken
      exact ⟨_, hload⟩
  · rename_i hout
    refine iff_of_true ⟨_, rfl⟩ fun entry hentry => ?_
    exact absurd (Grid.contains_iff.mpr ⟨entry, hentry⟩) hout

/-- Following the scrolling is passed over if nothing is dropped and nothing is loaded. -/
theorem passesOver_followScroll {entered exited : List ItemId} :
    store.PassesOver (.followScroll entered exited) ↔
      store.grid.Meets (.unload .thumbnail exited) ∧
        ∀ id ∈ entered, ∀ entry, store.grid.find? id = some entry → entry.thumbnail ≠ .empty := by
  constructor
  · rintro ⟨result, hload⟩
    have htaken := taken_of_load hload
    -- Nothing was claimed, so what is left of the store is what unloading left of it.
    have hkept : (store.unload .thumbnail exited).2 = store := by
      obtain ⟨summary, hends⟩ := load_of_taken .thumbnail store.config.thumbnailChunk htaken
      exact congrArg Prod.fst (hends.symm.trans hload)
    have hmeets : (store.unload .thumbnail exited).2.grid.Meets (.unload .thumbnail exited) :=
      meets_obey (.unload .thumbnail exited) rfl
    rw [hkept] at htaken hmeets
    exact ⟨hmeets, htaken⟩
  · rintro ⟨hmeets, htaken⟩
    have hkept : (store.unload .thumbnail exited).2 = store := by
      simp only [unload, Grid.unload_of_empty hmeets]
      rfl
    obtain ⟨summary, hload⟩ := load_of_taken .thumbnail store.config.thumbnailChunk htaken
    simp only [PassesOver, begin, hkept]
    exact ⟨_, hload⟩

/-- A further page is passed over where the grid has no use for it. -/
theorem passesOver_furtherPage {page : Nat} : store.PassesOver (.furtherPage page) ↔
    ∀ active, store.grid.active = some active → active.hasMore = true →
      page ≤ active.page ∨ page ≤ active.requested := by
  simp only [PassesOver, begin, askFurther]
  cases hasked : store.grid.askFurther? page with
  | none =>
    refine iff_of_true ⟨_, rfl⟩ fun active hactive hmore => ?_
    by_contra hfree
    rw [not_or, Nat.not_le, Nat.not_le] at hfree
    have hsome := Grid.askFurther?_eq_some_iff.mpr
      ⟨active, hactive, hmore, hfree.1, hfree.2, rfl, rfl⟩
    rw [hasked] at hsome
    cases hsome
  | some asked =>
    obtain ⟨active, hactive, hmore, hmerged, hrequested, -⟩ :=
      Grid.askFurther?_eq_some_iff.mp hasked
    refine iff_of_false ?_ fun h => ?_
    · rintro ⟨result, hbegin⟩
      cases congrArg Prod.snd hbegin
    · have hrefused := h active hactive hmore
      omega

/-- An operation is passed over exactly if it finds nothing to do. Completions, which may be offered
anew without a call, are left aside. -/
theorem passesOver_iff {operation : Operation} (h : operation ≠ .suggest) :
    store.PassesOver operation ↔ store.grid.NothingFor operation := by
  cases operation with
  | furtherPage page => exact passesOver_furtherPage
  | refill =>
    simp only [PassesOver, begin, Grid.NothingFor]
    cases store.grid.active with
    | none => exact iff_of_true ⟨_, rfl⟩ rfl
    | some active =>
      refine iff_of_false ?_ (Option.some_ne_none active)
      rintro ⟨result, hbegin⟩
      cases congrArg Prod.snd hbegin
  | describe ids =>
    simp only [PassesOver, begin, askRecords, Grid.NothingFor]
    constructor
    · rintro ⟨result, hbegin⟩
      split at hbegin
      · rename_i hnone
        exact Grid.taken_of_claimRecords_nil (List.isEmpty_iff.mp hnone)
      · cases congrArg Prod.snd hbegin
    · intro htaken
      rw [Grid.claimRecords_of_taken htaken]
      exact ⟨_, rfl⟩
  | thumbnails ids chunk =>
    constructor
    · rintro ⟨result, hload⟩
      exact taken_of_load hload
    · intro htaken
      obtain ⟨summary, hload⟩ := load_of_taken .thumbnail chunk htaken
      exact ⟨_, hload⟩
  | image id => exact passesOver_image
  | followScroll entered exited => exact passesOver_followScroll
  | archive => exact passesOver_onSelection .archive rfl
  | delete => exact passesOver_onSelection .delete rfl
  | edit update => exact passesOver_onSelection (.edit update) rfl
  | openQuery queries page =>
    refine iff_of_false ?_ id
    rintro ⟨result, hbegin⟩
    cases congrArg Prod.snd hbegin
  | submit =>
    refine iff_of_false ?_ id
    rintro ⟨result, hbegin⟩
    cases congrArg Prod.snd hbegin
  | suggest => exact absurd rfl h

/-! ## The main result -/

/-- Changes are announced once, and what changes nothing is silent. A command leaves the grid as it
wants it. If that changes the grid, it tells so and publishes one event; if not, it tells so and
leaves the whole store alone; and when the same command is given again at once, it tells of no
change and leaves the store alone. An operation ends at once, without a call, and leaves the store
alone exactly if it finds nothing to do. -/
theorem changes_announced_once (store : Store) :
    (∀ command : Command, command.isRepeatable = true →
      let after := store.obey command
      after.grid.Meets command ∧
      (after.grid ≠ store.grid → (store.answer command).tellsChange = true ∧
        ∃ event, after.published = store.published ++ [event]) ∧
      (after.grid = store.grid → (store.answer command).tellsChange = false ∧ after = store) ∧
      (after.answer command).tellsChange = false ∧ after.obey command = after) ∧
    ∀ operation, operation ≠ .suggest →
      ((∃ result, store.begin operation = (store, .done result)) ↔
        store.grid.NothingFor operation) := by
  refine ⟨fun command hrepeatable => ?_, fun operation h => passesOver_iff h⟩
  intro after
  have hannounces := announces_obey store hrepeatable
  have hagain := announces_obey after hrepeatable
  have hmeets : after.grid.Meets command := meets_obey command hrepeatable
  refine ⟨hmeets, fun hchanged => ?_, fun hsame => ?_, tellsChange_of_meets hmeets, ?_⟩
  · rcases hannounces with ⟨-, hkept⟩ | htold
    · exact absurd (congrArg Store.grid hkept) hchanged
    · exact htold
  · have hsilent := tellsChange_of_meets (hsame ▸ hmeets)
    rw [hsilent] at hannounces
    exact ⟨hsilent, hannounces.elim And.right fun htold => by cases htold.1⟩
  · rw [tellsChange_of_meets hmeets] at hagain
    exact hagain.elim And.right fun htold => by cases htold.1

/-- An entry is named twice beside an id that has none: it is selected with one event, and a second
time with none. Nothing was selected before, so nothing could be archived. -/
theorem changes_announced_once_selected :
    let ref : Artifact := ⟨"shots", "reef.jpg", .image⟩
    let store := (fresh .standard .supply).obey (.add [ref])
    let command : Command := .mark (some [ref.id, ⟨"image:shots:gone.jpg"⟩, ref.id]) true
    let after := store.obey command
    (after.grid ≠ store.grid ∧ (store.answer command).tellsChange = true ∧
      ∃ event, after.published = store.published ++ [event]) ∧
    after.obey command = after ∧
    (store.grid.NothingFor .archive ∧ ∃ result, store.begin .archive = (store, .done result)) := by
  intro ref store command after
  have hchanged : after.grid ≠ store.grid := by decide +kernel
  have hnothing : store.grid.NothingFor .archive := Or.inr (by decide +kernel)
  obtain ⟨hcommands, hoperations⟩ := changes_announced_once store
  obtain ⟨-, hannounced, -, -, hagain⟩ := hcommands command rfl
  have harchive := (hoperations .archive nofun).mpr hnothing
  exact ⟨⟨hchanged, hannounced hchanged⟩, hagain, hnothing, harchive⟩

end Store

/-! ## The steps of a session -/

/-- The command that a step of a session gives. -/
def Step.command? : Step → Option Command
  | .add refs => some (.add refs)
  | .clear keepQuery => some (.clear keepQuery)
  | .unload facet ids => some (.unload facet ids)
  | .mark ids value => some (.mark ids value)
  | .dialog isOpen => some (.dialog isOpen)
  | .showVideo id => some (.showVideo Collection.videoLinks? id)
  | .hideVideo id => some (.hideVideo id)
  | .typeSearch search => some (.typeSearch search)
  | .pick completion => some (.pick completion)
  | _ => none

/-- A step that gives a command reports the answer of the command, and its store is the one after
it. -/
theorem Session.act_of_command (session : Session) {step : Step} {command : Command}
    (h : step.command? = some command) :
    session.act step =
      (session.store.answer command, { session with store := session.store.obey command }) := by
  cases step <;> cases h <;> rfl

end MediaGrid
