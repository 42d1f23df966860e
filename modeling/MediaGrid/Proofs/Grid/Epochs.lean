import Mathlib.Data.List.Induction
import MediaGrid.Proofs.Grid.Frame
import MediaGrid.Proofs.Grid.Membership
import MediaGrid.Proofs.Grid.Run

/-!
# Pages and the epochs in which they were asked for

An epoch ends when the view is cleared or a query is begun, and no epoch comes back. A page
that comes in the epoch in which it was asked for finds its query, and adds the artifacts that
have no entry yet; a page that comes later changes nothing. So the view never holds an entry
from before it was last cleared, nor one from a page that was asked for in an earlier epoch.
Epochs that no request handed out are covered as far as they are over.
-/

namespace MediaGrid

namespace GridAction

/-- Whether an action clears the view. -/
def clears : GridAction → Bool
  | .clear _ => true
  | _ => false

/-- Whether an action ends the epoch: it clears the view or begins a query. -/
def endsEpoch : GridAction → Bool
  | .clear _ => true
  | .openQuery _ _ => true
  | _ => false

end GridAction

namespace Grid

/-- The epoch that a request for a page hands out, to be carried by its page. -/
def pageEpoch? (grid : Grid) : GridAction → Option Nat
  | .openQuery queries page => some (grid.openQuery queries page).1
  | .askFurther page => (grid.askFurther? page).map (·.1.2)
  | _ => none

/-- The ids of the artifacts that have no entry, each once, in the order given. -/
def unseen (grid : Grid) (refs : List Artifact) : List ItemId :=
  ((refs.map Artifact.id).filter fun id => !grid.contains id).eraseDups

/-! ## Adding the unseen artifacts -/

/-- An id has an entry after adding if it had one or is that of the artifact. -/
theorem contains_add (grid : Grid) (ref : Artifact) (id : ItemId) :
    (grid.add ref).contains id = (grid.contains id || id == ref.id) := by
  have hfind := grid.find?_add ref id
  rw [contains, contains, Table.contains_eq_isSome, Table.contains_eq_isSome, ← find?, ← find?,
    hfind, Option.isSome_or]
  by_cases h : id = ref.id <;> simp [h]

/-- The artifacts that are added are those that are unseen. -/
theorem added_addAll (grid : Grid) (refs : List Artifact) :
    (grid.addAll refs).1 = grid.unseen refs := by
  induction refs generalizing grid with
  | nil => rfl
  | cons ref rest ih =>
    have hrest : (grid.add ref).unseen rest =
        (((rest.map Artifact.id).filter fun id => !grid.contains id).filter
          fun id => !id == ref.id).eraseDups := by
      rw [unseen, List.filter_filter]
      congr 2
      funext id
      rw [contains_add, Bool.not_or, Bool.and_comm]
    simp only [addAll, ih, hrest]
    by_cases hin : grid.contains ref.id
    · -- The id is not among those that are left, so nothing is erased.
      rw [if_pos hin, unseen, List.map_cons, List.filter_cons_of_neg (by simp [hin])]
      congr 1
      refine List.filter_eq_self.mpr fun id hm => ?_
      have hout := (List.mem_filter.mp hm).2
      by_cases he : id = ref.id
      · rw [he, hin] at hout
        cases hout
      · simp [he]
    · rw [if_neg hin, unseen, List.map_cons, List.filter_cons_of_pos (by simp [hin]),
        List.eraseDups_cons]

/-- What is added comes behind the others. -/
theorem ids_addAll (grid : Grid) (refs : List Artifact) :
    (grid.addAll refs).2.ids = grid.ids ++ (grid.addAll refs).1 := by
  induction refs generalizing grid with
  | nil => exact (List.append_nil _).symm
  | cons ref rest ih =>
    simp only [addAll, ih]
    by_cases hin : grid.contains ref.id
    · rw [if_pos hin, add, if_pos hin]
    · rw [if_neg hin, add, if_neg hin, List.append_assoc]
      rfl

/-- What is added is unseen and among the artifacts that were given. -/
theorem mem_unseen {grid : Grid} {refs : List Artifact} {id : ItemId} :
    id ∈ grid.unseen refs ↔ (∃ ref ∈ refs, ref.id = id) ∧ grid.contains id = false := by
  simp [unseen]

/-- An artifact that is added has an entry of its own, of which nothing is loaded. -/
theorem find?_unseen {grid : Grid} {refs : List Artifact} {id : ItemId}
    (h : id ∈ grid.unseen refs) :
    ∃ ref ∈ refs, ref.id = id ∧ (grid.addAll refs).2.find? id = some (Entry.ofRef ref) := by
  obtain ⟨⟨ref, hm, hid⟩, hout⟩ := mem_unseen.mp h
  have hnone : grid.find? id = none := by
    rw [contains, Table.contains_eq_isSome] at hout
    exact Option.isNone_iff_eq_none.mp (Option.isSome_eq_false_iff.mp hout)
  have hsome : (refs.find? (·.id == id)).isSome := by
    rw [List.isSome_find?]
    exact List.any_eq_true.mpr ⟨ref, hm, beq_iff_eq.mpr hid⟩
  obtain ⟨first, hfirst⟩ := Option.isSome_iff_exists.mp hsome
  refine ⟨first, List.mem_of_find?_eq_some hfirst, ?_, ?_⟩
  · simpa using List.find?_some hfirst
  · rw [find?_addAll, hnone, Option.none_or, hfirst]
    rfl

/-! ## Merging -/

/-- A page of an epoch that is over is not merged. -/
theorem mergePage_stale {grid : Grid} {epoch : Nat} (h : epoch ≠ grid.epoch) (page : Page) :
    grid.mergePage epoch page = (none, grid) := by
  rw [mergePage, if_pos h]

theorem withdrawPage_stale {grid : Grid} {epoch : Nat} (h : epoch ≠ grid.epoch) :
    grid.withdrawPage? epoch = none := by
  rw [withdrawPage?, if_pos h]

/-- A page of the epoch adds the unseen artifacts, if there is a query. -/
theorem mergePage_current {grid : Grid} {active : PagedQuery} (h : grid.active = some active)
    (page : Page) :
    grid.mergePage grid.epoch page =
      (some ⟨grid.unseen page.refs, (active.merged page).page, (active.merged page).hasMore⟩,
        { (grid.addAll page.refs).2 with active := some (active.merged page) }) := by
  rw [← added_addAll, mergePage, if_neg fun hne => hne rfl]
  dsimp only
  rw [active_addAll, h]

/-! ## What an action does to the epoch and the view order -/

/-- The epoch lasts, with or without a query as before, and nothing is added to the view. -/
structure Lasts (before after : Grid) : Prop where
  /-- The epoch is the same. -/
  epoch : after.epoch = before.epoch
  /-- There is a query if there was one. -/
  active : after.active.isSome = before.active.isSome
  /-- The ids in view order were there before. -/
  ids : ∀ id ∈ after.ids, id ∈ before.ids

namespace Lasts

variable {before after : Grid}

protected theorem refl (grid : Grid) : Lasts grid grid := ⟨rfl, rfl, fun _ h => h⟩

/-- What leaves epoch, query and view order alone. -/
theorem of_rest (hepoch : after.epoch = before.epoch) (hactive : after.active = before.active)
    (hids : after.ids = before.ids) : Lasts before after :=
  ⟨hepoch, by rw [hactive], fun _ hm => hids ▸ hm⟩

theorem of_sameUpTo {blank : Entry → Entry} (h : SameUpTo blank before after) :
    Lasts before after :=
  of_rest h.epoch_eq h.active_eq h.ids_eq

end Lasts

theorem lasts_discard (grid : Grid) (ids : List ItemId) : Lasts grid (grid.discard ids).2 := by
  refine ⟨epoch_discard grid ids, by rw [active_discard], fun id hm => ?_⟩
  by_cases hnone : (grid.dropEntries ids).1.ids = []
  · rw [discard_of_none hnone] at hm
    exact hm
  · rw [discard_of_some hnone] at hm
    have hids := (congrArg Grid.ids (dropEntries_rest grid ids) : _)
    exact hids ▸ (List.mem_filter.mp hm).1

theorem lasts_mark (grid : Grid) (ids : Option (List ItemId)) (value : Bool) :
    Lasts grid (grid.mark ids value).2 := by
  obtain ⟨entries, count, hmark⟩ := grid.exists_mark ids value
  rw [hmark]
  exact .of_rest rfl rfl rfl

/-- An action that neither ends the epoch nor adds entries. -/
theorem lasts_act (grid : Grid) {action : GridAction} (hlasts : action.endsEpoch = false)
    (hadd : ∀ refs, action ≠ .add refs) (hmerge : ∀ epoch page, action ≠ .mergePage epoch page) :
    Lasts grid (grid.act action) := by
  cases action with
  | add refs => exact absurd rfl (hadd refs)
  | discard ids => exact grid.lasts_discard ids
  | clear keepQuery => cases hlasts
  | openQuery queries page => cases hlasts
  | askFurther page =>
    simp only [act]
    cases hask : grid.askFurther? page with
    | none => exact .refl grid
    | some asked =>
      obtain ⟨active, hactive, -, -, -, -, hgrid⟩ := askFurther?_eq_some_iff.mp hask
      rw [Option.map_some, Option.getD_some, hgrid]
      exact ⟨rfl, by rw [hactive]; rfl, fun _ hm => hm⟩
  | mergePage epoch page => exact absurd rfl (hmerge epoch page)
  | withdrawPage epoch =>
    simp only [act, withdrawPage?]
    split
    · exact .refl grid
    · exact ⟨rfl, Option.isSome_map, fun _ hm => hm⟩
  | claim facet ids =>
    have hclaim := Lasts.of_sameUpTo (grid.sameUpTo_claimAll facet ids)
    exact ⟨hclaim.epoch, hclaim.active, hclaim.ids⟩
  | fill facet claim handle =>
    simp only [act]
    cases hfill : grid.fill? facet claim (fun place : Unit => (handle, place)) () with
    | none => exact .refl grid
    | some filled => exact .of_sameUpTo (sameUpTo_fill hfill)
  | giveUp facet claim =>
    simp only [act]
    cases hgive : grid.giveUp? facet claim with
    | none => exact .refl grid
    | some grid' => exact .of_sameUpTo (sameUpTo_giveUp hgive)
  | unload facet ids => exact .of_sameUpTo (grid.sameUpTo_unload facet ids)
  | claimRecords ids => exact .of_sameUpTo (grid.sameUpTo_claimRecords ids)
  | settleRecords claimed records =>
    exact .of_sameUpTo (grid.sameUpTo_settleRecords claimed records)
  | giveUpRecords ids => exact .of_sameUpTo (grid.sameUpTo_giveUpRecords ids)
  | amendRecords update ids => exact .of_sameUpTo (grid.sameUpTo_amendRecords update ids)
  | mark ids value => exact grid.lasts_mark ids value
  | moveRequest kind state =>
    simp only [act, moveRequest?]
    split <;> exact .of_rest rfl rfl rfl
  | beginOnSelection kind =>
    simp only [act, beginOnSelection?]
    split
    · exact .refl grid
    · split <;> exact .of_rest rfl rfl rfl
  | setVideo id urls =>
    simp only [act]
    cases hset : grid.setVideo? id urls with
    | none => exact .refl grid
    | some grid' => exact .of_sameUpTo (sameUpTo_setVideo hset)
  | setSearch search menu =>
    simp only [act, setSearch?]
    split <;> exact .of_rest rfl rfl rfl
  | setCompletions completions =>
    simp only [act, setCompletions?]
    split <;> exact .of_rest rfl rfl rfl
  | setDialog isOpen =>
    simp only [act, setDialog?]
    split <;> exact .of_rest rfl rfl rfl

/-- In an epoch that lasts, adding and merging leave epoch and query where they are, too. -/
theorem act_of_lasts {grid : Grid} {action : GridAction} (hlasts : action.endsEpoch = false) :
    (grid.act action).epoch = grid.epoch ∧
      (grid.act action).active.isSome = grid.active.isSome := by
  by_cases hadd : ∃ refs, action = .add refs
  · obtain ⟨refs, rfl⟩ := hadd
    exact ⟨epoch_addAll grid refs, by rw [act, active_addAll]⟩
  by_cases hmerge : ∃ epoch page, action = .mergePage epoch page
  · obtain ⟨epoch, page, rfl⟩ := hmerge
    rcases grid.mergePage_cases epoch page with h | ⟨active, hactive, h⟩
    · rw [act, h]
      exact ⟨rfl, rfl⟩
    · rw [act, h]
      exact ⟨epoch_addAll grid page.refs, hactive⟩
  have h := lasts_act grid hlasts (fun refs he => hadd ⟨refs, he⟩)
    fun epoch page he => hmerge ⟨epoch, page, he⟩
  exact ⟨h.epoch, h.active⟩

/-- The epoch counts the actions that end one. -/
theorem epoch_act (grid : Grid) (action : GridAction) :
    (grid.act action).epoch = grid.epoch + if action.endsEpoch then 1 else 0 := by
  cases hends : action.endsEpoch with
  | false => exact (act_of_lasts hends).1
  | true => cases action <;> first | rfl | cases hends

theorem epoch_run (grid : Grid) (actions : List GridAction) :
    (grid.run actions).epoch = grid.epoch + actions.countP GridAction.endsEpoch := by
  induction actions generalizing grid with
  | nil => rfl
  | cons action rest ih =>
    refine (ih (grid.act action)).trans ?_
    rw [epoch_act, List.countP_cons]
    omega

/-- The query of an epoch is there as long as the epoch lasts. -/
theorem active_run {grid : Grid} {actions : List GridAction}
    (hlasts : ∀ action ∈ actions, action.endsEpoch = false) :
    (grid.run actions).active.isSome = grid.active.isSome := by
  induction actions generalizing grid with
  | nil => rfl
  | cons action rest ih =>
    have hrest : ((grid.act action).run rest).active.isSome = (grid.act action).active.isSome :=
      ih fun other hm => hlasts other (List.mem_cons_of_mem _ hm)
    exact hrest.trans (act_of_lasts (hlasts action List.mem_cons_self)).2

/-- The epoch that a request hands out is that in which its page is asked for, and there is a
query then. -/
theorem act_of_pageEpoch {grid : Grid} {request : GridAction} {epoch : Nat}
    (h : grid.pageEpoch? request = some epoch) :
    (grid.act request).epoch = epoch ∧ (grid.act request).active.isSome := by
  cases request with
  | openQuery queries page =>
    cases h
    exact ⟨rfl, rfl⟩
  | askFurther page =>
    obtain ⟨asked, hask, rfl⟩ := Option.map_eq_some_iff.mp h
    obtain ⟨active, -, -, -, -, hasked, hgrid⟩ := askFurther?_eq_some_iff.mp hask
    rw [act, hask, Option.map_some, Option.getD_some, hgrid, hasked]
    exact ⟨rfl, rfl⟩
  | _ => cases h

/-- An epoch that was handed out is over once an action ended it, and lasts until then. -/
theorem pageEpoch_run {grid : Grid} {request : GridAction} {epoch : Nat}
    (h : grid.pageEpoch? request = some epoch) (later : List GridAction) :
    ((grid.act request).run later).epoch = epoch + later.countP GridAction.endsEpoch := by
  rw [epoch_run, (act_of_pageEpoch h).1]

/-! ## Where the entries of the view come from -/

/-- An id that is new in the view was added, or came with a page of the epoch. -/
theorem added_act {grid : Grid} {action : GridAction} {id : ItemId}
    (hout : id ∉ grid.ids) (hin : id ∈ (grid.act action).ids) :
    (∃ refs, action = .add refs) ∨ ∃ page, action = .mergePage grid.epoch page := by
  by_cases hadd : ∃ refs, action = .add refs
  · exact Or.inl hadd
  by_cases hmerge : ∃ epoch page, action = .mergePage epoch page
  · obtain ⟨epoch, page, rfl⟩ := hmerge
    by_cases hepoch : epoch = grid.epoch
    · exact Or.inr ⟨page, by rw [hepoch]⟩
    · rw [act, mergePage_stale hepoch] at hin
      exact absurd hin hout
  cases hends : action.endsEpoch with
  | false =>
    have h := lasts_act grid hends (fun refs he => hadd ⟨refs, he⟩)
      fun epoch page he => hmerge ⟨epoch, page, he⟩
    exact absurd (h.ids id hin) hout
  | true =>
    cases action with
    | clear keepQuery => cases hin
    | openQuery queries page => exact absurd hin hout
    | _ => cases hends

/-- Clearing leaves no id in the view. -/
theorem ids_of_clears {grid : Grid} {action : GridAction} (h : action.clears = true) :
    (grid.act action).ids = [] := by
  cases action with
  | clear keepQuery => rfl
  | _ => cases h

/-- Every page that is merged in a run was asked for before in the run, and carries the epoch
that its request handed out. -/
def Requested (actions : List GridAction) : Prop :=
  ∀ early late epoch page, actions = early ++ .mergePage epoch page :: late →
    ∃ before request between, early = before ++ request :: between ∧
      (empty.run before).pageEpoch? request = some epoch

/-- An action added an id to the view, either by itself or as a page that was asked for in an
epoch that lasted until then. -/
def Adds (early : List GridAction) (action : GridAction) (id : ItemId) : Prop :=
  id ∉ (empty.run early).ids ∧ id ∈ (empty.run (early ++ [action])).ids ∧
    ((∃ refs, action = .add refs) ∨
      ∃ epoch page, action = .mergePage epoch page ∧
        ∃ before request between, early = before ++ request :: between ∧
          (empty.run before).pageEpoch? request = some epoch ∧
          ∀ other ∈ between, other.endsEpoch = false)

theorem run_concat (grid : Grid) (actions : List GridAction) (action : GridAction) :
    grid.run (actions ++ [action]) = (grid.run actions).act action :=
  List.foldl_append

theorem run_append_cons (grid : Grid) (before later : List GridAction) (action : GridAction) :
    grid.run (before ++ action :: later) = ((grid.run before).act action).run later :=
  List.foldl_append

/-- Every id in the view was added after the view was last cleared. -/
theorem exists_adds {actions : List GridAction} (hrequested : Requested actions) {id : ItemId}
    (hin : id ∈ (empty.run actions).ids) :
    ∃ early action late, actions = early ++ action :: late ∧ Adds early action id ∧
      ∀ other ∈ late, other.clears = false := by
  -- Seen from the end of the run: the last action added the id, or it was there before.
  induction actions using List.reverseRecOn with
  | nil => cases hin
  | append_singleton actions last ih =>
    by_cases hbefore : id ∈ (empty.run actions).ids
    · have hearlier : Requested actions := fun early late epoch page he =>
        hrequested early (late ++ [last]) epoch page (by rw [he, List.append_assoc]; rfl)
      obtain ⟨early, action, late, rfl, hadds, hlate⟩ := ih hearlier hbefore
      refine ⟨early, action, late ++ [last], by rw [List.append_assoc]; rfl, hadds, ?_⟩
      intro other hm
      rcases List.mem_append.mp hm with hm | hm
      · exact hlate other hm
      · rw [List.mem_singleton.mp hm, Bool.eq_false_iff]
        intro hclears
        rw [run_concat, ids_of_clears hclears] at hin
        cases hin
    · refine ⟨actions, last, [], rfl, ⟨hbefore, hin, ?_⟩, fun _ hm => by cases hm⟩
      rw [run_concat] at hin
      rcases added_act hbefore hin with hadd | ⟨page, rfl⟩
      · exact Or.inl hadd
      obtain ⟨before, request, between, he, hepoch⟩ :=
        hrequested actions [] _ page rfl
      refine Or.inr ⟨_, page, rfl, before, request, between, he, hepoch, fun other hm => ?_⟩
      -- The page carries the epoch of its delivery, so no action between ended it.
      have hcount := pageEpoch_run hepoch between
      rw [← run_append_cons, ← he] at hcount
      have hzero : between.countP GridAction.endsEpoch = 0 := by omega
      exact Bool.eq_false_iff.mpr (List.countP_eq_zero.mp hzero other hm)

/-- Pages that come too late are kept out of the view. An epoch that a request for a page handed
out is over for good once the view was cleared or a query begun, and its page then changes
nothing, whether it came or failed. As long as the epoch lasts there is a query, and the page is
merged: the unseen artifacts come behind the others in the order of the page, and no entry
that was there is touched. So every id in the view was added after the view was last cleared, by
itself or with a page that was asked for after that, in an epoch that lasted until the page
came. -/
theorem stale_pages_isolated :
    (∀ (before later : List GridAction) (request : GridAction) (epoch : Nat) (page : Page),
      (empty.run before).pageEpoch? request = some epoch →
      let grid := empty.run (before ++ request :: later)
      ((∃ action ∈ later, action.endsEpoch = true) →
        epoch ≠ grid.epoch ∧ grid.mergePage epoch page = (none, grid) ∧
          grid.withdrawPage? epoch = none) ∧
      ((∀ action ∈ later, action.endsEpoch = false) →
        epoch = grid.epoch ∧ grid.active.isSome ∧
          ∃ merged grid', grid.mergePage epoch page = (some merged, grid') ∧
            merged.added = grid.unseen page.refs ∧ grid'.ids = grid.ids ++ merged.added ∧
            (∀ id entry, grid.find? id = some entry → grid'.find? id = some entry) ∧
            ∀ id ∈ merged.added, ∃ ref ∈ page.refs, ref.id = id ∧
              grid'.find? id = some (Entry.ofRef ref))) ∧
    ∀ actions : List GridAction, Requested actions → ∀ id ∈ (empty.run actions).ids,
      ∃ early action late, actions = early ++ action :: late ∧ Adds early action id ∧
        ∀ other ∈ late, other.clears = false := by
  refine ⟨fun before later request epoch page hepoch => ?_, fun actions hrequested id hin =>
    exists_adds hrequested hin⟩
  intro grid
  have hgrid : grid.epoch = epoch + later.countP GridAction.endsEpoch := by
    simp only [grid, run_append_cons, pageEpoch_run hepoch]
  constructor
  · intro hends
    have hpos : 0 < later.countP GridAction.endsEpoch := List.countP_pos_iff.mpr hends
    have hover : epoch ≠ grid.epoch := by omega
    exact ⟨hover, mergePage_stale hover page, withdrawPage_stale hover⟩
  · intro hlasts
    have hzero : later.countP GridAction.endsEpoch = 0 :=
      List.countP_eq_zero.mpr fun action hm => Bool.eq_false_iff.mp (hlasts action hm)
    have hnow : epoch = grid.epoch := by omega
    have hactive : grid.active.isSome := by
      simp only [grid, run_append_cons]
      rw [active_run hlasts]
      exact (act_of_pageEpoch hepoch).2
    obtain ⟨active, hsome⟩ := Option.isSome_iff_exists.mp hactive
    refine ⟨hnow, hactive, _, _, by rw [hnow]; exact mergePage_current hsome page, rfl, ?_, ?_, ?_⟩
    · exact (grid.ids_addAll page.refs).trans (by rw [added_addAll])
    · intro id entry hentry
      refine (grid.find?_addAll page.refs id).trans ?_
      rw [hentry, Option.some_or]
    · exact fun id hm => find?_unseen hm

/-- The view was cleared and the query begun again while its page was on the way. The page that
came too late is dropped, and the one that was asked for last is merged. -/
theorem stale_pages_isolated_reopened :
    let page : Page := ⟨[⟨"shots", "a.jpg", .image⟩], 0, true⟩
    let reopened := empty.run [.openQuery [] 0, .clear true, .openQuery [] 0]
    let actions : List GridAction := [.openQuery [] 0, .clear true, .openQuery [] 0,
      .mergePage 1 page, .mergePage 3 page]
    reopened.mergePage 1 page = (none, reopened) ∧ Requested actions ∧
      ∃ early action late, actions = early ++ action :: late ∧
        Adds early action ⟨"image:shots:a.jpg"⟩ ∧ ∀ other ∈ late, other.clears = false := by
  intro page reopened actions
  have hstale := (stale_pages_isolated.1 [] [.clear true, .openQuery [] 0] (.openQuery [] 0) 1 page
    rfl).1 ⟨.clear true, List.mem_cons_self, rfl⟩
  have hrequested : Requested actions := by
    intro early late epoch page he
    rcases early with _ | ⟨a, _ | ⟨b, _ | ⟨c, _ | ⟨d, _ | ⟨e, rest⟩⟩⟩⟩⟩
    all_goals
      simp only [actions, List.nil_append, List.cons_append, List.cons.injEq,
        GridAction.mergePage.injEq, reduceCtorEq, false_and, and_false] at he
    · obtain ⟨rfl, rfl, rfl, ⟨rfl, -⟩, -⟩ := he
      exact ⟨[], .openQuery [] 0, [.clear true, .openQuery [] 0], rfl, rfl⟩
    · obtain ⟨rfl, rfl, rfl, rfl, ⟨rfl, -⟩, -⟩ := he
      exact ⟨[.openQuery [] 0, .clear true], .openQuery [] 0, [.mergePage 1 _], rfl, rfl⟩
    · simp at he
  have hin : (⟨"image:shots:a.jpg"⟩ : ItemId) ∈ (empty.run actions).ids := by decide +kernel
  exact ⟨hstale.2.1, hrequested, stale_pages_isolated.2 actions hrequested _ hin⟩

end Grid

end MediaGrid
