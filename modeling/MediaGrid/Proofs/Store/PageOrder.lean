import MediaGrid.Proofs.Store.PageMoves

/-!
# Pages that come in any order

Several pages of a query can be on their way at once, and they come in any order. The page of the
query is the highest that was merged since the query was begun, whatever the order. Whether pages
remain is what the page says that was merged last. So it is what the highest page says if that one
came last, and a lower page that comes later overrules it. The backend answers with the number it
was asked for; which pages it calls the last is free, and pages may fail in between.
-/

namespace MediaGrid

namespace PageMove

/-- A page that is merged has the number that was asked for. -/
def AsAsked : PageMove → Prop
  | .merges asked page => page.number = asked
  | _ => True

instance : DecidablePred AsAsked
  | .merges asked page => inferInstanceAs (Decidable (page.number = asked))
  | .rests => .isTrue trivial
  | .clears => .isTrue trivial
  | .opens _ _ => .isTrue trivial
  | .asks _ => .isTrue trivial
  | .loses _ => .isTrue trivial

/-- The pages that were merged since the query was begun, after one more move. -/
def merged (pages : List Page) : PageMove → List Page
  | .opens _ _ => []
  | .merges _ page => pages ++ [page]
  | _ => pages

end PageMove

namespace Paging

/-- The query goes by the pages that were merged since it was begun. -/
structure GoesBy (paging : Paging) (pages : List Page) : Prop where
  /-- Its page is the highest of them. -/
  highest : ∀ active, paging.active = some active → pages ≠ [] →
    (∃ page ∈ pages, page.number = active.page) ∧ ∀ page ∈ pages, page.number ≤ active.page
  /-- Whether pages remain is what the last of them says. -/
  last : ∀ active, paging.active = some active →
    active.hasMore = pages.getLast?.any fun page => !page.isLast
  /-- Before any was merged only the first one is asked for. -/
  first : ∀ active, paging.active = some active → pages = [] →
    ∀ asked ∈ paging.inFlight, asked = active.page

variable {before after : Paging} {pages : List Page} {move : PageMove}

/-- Without a query there is nothing to go by. -/
theorem goesBy_of_none (h : before.active = none) (pages : List Page) : before.GoesBy pages where
  highest _ hactive := nomatch h.symm.trans hactive
  last _ hactive := nomatch h.symm.trans hactive
  first _ hactive := nomatch h.symm.trans hactive

/-- If pages were merged, whether pages remain is what one of them says, which came last. -/
theorem GoesBy.hasMore_eq (h : before.GoesBy pages) {active : PagedQuery}
    (hactive : before.active = some active) (hsome : pages ≠ []) :
    ∃ last, pages.getLast? = some last ∧ active.hasMore = !last.isLast := by
  have hcame := List.getLast?_eq_some_getLast hsome
  refine ⟨_, hcame, ?_⟩
  rw [h.last active hactive, hcame, Option.any_some]

/-- A page that is merged may be the new highest one. -/
theorem GoesBy.merges (h : before.GoesBy pages) {asked : Nat} {page : Page} {active : PagedQuery}
    {inFlight : List Nat} (hactive : before.active = some active)
    (hinFlight : before.inFlight.Perm (asked :: inFlight)) (hnumber : page.number = asked) :
    GoesBy ⟨before.epoch, some (active.merged page), inFlight⟩ (pages ++ [page]) where
  highest merged hmerged _ := by
    cases hmerged
    have hpage : (active.merged page).page = max active.page page.number := rfl
    by_cases hempty : pages = []
    · -- The first page that is merged is the one the query was begun at.
      have hfirst := h.first active hactive hempty asked (hinFlight.mem_iff.mpr List.mem_cons_self)
      rw [hpage, hnumber, hfirst, Nat.max_self, hempty]
      refine ⟨⟨page, List.mem_singleton_self _, hnumber.trans hfirst⟩, fun other hm => ?_⟩
      rw [List.mem_singleton.mp hm]
      exact Nat.le_of_eq (hnumber.trans hfirst)
    · obtain ⟨⟨highest, hm, heq⟩, hle⟩ := h.highest active hactive hempty
      rw [hpage]
      refine ⟨?_, fun other hm => ?_⟩
      · rcases Nat.le_total active.page page.number with hlt | hlt
        · exact ⟨page, List.mem_append_right _ (List.mem_singleton_self _),
            (Nat.max_eq_right hlt).symm⟩
        · exact ⟨highest, List.mem_append_left _ hm, heq.trans (Nat.max_eq_left hlt).symm⟩
      · rcases List.mem_append.mp hm with hm | hm
        · exact Nat.le_trans (hle other hm) (Nat.le_max_left _ _)
        · rw [List.mem_singleton.mp hm]
          exact Nat.le_max_right _ _
  last merged hmerged := by
    cases hmerged
    rw [List.getLast?_concat]
    rfl
  first _ _ hempty := absurd hempty (List.append_ne_nil_of_right_ne_nil _ (List.cons_ne_nil _ _))

/-- Which page was asked for last does not matter. -/
theorem GoesBy.requested (h : before.GoesBy pages) {active : PagedQuery} {inFlight : List Nat}
    (hactive : before.active = some active) (requested : Nat)
    (hfirst : pages = [] → ∀ asked ∈ inFlight, asked = active.page) :
    GoesBy ⟨before.epoch, some { active with requested }, inFlight⟩ pages where
  highest _ hnext := by
    cases hnext
    exact h.highest active hactive
  last _ hnext := by
    cases hnext
    exact h.last active hactive
  first _ hnext := by
    cases hnext
    exact hfirst

/-- Every move keeps the query going by the pages that were merged. -/
theorem GoesBy.moves (h : before.GoesBy pages) (hmoves : before.Moves move after)
    (hasked : move.AsAsked) : after.GoesBy (move.merged pages) := by
  cases hmoves with
  | rests => exact h
  | clears hepoch hactive =>
    rcases hactive with rfl | rfl
    · exact goesBy_of_none rfl _
    · exact ⟨h.highest, h.last, fun _ _ _ _ hm => nomatch hm⟩
  | opens queries page hepoch =>
    refine ⟨fun _ _ hsome => absurd rfl hsome, fun active hactive => ?_,
      fun active hactive _ asked hm => ?_⟩
    · cases hactive
      rfl
    · cases hactive
      exact List.mem_singleton.mp hm
  | asks page hactive hmore hpage hrequested =>
    -- Pages remain, so one was merged.
    refine h.requested hactive page fun hnone => ?_
    have hlast := h.last _ hactive
    rw [hmore, hnone] at hlast
    cases hlast
  | merges asked page hactive hinFlight => exact h.merges hactive hinFlight hasked
  | loses asked hactive hinFlight =>
    exact h.requested hactive _ fun hnone other hm =>
      h.first _ hactive hnone other (hinFlight.mem_iff.mpr (List.mem_cons_of_mem _ hm))

end Paging

namespace Service

/-- The pages that were merged during a run since the query was begun, oldest first. -/
def mergedPages (service : Service) (turns : List Turn) : List Page :=
  (service.pageMoves turns).foldl PageMove.merged []

/-- The query goes by the pages that were merged during a run. -/
theorem goesBy_run {service : Service} (hcovered : service.Covered) {pages : List Page}
    (h : service.paging.GoesBy pages) {turns : List Turn}
    (hasked : ∀ move ∈ service.pageMoves turns, move.AsAsked) :
    (service.run turns).paging.GoesBy ((service.pageMoves turns).foldl PageMove.merged pages) := by
  induction turns generalizing service pages with
  | nil => exact h
  | cons turn rest ih =>
    have hfirst := h.moves (moves_turn hcovered turn) (hasked _ List.mem_cons_self)
    exact ih (covered_turn service turn hcovered) hfirst fun move hm =>
      hasked move (List.mem_cons_of_mem _ hm)

theorem goesBy_mergedPages (config : Config) (draw : Nat → Uuid) {turns : List Turn}
    (hasked : ∀ move ∈ (fresh config draw).pageMoves turns, move.AsAsked) :
    ((fresh config draw).run turns).paging.GoesBy ((fresh config draw).mergedPages turns) :=
  goesBy_run (covered_fresh config draw) (Paging.goesBy_of_none rfl []) hasked

/-- The order in which pages come does not matter for the page of the query, which is the highest
that was merged since the query was begun. Whether pages remain is what the page says that came
last. So it is what the highest page says exactly if the two say the same, as they do where the
highest came last. Two runs that merged the same pages end at the same page, and they agree on
whether pages remain exactly if the pages that came last do. -/
theorem page_order (config : Config) (draw : Nat → Uuid) (turns : List Turn)
    (hasked : ∀ move ∈ (fresh config draw).pageMoves turns, move.AsAsked) (active : PagedQuery)
    (hactive : ((fresh config draw).run turns).store.grid.active = some active) :
    let merged := (fresh config draw).mergedPages turns
    (merged ≠ [] → (∃ page ∈ merged, page.number = active.page) ∧
      ∀ page ∈ merged, page.number ≤ active.page) ∧
    (active.hasMore = merged.getLast?.any fun page => !page.isLast) ∧
    (∀ highest ∈ merged, (∀ page ∈ merged, page.number ≤ highest.number) →
      active.page = highest.number ∧
        (active.hasMore = !highest.isLast ↔
          merged.getLast?.map Page.isLast = some highest.isLast)) ∧
    ∀ turns' active', (∀ move ∈ (fresh config draw).pageMoves turns', move.AsAsked) →
      ((fresh config draw).run turns').store.grid.active = some active' →
      let merged' := (fresh config draw).mergedPages turns'
      merged' ≠ [] → merged'.Perm merged → active'.page = active.page ∧
        (active'.hasMore = active.hasMore ↔
          merged'.getLast?.map Page.isLast = merged.getLast?.map Page.isLast) := by
  intro merged
  have hgoes := goesBy_mergedPages config draw hasked
  have hhighest := hgoes.highest active hactive
  have hlast := hgoes.last active hactive
  refine ⟨hhighest, hlast, fun highest hm hle => ?_, fun turns' active' hasked' hactive' => ?_⟩
  · have hsome : merged ≠ [] := List.ne_nil_of_mem hm
    obtain ⟨⟨page, hpage, heq⟩, hbound⟩ := hhighest hsome
    obtain ⟨last, hcame, hmore⟩ := hgoes.hasMore_eq hactive hsome
    refine ⟨Nat.le_antisymm (heq ▸ hle page hpage) (hbound highest hm), ?_⟩
    rw [hmore, hcame, Bool.not_inj_iff, Option.map_some, Option.some.injEq]
  · intro merged' hsome' hperm
    have hsome : merged ≠ [] := fun hnone => hsome' (List.perm_nil.mp (hnone ▸ hperm))
    have hgoes' := goesBy_mergedPages config draw hasked'
    obtain ⟨⟨page', hpage', heq'⟩, hbound'⟩ := hgoes'.highest active' hactive' hsome'
    obtain ⟨⟨page, hpage, heq⟩, hbound⟩ := hhighest hsome
    obtain ⟨last', hcame', hmore'⟩ := hgoes'.hasMore_eq hactive' hsome'
    obtain ⟨last, hcame, hmore⟩ := hgoes.hasMore_eq hactive hsome
    refine ⟨Nat.le_antisymm ?_ ?_, ?_⟩
    · rw [← heq']
      exact hbound page' (hperm.mem_iff.mp hpage')
    · rw [← heq]
      exact hbound' page (hperm.mem_iff.mpr hpage)
    · rw [hmore, hmore', hcame, hcame', Bool.not_inj_iff, Option.map_some, Option.map_some,
        Option.some.injEq]

/-- Of four pages the third comes before the second, and the last one comes last. -/
theorem page_order_overtaken :
    let turns : List Turn :=
      [.start (.openQuery [] 0), .answer 0 (.page (.ok ⟨[], 0, false⟩)),
        .start (.furtherPage 1), .start (.furtherPage 2), .start (.furtherPage 3),
        .answer 1 (.page (.ok ⟨[], 2, false⟩)), .answer 1 (.page (.ok ⟨[], 1, false⟩)),
        .answer 0 (.page (.ok ⟨[], 3, true⟩))]
    let service := (fresh .standard .supply).run turns
    service.store.grid.active = some ⟨[], 3, false, 3⟩ ∧
      (fresh .standard .supply).mergedPages turns =
        [⟨[], 0, false⟩, ⟨[], 2, false⟩, ⟨[], 1, false⟩, ⟨[], 3, true⟩] ∧
      ∀ active, service.store.grid.active = some active → active.page = 3 ∧
        active.hasMore = false := by
  intro turns service
  have hmerged : (fresh .standard .supply).mergedPages turns =
      [⟨[], 0, false⟩, ⟨[], 2, false⟩, ⟨[], 1, false⟩, ⟨[], 3, true⟩] := by decide +kernel
  refine ⟨by decide +kernel, hmerged, fun active hactive => ?_⟩
  obtain ⟨-, -, hhighest, -⟩ :=
    page_order .standard .supply turns (by decide +kernel) active hactive
  rw [hmerged] at hhighest
  obtain ⟨hpage, hmore⟩ := hhighest ⟨[], 3, true⟩ (by decide) (by decide)
  exact ⟨hpage, hmore.mpr (by decide)⟩

/-- The third page is the last one. If it comes before the second, then pages remain again when the
second comes; if it comes behind it, none do. -/
theorem page_order_reopened :
    let asked : List Turn :=
      [.start (.openQuery [] 0), .answer 0 (.page (.ok ⟨[], 0, false⟩)),
        .start (.furtherPage 1), .start (.furtherPage 2)]
    let overtaken :=
      asked ++ [.answer 0 (.page (.ok ⟨[], 2, true⟩)), .answer 0 (.page (.ok ⟨[], 1, false⟩))]
    let ordered :=
      asked ++ [.answer 1 (.page (.ok ⟨[], 1, false⟩)), .answer 0 (.page (.ok ⟨[], 2, true⟩))]
    (∀ move ∈ (fresh .standard .supply).pageMoves overtaken, move.AsAsked) ∧
      (fresh .standard .supply).mergedPages overtaken =
        [⟨[], 0, false⟩, ⟨[], 2, true⟩, ⟨[], 1, false⟩] ∧
      ((fresh .standard .supply).run overtaken).store.grid.active = some ⟨[], 2, true, 2⟩ ∧
      (fresh .standard .supply).mergedPages ordered =
        [⟨[], 0, false⟩, ⟨[], 1, false⟩, ⟨[], 2, true⟩] ∧
      ((fresh .standard .supply).run ordered).store.grid.active = some ⟨[], 2, false, 2⟩ := by
  decide +kernel

end Service

end MediaGrid
