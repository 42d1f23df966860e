import MediaGrid.Proofs.Store.PageRequests

/-!
# Whether the next page may be asked for

The page after the last merged one may be asked for unless a page beyond that one was asked for
before. Such a page is on its way: when it comes it is merged, and when it fails the highest page
asked for goes back to the last merged page. Only clearing the view ends a request and keeps that
number where it is. If the query is kept then, the query is stranded: nothing is on its way, and
the next page is refused until a page beyond the lost one is asked for, or a query is begun. The
backend answers with the number it was asked for.
-/

namespace MediaGrid

/-- Where pages remain, a page may be asked for if it lies beyond every page merged or asked for. -/
theorem Grid.isSome_askFurther?_iff {grid : Grid} {active : PagedQuery}
    (hactive : grid.active = some active) (hmore : active.hasMore = true) (page : Nat) :
    (grid.askFurther? page).isSome ↔ active.page < page ∧ active.requested < page := by
  rw [Option.isSome_iff_exists]
  constructor
  · rintro ⟨⟨asked, grid'⟩, h⟩
    obtain ⟨other, hother, -, hpage, hrequested, -⟩ := askFurther?_eq_some_iff.mp h
    cases hactive.symm.trans hother
    exact ⟨hpage, hrequested⟩
  · rintro ⟨hpage, hrequested⟩
    exact ⟨_, askFurther?_eq_some_iff.mpr ⟨active, hactive, hmore, hpage, hrequested, rfl, rfl⟩⟩

namespace Paging

variable {before after : Paging} {move : PageMove}

/-- The highest page asked for was merged, or is on its way. -/
def Expects (paging : Paging) : Prop :=
  ∀ active, paging.active = some active →
    active.requested ≤ active.page ∨ active.requested ∈ paging.inFlight

/-- The highest page asked for lies beyond the last merged one, and is on its way. -/
def Ahead (paging : Paging) : Prop :=
  ∃ active, paging.active = some active ∧ active.page < active.requested ∧
    active.requested ∈ paging.inFlight

/-- The highest page asked for lies beyond the last merged one, and nothing is on its way. -/
structure Stranded (paging : Paging) : Prop where
  /-- A page beyond the last merged one was asked for. -/
  requested : ∃ active, paging.active = some active ∧ active.page < active.requested
  /-- Nothing is on its way. -/
  nothing : paging.inFlight = []

theorem expects_of_none (h : before.active = none) : before.Expects :=
  fun _ hactive => nomatch h.symm.trans hactive

/-- What is stranded is not to be expected any more. -/
theorem Stranded.not_expects (h : before.Stranded) : ¬before.Expects := by
  intro hexpects
  obtain ⟨active, hactive, hlt⟩ := h.requested
  rcases hexpects active hactive with hle | hm
  · exact absurd hle (Nat.not_le_of_lt hlt)
  · rw [h.nothing] at hm
    cases hm

/-- When a page comes, the highest page asked for is merged with it or goes on being waited for. -/
theorem Expects.merges (h : before.Expects) {asked : Nat} {page : Page} {active : PagedQuery}
    {inFlight : List Nat} (hactive : before.active = some active)
    (hinFlight : before.inFlight.Perm (asked :: inFlight)) (hnumber : page.number = asked) :
    Expects ⟨before.epoch, some (active.merged page), inFlight⟩ := by
  intro merged hmerged
  cases hmerged
  have hpage : (active.merged page).page = max active.page page.number := rfl
  have hrequested : (active.merged page).requested =
      max active.requested (max active.page page.number) := rfl
  by_cases hle : active.requested ≤ max active.page page.number
  · exact Or.inl (by omega)
  · have hm := (h active hactive).resolve_left (by omega)
    have hsame : (active.merged page).requested = active.requested := by omega
    rcases List.mem_cons.mp (hinFlight.mem_iff.mp hm) with heq | hm
    · exact Or.inl (by omega)
    · exact Or.inr (hsame ▸ hm)

/-- However a request ends, the highest page asked for is on its way still, was merged, or is the
last merged one, unless the view is cleared. -/
theorem Expects.moves (h : before.Expects) (hmoves : before.Moves move after)
    (hasked : move.AsAsked) (hkept : move ≠ .clears) : after.Expects := by
  cases hmoves with
  | rests => exact h
  | clears hepoch hactive => exact absurd rfl hkept
  | opens queries page hepoch =>
    intro active hnext
    cases hnext
    exact Or.inl (Nat.le_refl _)
  | asks page hactive hmore hpage hrequested =>
    intro active hnext
    cases hnext
    exact Or.inr List.mem_cons_self
  | merges asked page hactive hinFlight => exact h.merges hactive hinFlight hasked
  | loses asked hactive hinFlight =>
    intro active hnext
    cases hnext
    exact Or.inl (Nat.le_refl _)

/-- Clearing the view strands the query if a page beyond the last merged one is on its way, unless
it drops the query. -/
theorem Ahead.clears (h : before.Ahead) (hmoves : before.Moves .clears after) :
    after.active = none ∨ after.Stranded := by
  obtain ⟨active, hsome, hlt, -⟩ := h
  cases hmoves with
  | clears hepoch hactive =>
    exact hactive.imp_right fun hsame => ⟨⟨active, hsame.trans hsome, hlt⟩, rfl⟩

/-- Otherwise clearing the view strands no query. -/
theorem Expects.clears (h : before.Expects) (hmoves : before.Moves .clears after)
    (hahead : ¬before.Ahead) : after.Expects := by
  intro active hnext
  cases hmoves with
  | clears hepoch hactive =>
    have hsome : before.active = some active := by
      rcases hactive with hnone | hsame
      · cases hnone.symm.trans hnext
      · exact hsame.symm.trans hnext
    refine Or.inl (Nat.le_of_not_lt fun hlt => hahead ⟨active, hsome, hlt, ?_⟩)
    exact (h active hsome).resolve_left (Nat.not_le_of_lt hlt)

/-- A query stays stranded until a page is asked for, unless it is dropped. -/
theorem Stranded.rests (h : before.Stranded) (hmoves : before.Moves move after)
    (hrests : move = .rests ∨ move = .clears) : after.active = none ∨ after.Stranded := by
  obtain ⟨active, hsome, hlt⟩ := h.requested
  cases hmoves with
  | rests => exact Or.inr h
  | clears hepoch hactive =>
    exact hactive.imp_right fun hsame => ⟨⟨active, hsame.trans hsome, hlt⟩, rfl⟩
  | _ => cases hrests <;> contradiction

/-- A query that was dropped stays so until one is begun. -/
theorem active_of_rests (h : before.active = none) (hmoves : before.Moves move after)
    (hrests : move = .rests ∨ move = .clears) : after.active = none := by
  cases hmoves with
  | rests => exact h
  | clears hepoch hactive => exact hactive.elim (fun hnone => hnone) fun hsame => hsame.trans h
  | _ => cases hrests <;> contradiction

/-- Any other move of a query that is stranded asks for a page, which is on its way then. -/
theorem Stranded.moves (h : before.Stranded) (hmoves : before.Moves move after)
    (hmove : ¬(move = .rests ∨ move = .clears)) : after.Expects := by
  intro active hnext
  cases hmoves with
  | rests => exact absurd (Or.inl rfl) hmove
  | clears hepoch hactive => exact absurd (Or.inr rfl) hmove
  | opens queries page hepoch =>
    cases hnext
    exact Or.inl (Nat.le_refl _)
  | asks page hactive hmore hpage hrequested =>
    cases hnext
    exact Or.inr List.mem_cons_self
  | merges asked page hactive hinFlight =>
    rw [h.nothing] at hinFlight
    cases hinFlight.nil_eq
  | loses asked hactive hinFlight =>
    rw [h.nothing] at hinFlight
    cases hinFlight.nil_eq

end Paging

namespace Service

/-- The view was cleared during a run while a page beyond the last merged one was on its way, and
no page was asked for since. -/
def Strands (service : Service) (turns : List Turn) : Prop :=
  ∃ early turn late, turns = early ++ turn :: late ∧
    let before := service.run early
    before.paging.Ahead ∧ before.pageMove turn = .clears ∧
      ∀ move ∈ (before.turn turn).pageMoves late, move = .rests ∨ move = .clears

variable {service : Service}

/-- What rests afterwards changes nothing about it. -/
theorem Strands.concat {turns : List Turn} (h : service.Strands turns) {turn : Turn}
    (hrests : (service.run turns).pageMove turn = .rests ∨
      (service.run turns).pageMove turn = .clears) : service.Strands (turns ++ [turn]) := by
  obtain ⟨early, cleared, late, rfl, hahead, hclears, hlate⟩ := h
  refine ⟨early, cleared, late ++ [turn], by simp, hahead, hclears, fun move hm => ?_⟩
  rw [pageMoves_append] at hm
  rcases List.mem_append.mp hm with hm | hm
  · exact hlate move hm
  · rw [run_append] at hrests
    rw [List.mem_singleton.mp hm]
    exact hrests

/-- The highest page asked for is to be expected at the end of a run, unless the query was stranded
during the run and is so still. -/
theorem expects_run (hcovered : service.Covered) (h : service.paging.Expects)
    {turns : List Turn} (hasked : ∀ move ∈ service.pageMoves turns, move.AsAsked) :
    (service.run turns).paging.Expects ∨
      (service.run turns).paging.Stranded ∧ service.Strands turns := by
  induction turns using List.reverseRecOn with
  | nil => exact Or.inl h
  | append_singleton turns turn ih =>
    rw [pageMoves_append] at hasked
    have hrun := ih fun move hm => hasked move (List.mem_append_left _ hm)
    have hturn : ((service.run turns).pageMove turn).AsAsked :=
      hasked _ (List.mem_append_right _ (List.mem_singleton_self _))
    have hmoves := moves_turn (run_keeps covered_turn hcovered turns) turn
    rw [run_concat]
    rcases hrun with hexpects | ⟨hstranded, hstrands⟩
    · by_cases hclears : (service.run turns).pageMove turn = .clears
      · by_cases hahead : (service.run turns).paging.Ahead
        · rcases hahead.clears (hclears ▸ hmoves) with hnone | hstranded
          · exact Or.inl (Paging.expects_of_none hnone)
          · exact Or.inr ⟨hstranded, turns, turn, [], rfl, hahead, hclears, fun _ hm => nomatch hm⟩
        · exact Or.inl (hexpects.clears (hclears ▸ hmoves) hahead)
      · exact Or.inl (hexpects.moves hmoves hturn hclears)
    · by_cases hrests : (service.run turns).pageMove turn = .rests ∨
          (service.run turns).pageMove turn = .clears
      · rcases hstranded.rests hmoves hrests with hnone | hstranded
        · exact Or.inl (Paging.expects_of_none hnone)
        · exact Or.inr ⟨hstranded, hstrands.concat hrests⟩
      · exact Or.inl (hstranded.moves hmoves hrests)

/-- A query that is stranded stays so while no page is asked for, unless it is dropped. -/
theorem stranded_run (hcovered : service.Covered)
    (h : service.paging.active = none ∨ service.paging.Stranded) {turns : List Turn}
    (hrests : ∀ move ∈ service.pageMoves turns, move = .rests ∨ move = .clears) :
    (service.run turns).paging.active = none ∨ (service.run turns).paging.Stranded := by
  induction turns generalizing service with
  | nil => exact h
  | cons turn rest ih =>
    have hmoves := moves_turn hcovered turn
    have hturn := hrests _ List.mem_cons_self
    refine ih (covered_turn service turn hcovered) ?_ fun move hm =>
      hrests move (List.mem_cons_of_mem _ hm)
    rcases h with hnone | hstranded
    · exact Or.inl (Paging.active_of_rests hnone hmoves hturn)
    · exact hstranded.rests hmoves hturn

/-- A query that was stranded during a run and was not dropped is stranded still. -/
theorem Strands.stranded (hcovered : service.Covered) {turns : List Turn}
    (h : service.Strands turns) {active : PagedQuery}
    (hactive : (service.run turns).paging.active = some active) :
    (service.run turns).paging.Stranded := by
  obtain ⟨early, turn, late, rfl, hahead, hclears, hlate⟩ := h
  have hbefore : (service.run early).Covered := run_keeps covered_turn hcovered early
  have hcleared := hahead.clears (hclears ▸ moves_turn hbefore turn)
  have hend := stranded_run (covered_turn _ turn hbefore) hcleared hlate
  have hrun : service.run (early ++ turn :: late) = ((service.run early).turn turn).run late := by
    rw [run_append]
    rfl
  rw [hrun] at hactive ⊢
  exact hend.resolve_left fun hnone => nomatch hnone.symm.trans hactive

/-- Where pages remain and none is on its way, the page after the last merged one may be asked for,
unless the view was cleared while a page beyond it was on its way, and no page was asked for since.
Then asking for that page does nothing, and neither does asking for any other up to the lost one. -/
theorem next_page_asked (config : Config) (draw : Nat → Uuid) (turns : List Turn)
    (hasked : ∀ move ∈ (fresh config draw).pageMoves turns, move.AsAsked) (active : PagedQuery)
    (hactive : ((fresh config draw).run turns).store.grid.active = some active)
    (hmore : active.hasMore = true)
    (hnothing : ((fresh config draw).run turns).paging.inFlight = []) :
    let service := (fresh config draw).run turns
    ((service.store.grid.askFurther? (active.page + 1)).isSome ↔
      ¬(fresh config draw).Strands turns) ∧
    ((fresh config draw).Strands turns → ∀ page ≤ active.requested,
      service.turn (.start (.furtherPage page)) = service) := by
  intro service
  have hfresh := covered_fresh config draw
  have hrun := expects_run hfresh (Paging.expects_of_none rfl) hasked
  have hguard := Grid.isSome_askFurther?_iff hactive hmore
  have hstranded : (fresh config draw).Strands turns ↔ active.page < active.requested := by
    constructor
    · intro hstrands
      obtain ⟨other, hother, hlt⟩ := (hstrands.stranded hfresh hactive).requested
      cases hactive.symm.trans hother
      exact hlt
    · intro hlt
      refine (hrun.resolve_left fun hexpects => ?_).2
      exact Paging.Stranded.not_expects ⟨⟨active, hactive, hlt⟩, hnothing⟩ hexpects
  refine ⟨?_, fun _ page hle => ?_⟩
  · rw [hguard, hstranded]
    omega
  · have hrefused : service.store.grid.askFurther? page = none :=
      Option.not_isSome_iff_eq_none.mp fun hsome =>
        absurd ((hguard page).mp hsome).2 (Nat.not_lt_of_le hle)
    have hbegin : service.store.begin (.furtherPage page) =
        (service.store, .done (.ok (.ids []))) := by
      rw [Store.begin, Store.askFurther, hrefused]
    rw [turn, hbegin]
    rfl

/-- The view is cleared after the second page was merged, and the third is asked for and fails. The
query is not stranded, and the third page may be asked for again. -/
theorem next_page_asked_after_failure :
    let turns : List Turn :=
      [.start (.openQuery [] 0), .answer 0 (.page (.ok ⟨[], 0, false⟩)),
        .start (.furtherPage 1), .answer 0 (.page (.ok ⟨[], 1, false⟩)), .command (.clear true),
        .start (.furtherPage 2), .answer 0 (.page (.error (.backend "gone")))]
    ((fresh .standard .supply).run turns).store.grid.active = some ⟨[], 1, true, 1⟩ ∧
      ¬(fresh .standard .supply).Strands turns := by
  intro turns
  have hactive : ((fresh .standard .supply).run turns).store.grid.active =
      some ⟨[], 1, true, 1⟩ := by decide +kernel
  have hsome : (((fresh .standard .supply).run turns).store.grid.askFurther? 2).isSome := by
    decide +kernel
  have hnext := next_page_asked .standard .supply turns (by decide +kernel) _ hactive rfl
    (by decide +kernel)
  exact ⟨hactive, hnext.1.mp hsome⟩

/-- The view is cleared while the second page is on its way. When that page came for nothing, no
request is left, and the second page is refused. -/
theorem next_page_refused :
    let turns : List Turn :=
      [.start (.openQuery [] 0), .answer 0 (.page (.ok ⟨[], 0, false⟩)),
        .start (.furtherPage 1), .command (.clear true),
        .answer 0 (.page (.ok ⟨[], 1, false⟩))]
    let service := (fresh .standard .supply).run turns
    (∀ move ∈ (fresh .standard .supply).pageMoves turns, move.AsAsked) ∧
      service.waiting = [] ∧ service.paging.inFlight = [] ∧
      service.store.grid.active = some ⟨[], 0, true, 1⟩ ∧
      service.store.grid.askFurther? 1 = none := by
  decide +kernel

end Service

end MediaGrid
