import MediaGrid.Proofs.Store.PageOrder

/-!
# Pages that are asked for once

A single number stands for all pages of a query that are on their way: the highest page asked for.
When a page fails that number goes back to the last merged page, even if higher pages are still on
their way. As long as no page fails while a higher one than the last merged page is waited for
besides it, all pages that are waited for are different, and a page is asked for again only after
it failed itself. In any case a page is asked for again only after some page failed. All this is
about one epoch; pages of earlier ones may well be asked for again.
-/

namespace MediaGrid

namespace PageMove

/-- The number of the page that a move asks for. -/
def asksFor? : PageMove → Option Nat
  | .opens _ page => some page
  | .asks page => some page
  | _ => none

/-- The page that fails is alone beyond the last merged page: no other one that is waited for
afterwards lies beyond it. -/
def FailsAlone (after : Paging) : PageMove → Prop
  | .loses _ => ∀ active, after.active = some active → ∀ other ∈ after.inFlight, other ≤ active.page
  | _ => True

end PageMove

namespace Paging

variable {before after : Paging} {move : PageMove}

/-! ## Pages on their way -/

/-- The pages that are waited for are different, and none lies beyond the highest page asked
for. -/
structure Distinct (paging : Paging) : Prop where
  /-- No page is waited for twice. -/
  nodup : paging.inFlight.Nodup
  /-- Every page that is waited for lies below the highest page asked for, or is it. -/
  bounded : ∀ active, paging.active = some active → ∀ asked ∈ paging.inFlight,
    asked ≤ active.requested

/-- Pages stay different where failing pages are alone. -/
theorem Distinct.moves (h : before.Distinct) (hmoves : before.Moves move after)
    (halone : move.FailsAlone after) : after.Distinct := by
  cases hmoves with
  | rests => exact h
  | clears hepoch hactive => exact ⟨.nil, fun _ _ _ hm => nomatch hm⟩
  | opens queries page hepoch =>
    refine ⟨List.nodup_singleton page, fun active hnext asked hm => ?_⟩
    cases hnext
    exact Nat.le_of_eq (List.mem_singleton.mp hm)
  | asks page hactive hmore hpage hrequested =>
    refine ⟨List.nodup_cons.mpr ⟨fun hm => ?_, h.nodup⟩, fun active hnext asked hm => ?_⟩
    · have hle := h.bounded _ hactive page hm
      omega
    · cases hnext
      rcases List.mem_cons.mp hm with rfl | hm
      · exact Nat.le_refl _
      · exact Nat.le_trans (h.bounded _ hactive asked hm) (Nat.le_of_lt hrequested)
  | merges asked page hactive hinFlight =>
    have hnodup := hinFlight.nodup_iff.mp h.nodup
    refine ⟨(List.nodup_cons.mp hnodup).2, fun active hnext other hm => ?_⟩
    cases hnext
    have hle := h.bounded _ hactive other (hinFlight.mem_iff.mpr (List.mem_cons_of_mem _ hm))
    exact Nat.le_trans hle (Nat.le_max_left _ _)
  | loses asked hactive hinFlight =>
    have hnodup := hinFlight.nodup_iff.mp h.nodup
    refine ⟨(List.nodup_cons.mp hnodup).2, fun active hnext other hm => ?_⟩
    cases hnext
    exact halone _ rfl other hm

/-! ## Pages that were asked for -/

/-- A page cannot be asked for: it was asked for, or one beyond it was. -/
def Taken (paging : Paging) (page : Nat) : Prop :=
  ∀ active, paging.active = some active → page ≤ active.requested

/-- A page will not become free by the failure of another one: it was merged, or one beyond it was,
or it is waited for. -/
def Settled (paging : Paging) (page : Nat) : Prop :=
  ∀ active, paging.active = some active → page ≤ active.page ∨ page ∈ paging.inFlight

variable {page : Nat}

/-- A page that is taken is not asked for. -/
theorem Taken.not_asks (h : before.Taken page) : ¬before.Moves (.asks page) after := by
  intro hmoves
  cases hmoves with
  | asks page hactive hmore hpage hrequested =>
    exact absurd hrequested (Nat.not_lt_of_le (h _ hactive))

/-- A page that is asked for is taken, and settled. -/
theorem taken_of_asksFor (hmoves : before.Moves move after) (hasks : move.asksFor? = some page) :
    after.Taken page ∧ after.Settled page := by
  cases hmoves with
  | opens queries first hepoch =>
    cases hasks
    refine ⟨fun active hnext => ?_, fun active hnext => ?_⟩
    · cases hnext
      exact Nat.le_refl _
    · cases hnext
      exact Or.inl (Nat.le_refl _)
  | asks next hactive hmore hpage hrequested =>
    cases hasks
    refine ⟨fun active hnext => ?_, fun active hnext => Or.inr List.mem_cons_self⟩
    cases hnext
    exact Nat.le_refl _
  | _ => cases hasks

/-- A page stays taken in its epoch until some page fails. -/
theorem Taken.moves (h : before.Taken page) (hmoves : before.Moves move after)
    (hepoch : after.epoch = before.epoch) (hkept : ∀ asked, move ≠ .loses asked) :
    after.Taken page := by
  intro active hnext
  cases hmoves with
  | rests => exact h active hnext
  | clears hlt hactive => exact absurd hepoch (Nat.ne_of_gt hlt)
  | opens queries first hlt => exact absurd hepoch (Nat.ne_of_gt hlt)
  | asks next hactive hmore hpage hrequested =>
    cases hnext
    exact Nat.le_trans (h _ hactive) (Nat.le_of_lt hrequested)
  | merges asked come hactive hinFlight =>
    cases hnext
    exact Nat.le_trans (h _ hactive) (Nat.le_max_left _ _)
  | loses asked hactive hinFlight => exact absurd rfl (hkept asked)

/-- A page stays settled in its epoch until it fails. -/
theorem Settled.moves (h : before.Settled page) (hmoves : before.Moves move after)
    (hepoch : after.epoch = before.epoch) (hasked : move.AsAsked) (hkept : move ≠ .loses page) :
    after.Settled page := by
  intro active hnext
  cases hmoves with
  | rests => exact h active hnext
  | clears hlt hactive => exact absurd hepoch (Nat.ne_of_gt hlt)
  | opens queries first hlt => exact absurd hepoch (Nat.ne_of_gt hlt)
  | asks next hactive hmore hpage hrequested =>
    cases hnext
    exact (h _ hactive).imp_right (List.mem_cons_of_mem _)
  | merges asked come hactive hinFlight =>
    cases hnext
    rcases h _ hactive with hpage | hm
    · exact Or.inl (Nat.le_trans hpage (Nat.le_max_left _ _))
    · rcases List.mem_cons.mp (hinFlight.mem_iff.mp hm) with rfl | hm
      · exact Or.inl (Nat.le_trans (Nat.le_of_eq hasked.symm) (Nat.le_max_right _ _))
      · exact Or.inr hm
  | loses asked hactive hinFlight =>
    cases hnext
    refine (h _ hactive).imp_right fun hm => ?_
    rcases List.mem_cons.mp (hinFlight.mem_iff.mp hm) with rfl | hm
    · exact absurd rfl hkept
    · exact hm

/-- A page that is settled when another one fails alone stays taken. -/
theorem Settled.taken {asked : Nat} (h : after.Settled page)
    (hmoves : before.Moves (.loses asked) after)
    (halone : (PageMove.loses asked).FailsAlone after) : after.Taken page := by
  intro active hnext
  have hpage : page ≤ active.page := by
    rcases h active hnext with hpage | hm
    · exact hpage
    · exact halone active hnext page hm
  cases hmoves with
  | loses asked hactive hinFlight =>
    cases hnext
    exact hpage

end Paging

namespace Service

/-- Every page of a run that fails is alone beyond the last merged page. -/
def FailsAlone (service : Service) : List Turn → Prop
  | [] => True
  | turn :: rest => (service.pageMove turn).FailsAlone (service.turn turn).paging ∧
    (service.turn turn).FailsAlone rest

variable {service : Service}

theorem failsAlone_append {early late : List Turn} :
    service.FailsAlone (early ++ late) ↔
      service.FailsAlone early ∧ (service.run early).FailsAlone late := by
  induction early generalizing service with
  | nil => exact (and_iff_right trivial).symm
  | cons turn rest ih =>
    rw [List.cons_append, FailsAlone, FailsAlone, ih, and_assoc]
    rfl

theorem pageMoves_append (early late : List Turn) : service.pageMoves (early ++ late) =
    service.pageMoves early ++ (service.run early).pageMoves late := by
  induction early generalizing service with
  | nil => rfl
  | cons turn rest ih => exact congrArg _ ih

/-- The epoch does not go back in a run. -/
theorem epoch_le_run (hcovered : service.Covered) (turns : List Turn) :
    service.paging.epoch ≤ (service.run turns).paging.epoch := by
  induction turns generalizing service with
  | nil => exact Nat.le_refl _
  | cons turn rest ih =>
    exact Nat.le_trans (moves_turn hcovered turn).epoch_le
      (ih (covered_turn service turn hcovered))

theorem distinct_run (hcovered : service.Covered) (h : service.paging.Distinct)
    {turns : List Turn} (halone : service.FailsAlone turns) :
    (service.run turns).paging.Distinct := by
  induction turns generalizing service with
  | nil => exact h
  | cons turn rest ih =>
    exact ih (covered_turn service turn hcovered)
      (h.moves (moves_turn hcovered turn) halone.1) halone.2

/-- The first turn of a run that ends in its epoch does not end it. -/
theorem epoch_turn_of_run (hcovered : service.Covered) {turn : Turn} {rest : List Turn}
    (h : (service.run (turn :: rest)).paging.epoch = service.paging.epoch) :
    (service.turn turn).paging.epoch = service.paging.epoch := by
  have hle := epoch_le_run (covered_turn service turn hcovered) rest
  have hrun : ((service.turn turn).run rest).paging.epoch = service.paging.epoch := h
  exact Nat.le_antisymm (hrun ▸ hle) (moves_turn hcovered turn).epoch_le

/-- A page that is taken stays so to the end of a run in its epoch, or some page fails. -/
theorem taken_run {page : Nat} (hcovered : service.Covered) (h : service.paging.Taken page)
    {turns : List Turn} (hepoch : (service.run turns).paging.epoch = service.paging.epoch) :
    (∃ asked, .loses asked ∈ service.pageMoves turns) ∨ (service.run turns).paging.Taken page := by
  induction turns generalizing service with
  | nil => exact Or.inr h
  | cons turn rest ih =>
    have hsame := epoch_turn_of_run hcovered hepoch
    simp only [pageMoves, List.mem_cons]
    by_cases hlost : ∃ asked, service.pageMove turn = .loses asked
    · exact Or.inl (hlost.imp fun asked he => Or.inl he.symm)
    · have htaken := h.moves (moves_turn hcovered turn) hsame fun asked he => hlost ⟨asked, he⟩
      have hrest := ih (covered_turn service turn hcovered) htaken (hepoch.trans hsame.symm)
      exact hrest.imp_left fun ⟨asked, hm⟩ => ⟨asked, Or.inr hm⟩

/-- Where pages fail alone, a page that is taken and settled stays so to the end of a run in its
epoch, or it fails itself. -/
theorem settled_run {page : Nat} (hcovered : service.Covered) (htaken : service.paging.Taken page)
    (h : service.paging.Settled page) {turns : List Turn}
    (hepoch : (service.run turns).paging.epoch = service.paging.epoch)
    (hasked : ∀ move ∈ service.pageMoves turns, move.AsAsked)
    (halone : service.FailsAlone turns) :
    .loses page ∈ service.pageMoves turns ∨ (service.run turns).paging.Taken page := by
  induction turns generalizing service with
  | nil => exact Or.inr htaken
  | cons turn rest ih =>
    have hsame := epoch_turn_of_run hcovered hepoch
    have hmoves := moves_turn hcovered turn
    rw [pageMoves, List.mem_cons]
    by_cases hlost : service.pageMove turn = .loses page
    · exact Or.inl (Or.inl hlost.symm)
    · have hsettled := h.moves hmoves hsame (hasked _ List.mem_cons_self) hlost
      have hkept : (service.turn turn).paging.Taken page := by
        by_cases hother : ∃ asked, service.pageMove turn = .loses asked
        · obtain ⟨asked, he⟩ := hother
          rw [he] at hmoves
          exact hsettled.taken hmoves (he ▸ halone.1)
        · exact htaken.moves hmoves hsame fun asked he => hother ⟨asked, he⟩
      have hrest := ih (covered_turn service turn hcovered) hkept hsettled
        (hepoch.trans hsame.symm) (fun move hm => hasked move (List.mem_cons_of_mem _ hm)) halone.2
      exact hrest.imp_left Or.inr

/-- No turn asks for a page that is taken. -/
theorem pageMove_ne_asks (hcovered : service.Covered) {page : Nat}
    (h : service.paging.Taken page) (turn : Turn) : service.pageMove turn ≠ .asks page := by
  intro hasks
  have hmoves := moves_turn hcovered turn
  rw [hasks] at hmoves
  exact h.not_asks hmoves

/-- A page that was asked for is asked for again in its epoch only after some page failed. -/
theorem exists_loses_of_asks (hcovered : service.Covered) {turn again : Turn} {turns : List Turn}
    {page : Nat} (hasks : (service.pageMove turn).asksFor? = some page)
    (hepoch : ((service.turn turn).run turns).paging.epoch = (service.turn turn).paging.epoch)
    (hagain : ((service.turn turn).run turns).pageMove again = .asks page) :
    ∃ asked, .loses asked ∈ (service.turn turn).pageMoves turns := by
  have hnext := covered_turn service turn hcovered
  have htaken := (Paging.taken_of_asksFor (moves_turn hcovered turn) hasks).1
  refine (taken_run hnext htaken hepoch).resolve_right fun hkept => ?_
  exact pageMove_ne_asks (run_keeps covered_turn hnext turns) hkept again hagain

/-- Where pages fail alone, a page that was asked for is asked for again in its epoch only after it
failed itself. -/
theorem loses_of_asks (hcovered : service.Covered) {turn again : Turn} {turns : List Turn}
    {page : Nat} (hasks : (service.pageMove turn).asksFor? = some page)
    (hepoch : ((service.turn turn).run turns).paging.epoch = (service.turn turn).paging.epoch)
    (hasked : ∀ move ∈ (service.turn turn).pageMoves turns, move.AsAsked)
    (halone : (service.turn turn).FailsAlone turns)
    (hagain : ((service.turn turn).run turns).pageMove again = .asks page) :
    .loses page ∈ (service.turn turn).pageMoves turns := by
  have hnext := covered_turn service turn hcovered
  obtain ⟨htaken, hsettled⟩ := Paging.taken_of_asksFor (moves_turn hcovered turn) hasks
  refine (settled_run hnext htaken hsettled hepoch hasked halone).resolve_right fun hkept => ?_
  exact pageMove_ne_asks (run_keeps covered_turn hnext turns) hkept again hagain

/-- Where pages fail alone, no page of the epoch is waited for twice. A page of the epoch is asked
for again only after some page of it failed: between the turn that asked for it and the one that
does so again, one is lost. That is the page itself, if pages fail alone and the backend answers
with the numbers it was asked for. -/
theorem pages_asked_once (config : Config) (draw : Nat → Uuid) (turns : List Turn) :
    let service := (fresh config draw).run turns
    ((fresh config draw).FailsAlone turns → service.paging.inFlight.Nodup) ∧
      ∀ early turn middle page again, turns = early ++ turn :: middle →
        let before := (fresh config draw).run early
        (before.pageMove turn).asksFor? = some page →
        (before.turn turn).store.grid.epoch = service.store.grid.epoch →
        service.pageMove again = .asks page →
        (∃ asked, .loses asked ∈ (before.turn turn).pageMoves middle) ∧
          ((fresh config draw).FailsAlone turns →
            (∀ move ∈ (fresh config draw).pageMoves turns, move.AsAsked) →
            .loses page ∈ (before.turn turn).pageMoves middle) := by
  intro service
  have hfresh : (fresh config draw).paging.Distinct := ⟨.nil, fun _ h => nomatch h⟩
  refine ⟨fun halone => (distinct_run (covered_fresh config draw) hfresh halone).nodup, ?_⟩
  intro early turn middle page again hturns before hasks hepoch hagain
  have hcovered : before.Covered := covered_run config draw early
  have hservice : service = (before.turn turn).run middle := by
    have hrun : (fresh config draw).run turns = (before.turn turn).run middle := by
      rw [hturns, run_append]
      rfl
    exact hrun
  rw [hservice] at hepoch hagain
  refine ⟨exists_loses_of_asks hcovered hasks hepoch.symm hagain, fun halone hasked => ?_⟩
  rw [hturns, failsAlone_append] at halone
  rw [hturns, pageMoves_append] at hasked
  have hmiddle : ∀ move ∈ (before.turn turn).pageMoves middle, move.AsAsked := fun move hm =>
    hasked move (List.mem_append_right _ (List.mem_cons_of_mem _ hm))
  exact loses_of_asks hcovered hasks hepoch.symm hmiddle halone.2.2 hagain

/-- The second page fails while nothing else is waited for, and it is asked for again. -/
theorem pages_asked_once_failed :
    let turns : List Turn :=
      [.start (.openQuery [] 0), .answer 0 (.page (.ok ⟨[], 0, false⟩)),
        .start (.furtherPage 1), .answer 0 (.page (.error (.backend "gone")))]
    let service := (fresh .standard .supply).run turns
    (service.turn (.start (.furtherPage 1))).paging.inFlight = [1] ∧
      service.paging.inFlight.Nodup ∧
      .loses 1 ∈ ((fresh .standard .supply).run (turns.take 3)).pageMoves (turns.drop 3) := by
  intro turns service
  have halone : (fresh .standard .supply).FailsAlone turns := by
    refine ⟨trivial, trivial, trivial, fun active hactive other hm => ?_, trivial⟩
    have hempty : service.paging.inFlight = [] := by decide +kernel
    have hin : other ∈ service.paging.inFlight := hm
    rw [hempty] at hin
    cases hin
  have honce := pages_asked_once .standard .supply turns
  have hagain := honce.2 (turns.take 2) (.start (.furtherPage 1)) (turns.drop 3) 1
    (.start (.furtherPage 1)) rfl (by decide +kernel) (by decide +kernel) (by decide +kernel)
  exact ⟨by decide +kernel, honce.1 halone, hagain.2 halone (by decide +kernel)⟩

/-- The second page fails while the third is on its way, and the third is asked for again: it is
waited for twice, and it never failed. -/
theorem pages_asked_twice :
    let turns : List Turn :=
      [.start (.openQuery [] 0), .answer 0 (.page (.ok ⟨[], 0, false⟩)),
        .start (.furtherPage 1), .start (.furtherPage 2),
        .answer 1 (.page (.error (.backend "gone"))), .start (.furtherPage 2)]
    let service := (fresh .standard .supply).run turns
    (∀ move ∈ (fresh .standard .supply).pageMoves turns, move.AsAsked) ∧
      service.paging.inFlight = [2, 2] ∧
      .loses 2 ∉ (fresh .standard .supply).pageMoves turns := by
  decide +kernel

end Service

end MediaGrid
