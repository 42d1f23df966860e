import MediaGrid.Proofs.Store.Origins
import MediaGrid.Proofs.Store.SearchState

/-!
# The search text and what goes with it

However texts are typed, completions are picked and asked for, and other operations run meanwhile,
the menu is the one for the search text, and the completions are none or those that a computation
returned which was started while this very text was the search text. Computations for several texts
may wait at once and end in any order. One that ends while another text stands there changes nothing
that can be seen.

When a computation ends, its text is compared with the search text; how often the search text
changed in between is not looked at. So a change after the start does not shut the completions out
for good: where the text was given up and typed again, a computation that was started before the
change still sets them. The run at the end is such a case. Whether the completions are up to date
with the collection is no part of it.
-/

namespace MediaGrid

namespace Store

variable {store : Store}

/-- A computation of completions that starts and then waits is one for the search text. -/
theorem search?_suggest {result : Store × Progress} {pending : Pending}
    (h : store.Begins .suggest result) (hm : pending ∈ result.2.pendings) :
    pending.search? = some store.grid.search := by
  cases h with
  | suggestPage hcached hwords hlimit => rw [List.mem_singleton.mp hm, Pending.search?]
  | _ => cases hm

/-- An answer to a computation for another text is not seen in the grid, and nothing is
published. -/
theorem resume_of_overtaken {pending : Pending} {reply : Reply} {result : Store × Progress}
    {text : String} (h : store.resume pending reply = some result)
    (hsearch : pending.search? = some text) (hother : text ≠ store.grid.search) :
    result.1.grid = store.grid ∧ result.1.published = store.published := by
  have hrefused : ∀ texts, (store.remember text texts).offerCompletions text texts =
      store.remember text texts := fun texts => if_neg (Ne.symm hother)
  cases resumes_of_eq_some h with
  | suggestNone search request fragments page hempty =>
    cases hsearch
    rw [rememberSuggestions, finishSuggestions, hrefused]
    exact ⟨rfl, rfl⟩
  | suggestPage search request fragments page hsome => exact ⟨rfl, rfl⟩
  | suggestPageLost search request fragments failure => exact ⟨rfl, rfl⟩
  | suggestRecords search refs fragments records =>
    cases hsearch
    rw [rememberSuggestions, finishSuggestions, hrefused]
    exact ⟨rfl, rfl⟩
  | suggestRecordsLost search refs fragments failure => exact ⟨rfl, rfl⟩
  | _ => cases hsearch

/-- An answer that ends the computation for the search text sets its completions. -/
theorem resume_of_current {pending : Pending} {reply : Reply} {result : Store × Progress}
    {texts : List String} (h : store.resume pending reply = some result)
    (hsearch : pending.search? = some store.grid.search)
    (hdone : result.2 = .done (.ok (.completions texts))) :
    result.1.grid.search = store.grid.search ∧ result.1.grid.completions = texts := by
  have htaken : ∀ computed,
      (store.rememberSuggestions store.grid.search computed).1.grid.searchState =
        { store.grid.searchState with completions := computed } := by
    intro computed
    have hoffered := (store.remember store.grid.search computed).searchState_offerCompletions
      store.grid.search computed
    have htext : (store.remember store.grid.search computed).grid.searchState.text =
        store.grid.search := rfl
    rw [SearchState.offered, if_pos htext] at hoffered
    exact hoffered
  cases resumes_of_eq_some h with
  | suggestNone search request fragments page hempty =>
    cases hsearch
    cases hdone
    exact ⟨congrArg SearchState.text (htaken []), congrArg SearchState.completions (htaken [])⟩
  | suggestPage search request fragments page hsome => cases hdone
  | suggestPageLost search request fragments failure => cases hdone
  | suggestRecords search refs fragments records =>
    cases hsearch
    cases hdone
    exact ⟨congrArg SearchState.text (htaken _), congrArg SearchState.completions (htaken _)⟩
  | suggestRecordsLost search refs fragments failure => cases hdone
  | _ => cases hsearch

end Store

namespace Service

/-! ## Computations and their texts -/

/-- A computation of completions was started in one of the turns, while a text was the search text,
and waits at a position after them. -/
def Suggesting (service : Service) (turns : List Turn) (text : String) (position : Nat) : Prop :=
  ∃ early late pending, turns = early ++ .start .suggest :: late ∧
    (service.run early).store.grid.search = text ∧
    (service.run early).newcomers (.start .suggest) = [pending] ∧
    ((service.run early).turn (.start .suggest)).Follows late 0 position

/-- A computation of completions was started in one of the turns, while a text was the search text,
and returned completions, at once or in a later turn. -/
def Suggested (service : Service) (turns : List Turn) (text : String) (texts : List String) :
    Prop :=
  (∃ early late, turns = early ++ .start .suggest :: late ∧
    (service.run early).store.grid.search = text ∧
    ((service.run early).store.begin .suggest).2 = .done (.ok (.completions texts))) ∨
  ∃ early late position reply store, turns = early ++ .answer position reply :: late ∧
    service.Suggesting early text position ∧
    (service.run early).resumed? position reply = some (store, .done (.ok (.completions texts)))

variable {service : Service} {turns : List Turn} {text : String} {texts : List String}
  {position : Nat}

/-- What was returned in some turns was returned in more turns. -/
theorem Suggested.append (h : service.Suggested turns text texts) (more : List Turn) :
    service.Suggested (turns ++ more) text texts := by
  rcases h with ⟨early, late, rfl, hrest⟩ | ⟨early, late, middle, reply, store, rfl, hrest⟩
  · exact Or.inl ⟨early, late ++ more, List.append_assoc _ _ _, hrest⟩
  · exact Or.inr ⟨early, late ++ more, middle, reply, store, List.append_assoc _ _ _, hrest⟩

/-- A computation that is followed stays one for the same text. -/
theorem Follows.waits {next : Nat} {first : Pending} (h : service.Follows turns position next)
    (hwaits : service.waiting[position]? = some first) (hsearch : first.search? = some text) :
    ∃ pending, (service.run turns).waiting[next]? = some pending ∧
      pending.search? = some text := by
  induction h with
  | refl position => exact ⟨first, hwaits, hsearch⟩
  | stays turn hturns hstands ih =>
    rw [run_concat, getElem?_standing hstands]
    exact ih hwaits
  | @found turns position middle own request fragments page hturns hmiddle hsome ih =>
    have hresumed : (service.run turns).resumed? middle (.page (.ok page)) =
        some ((service.run turns).store, .waiting (.suggestRecords own page.refs fragments)) := by
      rw [resumed?, hmiddle]
      exact if_neg hsome
    obtain ⟨pending, hpending, hown⟩ := ih hwaits
    cases hmiddle.symm.trans hpending
    rw [run_concat, turn_of_resumed hresumed]
    exact ⟨_, rfl, hown⟩

/-- The computations that wait are those that were started in the turns, each for the text that was
the search text when it was started. -/
theorem suggesting_iff {config : Config} {draw : Nat → Uuid} :
    (fresh config draw).Suggesting turns text position ↔
      ∃ pending, ((fresh config draw).run turns).waiting[position]? = some pending ∧
        pending.search? = some text := by
  constructor
  · rintro ⟨early, late, started, rfl, rfl, hnew, hfollows⟩
    have hmem : started ∈ ((fresh config draw).run early).newcomers (.start .suggest) :=
      hnew ▸ List.mem_singleton_self _
    rw [run_start]
    exact hfollows.waits (getElem?_newcomer hmem) (Store.search?_suggest (Store.begins _ _) hmem)
  · rintro ⟨pending, hwaits, hsearch⟩
    rcases underWay_of_waits _ turns hwaits hsearch with ⟨first, hfollows⟩ | hstarted
    · -- Nothing waited before the first turn.
      obtain ⟨other, hother, -⟩ := hfollows.search? hwaits hsearch
      cases hother
    · obtain ⟨early, late, started, rfl, hnew, hfollows⟩ := hstarted
      have hmem : started ∈ ((fresh config draw).run early).newcomers (.start .suggest) :=
        hnew ▸ List.mem_singleton_self _
      rw [run_start] at hwaits
      obtain ⟨first, hfirst, htext⟩ := hfollows.search? hwaits hsearch
      rw [getElem?_newcomer hmem, Option.some.injEq] at hfirst
      rw [← hfirst, Store.search?_suggest (Store.begins _ _) hmem, Option.some.injEq] at htext
      exact ⟨early, late, started, rfl, htext, hnew, hfollows⟩

/-! ## What a turn does to the search -/

/-- A turn leaves the search alone, types a text, or offers completions that a computation returns
in it. -/
theorem searchState_turn (service : Service) (turn : Turn) :
    (service.turn turn).store.grid.searchState = service.store.grid.searchState ∨
    (∃ text, (service.turn turn).store.grid.searchState =
      service.store.grid.searchState.typed text) ∨
    (∃ texts, turn = .start .suggest ∧
      (service.store.begin .suggest).2 = .done (.ok (.completions texts)) ∧
      (service.turn turn).store.grid.searchState =
        service.store.grid.searchState.offered service.store.grid.search texts) ∨
    ∃ position reply pending text store texts, turn = .answer position reply ∧
      service.waiting[position]? = some pending ∧ pending.search? = some text ∧
      service.resumed? position reply = some (store, .done (.ok (.completions texts))) ∧
      (service.turn turn).store.grid.searchState =
        service.store.grid.searchState.offered text texts := by
  cases turn with
  | command command =>
    cases command with
    | add refs => exact Or.inl (service.store.searchState_addAll refs)
    | clear keepQuery => exact Or.inl (service.store.searchState_clear keepQuery)
    | unload facet ids => exact Or.inl (service.store.searchState_unload facet ids)
    | mark ids value => exact Or.inl (service.store.searchState_mark ids value)
    | dialog isOpen => exact Or.inl (service.store.searchState_setDialog isOpen)
    | showVideo urlsOf id => exact Or.inl (service.store.searchState_showVideo urlsOf id)
    | hideVideo id => exact Or.inl (service.store.searchState_setVideo id none)
    | typeSearch text => exact Or.inr (Or.inl ⟨text, service.store.searchState_typeSearch text⟩)
    | pick completion => exact Or.inr (Or.inl ⟨_, service.store.searchState_typeSearch _⟩)
  | start operation =>
    have hbegins := service.store.begins operation
    rcases Store.searchState_begin hbegins with hsame | ⟨rfl, texts, hdone, hoffered⟩
    · exact Or.inl hsame
    · exact Or.inr (Or.inr (Or.inl ⟨texts, rfl, hdone, hoffered⟩))
  | answer position reply =>
    cases hresumed : service.resumed? position reply with
    | none => exact Or.inl (by rw [turn_of_not_resumed hresumed])
    | some result =>
      obtain ⟨store, progress⟩ := result
      obtain ⟨pending, hpending, hresume⟩ := Option.bind_eq_some_iff.mp hresumed
      rw [turn_of_resumed hresumed]
      rcases service.store.searchState_resume hresume with hsame | ⟨text, texts, hoffered⟩
      · exact Or.inl hsame
      · obtain ⟨hsearch, rfl, hstate⟩ := hoffered
        exact Or.inr (Or.inr (Or.inr
          ⟨position, reply, pending, text, store, texts, rfl, hpending, hsearch, hresumed, hstate⟩))

/-! ## Coherence -/

/-- The menu is the one for the text, and the completions are none or were returned for the text. -/
structure Coherent (service : Service) (turns : List Turn) (state : SearchState) : Prop where
  /-- The menu. -/
  menu : state.menu = Menu.ofText state.text
  /-- The completions. -/
  completions : state.completions = [] ∨ service.Suggested turns state.text state.completions

namespace Coherent

variable {state : SearchState}

/-- Further turns that leave the search alone keep it coherent. -/
theorem append (h : service.Coherent turns state) (more : List Turn) :
    service.Coherent (turns ++ more) state :=
  ⟨h.menu, h.completions.imp_right fun hreturned => hreturned.append more⟩

/-- A text that is typed drops the completions of another. -/
theorem typed (h : service.Coherent turns state) (text : String) :
    service.Coherent turns (state.typed text) := by
  refine ⟨rfl, ?_⟩
  unfold SearchState.typed
  dsimp only
  split
  · rename_i hsame
    exact hsame ▸ h.completions
  · exact Or.inl rfl

/-- Completions that were returned for a text may be offered. -/
theorem offered (h : service.Coherent turns state)
    (hreturned : service.Suggested turns text texts) :
    service.Coherent turns (state.offered text texts) := by
  unfold SearchState.offered
  split
  · rename_i hsame
    exact ⟨h.menu, Or.inr (hsame ▸ hreturned)⟩
  · exact h

end Coherent

/-- The search is coherent after every run. -/
theorem coherent_run (config : Config) (draw : Nat → Uuid) (turns : List Turn) :
    (fresh config draw).Coherent turns ((fresh config draw).run turns).store.grid.searchState := by
  induction turns using List.reverseRecOn with
  | nil =>
    have hmenu : Menu.closed = Menu.ofText "" := by decide
    exact ⟨hmenu, Or.inl rfl⟩
  | append_singleton turns turn ih =>
    have hkept := ih.append [turn]
    rw [run_concat]
    rcases searchState_turn ((fresh config draw).run turns) turn with
      hsame | ⟨text, htyped⟩ | ⟨texts, rfl, hdone, hoffered⟩ | hanswered
    · exact hsame ▸ hkept
    · exact htyped ▸ hkept.typed text
    · exact hoffered ▸ hkept.offered (Or.inl ⟨turns, [], rfl, rfl, hdone⟩)
    · obtain ⟨position, reply, pending, text, store, texts, rfl, hwaits, hsearch, hresumed,
        hoffered⟩ := hanswered
      have hstarted := suggesting_iff.mpr ⟨pending, hwaits, hsearch⟩
      exact hoffered ▸ hkept.offered
        (Or.inr ⟨turns, [], position, reply, store, rfl, hstarted, hresumed⟩)

/-- The search state is coherent in every run. The menu is the one for the search text, and the
completions are none or were returned by a computation that was started while this text was the
search text. Any computation that still waits was started for some text. If another one is the
search text when an answer comes, the answer changes nothing in the grid and nothing is published.
If it is the search text then, be it still or again, the completions that the computation returns
are those of the search. -/
theorem search_coherent (config : Config) (draw : Nat → Uuid) (turns : List Turn) :
    let service := (fresh config draw).run turns
    let grid := service.store.grid
    grid.menu = Menu.ofText grid.search ∧
    (grid.completions = [] ∨
      (fresh config draw).Suggested turns grid.search grid.completions) ∧
    ∀ text position, (fresh config draw).Suggesting turns text position → ∀ reply,
      let after := (service.turn (.answer position reply)).store
      (text ≠ grid.search →
        after.grid = grid ∧ after.published = service.store.published) ∧
      (text = grid.search → ∀ store texts,
        service.resumed? position reply = some (store, .done (.ok (.completions texts))) →
          after.grid.search = text ∧ after.grid.completions = texts) := by
  intro service grid
  have hcoherent := coherent_run config draw turns
  refine ⟨hcoherent.menu, hcoherent.completions, fun text position hsuggesting reply => ?_⟩
  obtain ⟨pending, hwaits, hsearch⟩ := suggesting_iff.mp hsuggesting
  intro after
  refine ⟨fun hother => ?_, fun hsame store texts hresumed => ?_⟩
  · cases hresumed : service.resumed? position reply with
    | none =>
      have hafter : after = service.store := congrArg Service.store (turn_of_not_resumed hresumed)
      rw [hafter]
      exact ⟨rfl, rfl⟩
    | some result =>
      have hafter : after = result.1 := congrArg Service.store (turn_of_resumed hresumed)
      obtain ⟨other, hpending, hresume⟩ := Option.bind_eq_some_iff.mp hresumed
      cases hwaits.symm.trans hpending
      rw [hafter]
      exact Store.resume_of_overtaken hresume hsearch hother
  · have hafter : after = store := congrArg Service.store (turn_of_resumed hresumed)
    obtain ⟨other, hpending, hresume⟩ := Option.bind_eq_some_iff.mp hresumed
    cases hwaits.symm.trans hpending
    rw [hafter, hsame]
    exact Store.resume_of_current hresume (hsame ▸ hsearch) rfl

/-- The search text is changed while completions are computed for it, and typed again before they
come. The computation was started before the change, and its completions are set nevertheless. -/
theorem completions_of_restored_text :
    let pier : Artifact := ⟨"shots", "a.jpg", .image⟩
    let described : Reply :=
      .records (.ok [(pier, { Metadata.empty with notes := some "coral reef" })])
    let started : List Turn := [.command (.typeSearch "reef"), .start .suggest,
      .answer 0 (.page (.ok ⟨[pier], 0, true⟩))]
    let changed := started ++ [.command (.typeSearch "wreck")]
    let restored := changed ++ [.command (.typeSearch "reef")]
    let service := fresh .standard .supply
    let before := service.run restored
    let after := before.turn (.answer 0 described)
    service.Suggesting started "reef" 0 ∧ (service.run changed).store.grid.search = "wreck" ∧
      service.Suggesting restored "reef" 0 ∧ before.waiting.length = 1 ∧
      before.store.grid.search = "reef" ∧ before.store.grid.completions = [] ∧
      after.waiting = [] ∧ after.store.grid.completions = ["coral reef"] := by
  intro pier described started changed restored service before after
  -- What the computation goes on waiting for, however the search text changes.
  let mining : Pending := .suggestRecords "reef" [pier] ["reef"]
  have hstarted : (service.run started).waiting = [mining] := by decide +kernel
  have hrestored : before.waiting = [mining] := by decide +kernel
  exact ⟨suggesting_iff.mpr ⟨mining, congrArg (·[0]?) hstarted, rfl⟩, by decide +kernel,
    suggesting_iff.mpr ⟨mining, congrArg (·[0]?) hrestored, rfl⟩, congrArg List.length hrestored,
    by decide +kernel, by decide +kernel, by decide +kernel, by decide +kernel⟩

end Service

end MediaGrid
