import MediaGrid.Proofs.Store.Alone

/-!
# Metadata agrees with the collection

A store that works alone with its collection never shows a record that the collection does not
have. Failures may come and go, and artifacts may be put into the collection between operations;
what is in it already is changed by the store alone. So the update that an edit applies in the end,
to the metadata that was loaded again, changes no record. Artifacts of which the collection has
several rows are read and changed by the same rule, the first row counting for all.
-/

namespace MediaGrid

namespace Solo

/-- The entries are up to date with the collection, and the operation under way waits with what is
sound. -/
structure Agrees (solo : Solo) : Prop where
  /-- The entries are up to date. -/
  grid : solo.store.grid.UpToDate solo.collection.recordOf?
  /-- What is waited with is sound. -/
  waiting : ∀ pending, solo.waiting = some pending → pending.Sound solo.collection.recordOf?

variable {solo : Solo}

theorem agrees_fresh (config : Config) (draw : Nat → Uuid) (collection : Collection) :
    (fresh config draw collection).Agrees where
  grid := Grid.upToDate_of_empty rfl
  waiting _ h := by cases h

namespace Agrees

/-- An operation that ran as far as it gets left store and collection in agreement. -/
theorem of_informed {record? : Artifact → Option Metadata} {result : Store × Progress}
    {collection : Collection} (h : Store.Informed record? result)
    (hrecord : collection.recordOf? = record?) :
    Agrees ⟨result.1, collection, result.2.pendings.head?⟩ where
  grid := by
    rw [hrecord]
    exact h.grid
  waiting pending hpending := by
    rw [hrecord]
    exact h.waits pending (List.mem_of_head? hpending)

/-- Whether points of the collection fail does not concern its records. -/
theorem of_rows (h : solo.Agrees) {collection : Collection}
    (hrows : collection.rows = solo.collection.rows) : Agrees { solo with collection } := by
  have hsame := Collection.recordOf?_of_rows hrows
  exact ⟨hsame ▸ h.grid, fun pending hpending => hsame ▸ h.waiting pending hpending⟩

theorem answer (h : solo.Agrees) : (solo.move .answer).Agrees := by
  cases hwaiting : solo.waiting with
  | none =>
    rw [move_answer_of_none hwaiting]
    exact h
  | some pending =>
    obtain ⟨reply, after, result, hreply, hresume⟩ := solo.exists_answer pending
    obtain ⟨hwritten, hright⟩ := Collection.reply?_eq_some hreply
    rw [move_answer hwaiting hreply hresume]
    exact of_informed (Store.informed_resume h.grid (h.waiting pending hwaiting) hright hresume)
      hwritten

/-- Every move keeps store and collection in agreement. -/
theorem move (h : solo.Agrees) (move : Move) : (solo.move move).Agrees := by
  cases move with
  | fail point =>
    refine h.of_rows ?_
    unfold Collection.fail
    split <;> rfl
  | recover point => exact h.of_rows rfl
  | answer => exact h.answer
  | command command =>
    simp only [Solo.move]
    split
    · exact h
    · exact ⟨Store.upToDate_obey h.grid command, h.waiting⟩
  | start operation =>
    simp only [Solo.move]
    split
    · exact h
    · exact of_informed (Store.informed_begin h.grid (solo.store.begins operation)) rfl
  | insert ref record =>
    simp only [Solo.move]
    split
    · exact h
    · rename_i hidle
      have hnone : solo.waiting = none := Option.not_isSome_iff_eq_none.mp hidle
      refine ⟨h.grid.mono fun other old hold => Collection.recordOf?_insert hold ref record,
        fun pending hpending => ?_⟩
      cases hnone.symm.trans hpending

end Agrees

theorem agrees_run (config : Config) (draw : Nat → Uuid) (collection : Collection)
    (moves : List Move) : ((fresh config draw collection).run moves).Agrees :=
  run_keeps (fun _ move h => h.move move) (agrees_fresh config draw collection) moves

/-- Metadata that is loaded agrees with the collection, whatever the store does alone with it. A
record that is loaded is at any time the one that the collection has for the artifact. Where an edit
ends well, its update is applied to a store in which it changes no record; what store that is does
not depend on the update that is applied. -/
theorem metadata_agrees (config : Config) (draw : Nat → Uuid) (collection : Collection)
    (moves : List Move) :
    let solo := (fresh config draw collection).run moves
    (∀ id entry record, solo.store.grid.find? id = some entry →
      entry.metadata = .loaded record → solo.collection.recordOf? entry.ref = some record) ∧
    ∀ pending ids update reply after outcome, solo.waiting = some pending →
      pending.edit? = some (ids, update) → (solo.collection.reply? pending).1 = some reply →
      solo.store.resume pending reply = some (after, .done (.ok outcome)) →
      ∃ fetched : Store, (after, .done (.ok outcome)) = fetched.finishEdit ids update ∧
        (∀ other, solo.store.resume (pending.patching other) reply =
          some (fetched.finishEdit ids other)) ∧
        (fetched.grid.amendRecords update ids).2 = fetched.grid := by
  intro solo
  have hagrees : solo.Agrees := agrees_run config draw collection moves
  refine ⟨fun id entry record hentry => (hagrees.grid id entry hentry).record record, ?_⟩
  intro pending ids update reply after outcome hwaiting hedit hreply hresume
  obtain ⟨-, hright⟩ := Collection.reply?_eq_some (Prod.ext hreply rfl)
  obtain ⟨fetched, hsame, hends⟩ :=
    Store.ends_edit hagrees.grid (hagrees.waiting pending hwaiting) hright hresume rfl hedit
  have hown := hends update
  rw [Pending.patching_self hedit, hresume, Option.some.injEq] at hown
  exact ⟨fetched, hown, hends, hsame⟩

/-- An artifact has two rows, the second put in after the first was listed. An edit changes both and
fills the view again; its update finds the first record, which has it already. -/
theorem metadata_agrees_edited :
    let dock : Artifact := ⟨"shots", "a.jpg", .image⟩
    let update : Metadata := { Metadata.empty with notes := some "wet" }
    let edited : Metadata := { update with name := some "The dock" }
    let moves : List Move := [.start (.openQuery [] 0), .answer, .answer, .insert dock .empty,
      .command (.mark none true), .start (.edit update), .answer, .answer]
    let solo := (fresh .standard .supply
      (.ofRows [(dock, { Metadata.empty with name := some "The dock" })])).run moves
    (∃ (fetched : Store) (outcome : Outcome),
      ((solo.move .answer).store, .done (.ok outcome)) = fetched.finishEdit [dock.id] update ∧
        (fetched.grid.amendRecords update [dock.id]).2 = fetched.grid) ∧
      ∃ entry, (solo.move .answer).store.grid.find? dock.id = some entry ∧
        entry.metadata = .loaded edited ∧
        (solo.move .answer).collection.recordOf? entry.ref = some edited := by
  intro dock update edited moves solo
  let run : PageRun := ⟨⟨[], Config.standard.orderings, Config.standard.resultsPerPage, 0⟩, 3,
    .edit [dock.id] update⟩
  let pending : Pending := .pageRecords run [dock.id] [(dock.id, dock)]
  have hwaiting : solo.waiting = some pending := by decide +kernel
  have hloaded : (solo.move .answer).store.grid.metadata? dock.id = some (.loaded edited) := by
    decide +kernel
  have hmoves := metadata_agrees .standard .supply
    (.ofRows [(dock, { Metadata.empty with name := some "The dock" })])
  have hsolo : (fresh .standard .supply
      (.ofRows [(dock, { Metadata.empty with name := some "The dock" })])).run moves = solo := rfl
  have hfinal := (hmoves (moves ++ [.answer])).1
  have hedit := (hmoves moves).2 pending [dock.id] update
  rw [run_concat, hsolo] at hfinal
  rw [hsolo] at hedit
  clear_value solo
  obtain ⟨reply, after, result, hreply, hresume⟩ := solo.exists_answer pending
  -- An edit does not mind whether the metadata of its page could be read.
  have hdone : ∀ {reply result}, solo.store.resume (.pageRecords run [dock.id] [(dock.id, dock)])
      reply = some result → ∃ amended, result.2 = .done (.ok (.ids amended)) := by
    intro reply result hresume
    cases Store.resumes_of_eq_some hresume <;> exact ⟨_, rfl⟩
  obtain ⟨amended, hdone⟩ := hdone hresume
  have hmove : (solo.move .answer).store = result.1 :=
    congrArg Solo.store (move_answer hwaiting hreply hresume)
  obtain ⟨entry, hentry, hmetadata⟩ := Option.map_eq_some_iff.mp hloaded
  obtain ⟨fetched, hends, -, hsame⟩ := hedit reply result.1 (.ids amended) hwaiting rfl
    (congrArg Prod.fst hreply) (by rw [← hdone]; exact hresume)
  exact ⟨⟨fetched, .ids amended, hmove ▸ hends, hsame⟩, entry, hentry, hmetadata,
    hfinal dock.id entry edited hentry hmetadata⟩

end Solo

end MediaGrid
