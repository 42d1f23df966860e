import MediaGrid.Collection
import MediaGrid.Proofs.Store.UpToDate
import MediaGrid.Proofs.Store.Waiting
import MediaGrid.Session.Task

/-!
# A store alone with its collection

Operations are taken one after the other: one starts while none is under way, and the collection
answers its calls until it ends. The points at which the collection fails may change at any time,
and rows may be put into it between operations. What the collection replies is what its own calls
give. Operations that overlap, and replies that come late, are no part of it.
-/

namespace MediaGrid

namespace Collection

/-- The reply of a collection to the calls that an operation waits for, fetches being made at
once. -/
def reply? (collection : Collection) (pending : Pending) : Option Reply × Collection :=
  match pending with
  | .contents load =>
    let (outcomes, collection) := collection.fetchAll load.facet (load.chunk.map (·.2))
    (some (.fetched outcomes), collection)
  | pending =>
    match pending.calls with
    | [call] => collection.perform call
    | _ => (none, collection)

variable {collection after : Collection}

/-! ## The records of a collection -/

/-- The records depend on the rows alone. -/
theorem recordOf?_of_rows (h : after.rows = collection.rows) :
    after.recordOf? = collection.recordOf? := by
  funext ref
  rw [recordOf?, row?, h]
  rfl

/-- A row that is put in behind the others hides none of them. -/
theorem recordOf?_insert {ref : Artifact} {record : Metadata}
    (h : collection.recordOf? ref = some record) (other : Artifact) (new : Metadata) :
    (collection.insert other new).recordOf? ref = some record := by
  obtain ⟨row, hrow, rfl⟩ := Option.map_eq_some_iff.mp h
  rw [row?] at hrow
  rw [recordOf?, row?, insert, List.find?_append, hrow]
  rfl

/-- Artifacts whose rows are dropped have no record, and the others keep theirs. -/
theorem recordOf?_dropped {refs : List Artifact}
    (h : after.rows = collection.rows.filter (·.1 ∉ refs)) (ref : Artifact) :
    after.recordOf? ref = if ref ∈ refs then none else collection.recordOf? ref := by
  rw [recordOf?, row?, h, List.find?_filter]
  by_cases href : ref ∈ refs
  · rw [if_pos href, Option.map_eq_none_iff, List.find?_eq_none]
    intro row _ hrow
    simp only [Bool.decide_and, decide_eq_true_eq, Bool.and_eq_true, beq_iff_eq] at hrow
    exact hrow.1 (hrow.2 ▸ href)
  · rw [if_neg href, recordOf?, row?]
    congr 2
    funext row
    by_cases hrow : row.1 = ref
    · simp [hrow, href]
    · simp [hrow]

/-- The first row of each artifact is changed like the others. -/
theorem recordOf?_changed {update : Metadata} {refs : List Artifact}
    (h : after.rows = collection.rows.map fun row =>
      if row.1 ∈ refs then (row.1, row.2.amend update) else row) (ref : Artifact) :
    after.recordOf? ref = if ref ∈ refs then (collection.recordOf? ref).map (·.amend update)
      else collection.recordOf? ref := by
  have hkeys : ((·.1 == ref) ∘ fun row : Artifact × Metadata =>
      if row.1 ∈ refs then (row.1, row.2.amend update) else row) = (·.1 == ref) := by
    funext row
    simp only [Function.comp_apply]
    split <;> rfl
  rw [recordOf?, row?, h, List.find?_map, hkeys, recordOf?, row?]
  cases hrow : collection.rows.find? (·.1 == ref) with
  | none => simp
  | some row =>
    have hkey : row.1 = ref := by simpa using List.find?_some hrow
    by_cases href : ref ∈ refs
    · simp [hkey, href]
    · simp [hkey, href]

/-! ## What the collection replies -/

/-- Fetches that were begun come out one after the other. -/
def leaveEach (collection : Collection) (facet : ByteFacet) :
    List Artifact → List (Except Failure String) × Collection
  | [] => ([], collection)
  | ref :: rest =>
    let left := collection.leave ref facet
    let others := left.2.leaveEach facet rest
    (left.1 :: others.1, others.2)

/-- Fetches made at once are all begun before the first comes out. -/
theorem fetchAll_eq (collection : Collection) (facet : ByteFacet) (refs : List Artifact) :
    collection.fetchAll facet refs =
      (refs.foldl (fun c _ => c.arrive facet) collection).leaveEach facet refs := by
  -- The outcomes of a run stand behind those that there were before.
  suffices h : ∀ (outcomes : List (Except Failure String)) (arrived : Collection),
      refs.foldl (fun state ref => (state.1 ++ [(state.2.leave ref facet).1],
        (state.2.leave ref facet).2)) (outcomes, arrived) =
          (outcomes ++ (arrived.leaveEach facet refs).1, (arrived.leaveEach facet refs).2) from
    h [] _
  induction refs with
  | nil => exact fun outcomes arrived => by rw [leaveEach, List.append_nil, List.foldl_nil]
  | cons ref rest ih =>
    intro outcomes arrived
    rw [List.foldl_cons, ih, leaveEach, List.append_assoc]
    rfl

/-- Fetches that come out leave the rows alone, and each has an outcome. -/
theorem leaveEach_rest (collection : Collection) (facet : ByteFacet) (refs : List Artifact) :
    (collection.leaveEach facet refs).2.rows = collection.rows ∧
      (collection.leaveEach facet refs).1.length = refs.length := by
  induction refs generalizing collection with
  | nil => exact ⟨rfl, rfl⟩
  | cons ref rest ih =>
    obtain ⟨hrows, hlength⟩ := ih (collection.leave ref facet).2
    exact ⟨hrows, congrArg (· + 1) hlength⟩

/-- Fetches that are begun leave the rows alone. -/
theorem rows_arrivals (collection : Collection) (facet : ByteFacet) (refs : List Artifact) :
    (refs.foldl (fun c _ => c.arrive facet) collection).rows = collection.rows := by
  induction refs generalizing collection with
  | nil => rfl
  | cons ref rest ih => exact ih (collection.arrive facet)

/-- Fetches leave the rows alone, and each has an outcome. -/
theorem fetchAll_rest (collection : Collection) (facet : ByteFacet) (refs : List Artifact) :
    (collection.fetchAll facet refs).2.rows = collection.rows ∧
      (collection.fetchAll facet refs).1.length = refs.length := by
  rw [fetchAll_eq]
  obtain ⟨hrows, hlength⟩ := leaveEach_rest _ facet refs
  exact ⟨hrows.trans (collection.rows_arrivals facet refs), hlength⟩

/-- Records that are read are those of the collection. -/
theorem right_records (collection : Collection) (refs : List Artifact) :
    (Reply.records (collection.records refs)).Right collection.recordOf? := by
  cases hrecords : collection.records refs with
  | error failure => trivial
  | ok rows =>
    intro row hrow
    cases hcheck : collection.check .readRecords with
    | error failure => simp [records, hcheck, bind, Except.bind] at hrecords
    | ok _ =>
      simp only [records, hcheck, bind, Except.bind, pure, Except.pure, Except.ok.injEq]
        at hrecords
      rw [← hrecords] at hrow
      obtain ⟨ref, -, hfound⟩ := List.mem_filterMap.mp hrow
      have hkey : row.1 = ref := by simpa using List.find?_some hfound
      rw [recordOf?, hkey, hfound, Option.map_some]

/-- The collection has a reply to the calls of every operation. -/
theorem exists_reply? (collection : Collection) (pending : Pending) :
    ∃ reply after, collection.reply? pending = (some reply, after) := by
  cases pending <;> exact ⟨_, _, rfl⟩

/-- The reply brings the records of the collection, and what becomes of them is what was asked
for. -/
theorem reply?_eq_some {pending : Pending} {reply : Reply}
    (h : collection.reply? pending = (some reply, after)) :
    after.recordOf? = pending.written collection.recordOf? reply ∧
      reply.Right collection.recordOf? := by
  cases pending with
  | page run => cases h; exact ⟨recordOf?_of_rows rfl, trivial⟩
  | suggestPage search request fragments => cases h; exact ⟨recordOf?_of_rows rfl, trivial⟩
  | pageRecords run added claimed =>
    cases h
    exact ⟨recordOf?_of_rows rfl, collection.right_records _⟩
  | records claimed => cases h; exact ⟨recordOf?_of_rows rfl, collection.right_records _⟩
  | suggestRecords search refs fragments =>
    cases h
    exact ⟨recordOf?_of_rows rfl, collection.right_records _⟩
  | contents load =>
    cases h
    exact ⟨recordOf?_of_rows (collection.fetchAll_rest _ _).1, trivial⟩
  | archive items =>
    simp only [reply?, Pending.calls, perform, archive] at h
    split at h <;> cases h <;> exact ⟨recordOf?_of_rows rfl, trivial⟩
  | delete targets =>
    simp only [reply?, Pending.calls, perform, delete] at h
    split at h <;> cases h
    · exact ⟨recordOf?_of_rows rfl, trivial⟩
    · exact ⟨funext (recordOf?_dropped rfl), trivial⟩
  | edit targets update =>
    simp only [reply?, Pending.calls, perform, changeRecords] at h
    split at h <;> cases h
    · exact ⟨recordOf?_of_rows rfl, trivial⟩
    · exact ⟨funext (recordOf?_changed rfl), trivial⟩

end Collection

/-! ## Answers that fit -/

/-- A reply is of the kind that an operation waits for. -/
inductive Pending.Accepts : Pending → Reply → Prop where
  /-- The outcome of a query. -/
  | page (run : PageRun) (outcome : Except Failure Page) : Accepts (.page run) (.page outcome)
  /-- The outcome of a query that completions are mined from. -/
  | suggestPage (search : String) (request : PageRequest) (fragments : List String)
      (outcome : Except Failure Page) :
    Accepts (.suggestPage search request fragments) (.page outcome)
  /-- Metadata of what a page added, or why there is none. -/
  | pageRecords (run : PageRun) (added : List ItemId) (claimed : List (ItemId × Artifact))
      (outcome : Except Failure (List (Artifact × Metadata))) :
    Accepts (.pageRecords run added claimed) (.records outcome)
  /-- Metadata, or why there is none. -/
  | records (claimed : List (ItemId × Artifact))
      (outcome : Except Failure (List (Artifact × Metadata))) :
    Accepts (.records claimed) (.records outcome)
  /-- Metadata that completions are mined from, or why there is none. -/
  | suggestRecords (search : String) (refs : List Artifact) (fragments : List String)
      (outcome : Except Failure (List (Artifact × Metadata))) :
    Accepts (.suggestRecords search refs fragments) (.records outcome)
  /-- An outcome for each fetch. -/
  | contents (load : ByteLoad) (outcomes : List (Except Failure String))
      (hlength : outcomes.length = load.chunk.length) : Accepts (.contents load) (.fetched outcomes)
  /-- Whether an archive was written. -/
  | archive (items : List ArchiveEntry) (outcome : Except Failure Unit) :
    Accepts (.archive items) (.settled outcome)
  /-- Whether artifacts were deleted. -/
  | delete (targets : List (ItemId × Artifact)) (outcome : Except Failure Unit) :
    Accepts (.delete targets) (.settled outcome)
  /-- Whether metadata was changed. -/
  | edit (targets : List (ItemId × Artifact)) (update : Metadata)
      (outcome : Except Failure Unit) : Accepts (.edit targets update) (.settled outcome)

/-- What a collection replies is of the kind that is waited for. -/
theorem Collection.accepts_of_reply? {collection after : Collection} {pending : Pending}
    {reply : Reply} (h : collection.reply? pending = (some reply, after)) :
    pending.Accepts reply := by
  cases pending with
  | contents load =>
    have hlength := (collection.fetchAll_rest load.facet (load.chunk.map (·.2))).2
    cases h
    exact .contents load _ (hlength.trans (List.length_map _))
  | _ =>
    cases h
    constructor

namespace Store

variable {store : Store} {pending : Pending} {reply : Reply}

/-- An operation goes on with any reply of the kind that it waits for. -/
theorem exists_resume (store : Store) (h : pending.Accepts reply) :
    ∃ result, store.resume pending reply = some result := by
  cases h with
  | contents load outcomes hlength => exact ⟨_, if_pos hlength⟩
  | suggestPage search request fragments outcome =>
    cases outcome with
    | error failure => exact ⟨_, rfl⟩
    | ok page =>
      simp only [resume]
      split <;> exact ⟨_, rfl⟩
  | page run outcome => cases outcome <;> exact ⟨_, rfl⟩
  | pageRecords run added claimed outcome => cases outcome <;> exact ⟨_, rfl⟩
  | records claimed outcome => cases outcome <;> exact ⟨_, rfl⟩
  | suggestRecords search refs fragments outcome => cases outcome <;> exact ⟨_, rfl⟩
  | archive items outcome => cases outcome <;> exact ⟨_, rfl⟩
  | delete targets outcome => cases outcome <;> exact ⟨_, rfl⟩
  | edit targets update outcome => cases outcome <;> exact ⟨_, rfl⟩

/-- An operation that goes on and waits again needs fewer answers. -/
theorem rounds_resume {result : Store × Progress} (h : store.resume pending reply = some result)
    {next : Pending} (hnext : next ∈ result.2.pendings) : next.rounds < pending.rounds := by
  have hended : ∀ {middle : Store} {run outcome},
      next ∉ (middle.afterPage run outcome).2.pendings := by
    intro middle run outcome hin
    rw [pendings_afterPage] at hin
    cases hin
  cases resumes_of_eq_some h with
  | page run page =>
    unfold mergePage at hnext
    split at hnext
    · exact absurd hnext hended
    · dsimp only at hnext
      split at hnext
      · exact absurd hnext hended
      · cases List.mem_singleton.mp hnext
        exact Nat.lt_succ_self 1
  | pageLost run failure => exact absurd hnext hended
  | pageRecords run added claimed records => exact absurd hnext hended
  | pageRecordsLost run added claimed failure => exact absurd hnext hended
  | contents load outcomes hlength =>
    simp only [settleChunk, nextChunk] at hnext
    split at hnext
    · cases hnext
    · rename_i hrest
      cases List.mem_singleton.mp hnext
      have hpos : 0 < load.rest.length :=
        List.length_pos_iff.mpr fun hnil => hrest (List.isEmpty_iff.mpr hnil)
      simp only [Pending.rounds, List.length_drop]
      omega
  | edit targets update =>
    unfold rebuild at hnext
    dsimp only at hnext
    split at hnext
    · cases hnext
    · cases List.mem_singleton.mp hnext
      exact Nat.lt_succ_self 2
  | suggestPage search request fragments page hsome =>
    cases List.mem_singleton.mp hnext
    exact Nat.lt_succ_self 1
  | _ => cases hnext

end Store

/-! ## One operation after the other -/

/-- A store that works alone with its collection. -/
structure Solo where
  /-- The store. -/
  store : Store
  /-- The collection. -/
  collection : Collection
  /-- What the operation under way waits for, if there is one. -/
  waiting : Option Pending

/-- One move of a store alone with its collection. -/
inductive Solo.Move where
  /-- Runs a command. -/
  | command (command : Command)
  /-- Starts an operation. -/
  | start (operation : Operation)
  /-- The collection answers the operation that is under way. -/
  | answer
  /-- Puts an artifact into the collection. -/
  | insert (ref : Artifact) (record : Metadata)
  /-- Makes a point of the collection fail. -/
  | fail (point : FaultPoint)
  /-- Makes a point of the collection work again. -/
  | recover (point : FaultPoint)

namespace Solo

/-- A new store and a collection, with no operation under way. -/
def fresh (config : Config) (draw : Nat → Uuid) (collection : Collection) : Solo :=
  ⟨.fresh config draw, collection, none⟩

/-- Starts an operation. -/
def begin (solo : Solo) (operation : Operation) : Solo :=
  let (store, progress) := solo.store.begin operation
  { solo with store := store, waiting := progress.pendings.head? }

/-- The collection answers the calls that an operation waits for. -/
def answer (solo : Solo) (pending : Pending) : Solo :=
  match solo.collection.reply? pending with
  | (none, _) => solo
  | (some reply, collection) =>
    match solo.store.resume pending reply with
    | none => solo
    | some (store, progress) => ⟨store, collection, progress.pendings.head?⟩

/-- The store and its collection after a move. While an operation is under way, the store is not
called and no row is put into the collection. -/
def move (solo : Solo) : Move → Solo
  | .fail point => { solo with collection := solo.collection.fail point }
  | .recover point => { solo with collection := solo.collection.recover point }
  | .answer => solo.waiting.elim solo solo.answer
  | .command command =>
    if solo.waiting.isSome then solo else { solo with store := solo.store.obey command }
  | .start operation => if solo.waiting.isSome then solo else solo.begin operation
  | .insert ref record =>
    if solo.waiting.isSome then solo
    else { solo with collection := solo.collection.insert ref record }

/-- The store and its collection after moves made one after the other. -/
def run (solo : Solo) (moves : List Move) : Solo := moves.foldl move solo

/-- The moves of a run can be made in two parts. -/
theorem run_append (solo : Solo) (early late : List Move) :
    solo.run (early ++ late) = (solo.run early).run late :=
  List.foldl_append

/-- The last move of a run comes on top. -/
theorem run_concat (solo : Solo) (moves : List Move) (move : Move) :
    solo.run (moves ++ [move]) = (solo.run moves).move move :=
  solo.run_append moves [move]

/-- What every move keeps holds after every run. -/
theorem run_keeps {motive : Solo → Prop}
    (hstep : ∀ solo move, motive solo → motive (solo.move move)) {solo : Solo}
    (h : motive solo) (moves : List Move) : motive (solo.run moves) := by
  induction moves generalizing solo with
  | nil => exact h
  | cons move rest ih => exact ih (hstep solo move h)

/-- The answer of the collection lets the operation under way go on. -/
theorem move_answer {solo : Solo} {pending : Pending} {reply : Reply} {after : Collection}
    {result : Store × Progress} (hwaiting : solo.waiting = some pending)
    (hreply : solo.collection.reply? pending = (some reply, after))
    (hresume : solo.store.resume pending reply = some result) :
    solo.move .answer = ⟨result.1, after, result.2.pendings.head?⟩ := by
  simp only [move, hwaiting, Option.elim_some, answer, hreply, hresume]

/-- Where no operation is under way there is nothing to answer. -/
theorem move_answer_of_none {solo : Solo} (hwaiting : solo.waiting = none) :
    solo.move .answer = solo := by
  rw [move, hwaiting, Option.elim_none]

/-- The collection answers every operation that is under way. -/
theorem exists_answer (solo : Solo) (pending : Pending) :
    ∃ reply after result, solo.collection.reply? pending = (some reply, after) ∧
      solo.store.resume pending reply = some result := by
  obtain ⟨reply, after, hreply⟩ := solo.collection.exists_reply? pending
  obtain ⟨result, hresume⟩ := solo.store.exists_resume (Collection.accepts_of_reply? hreply)
  exact ⟨reply, after, result, hreply, hresume⟩

/-- Every operation ends: it is over after as many answers as it needs at most. -/
theorem over_after_rounds {solo : Solo} {count : Nat}
    (h : ∀ pending, solo.waiting = some pending → pending.rounds ≤ count) :
    (solo.run (.replicate count .answer)).waiting = none := by
  induction count generalizing solo with
  | zero =>
    cases hwaiting : solo.waiting with
    | none => exact hwaiting
    | some pending =>
      have hzero := h pending hwaiting
      cases pending <;> simp only [Pending.rounds] at hzero <;> omega
  | succ count ih =>
    have hone : solo.run (.replicate (count + 1) .answer) =
        (solo.move .answer).run (.replicate count .answer) := rfl
    rw [hone]
    refine ih fun next hnext => ?_
    cases hwaiting : solo.waiting with
    | none =>
      rw [move_answer_of_none hwaiting, hwaiting] at hnext
      cases hnext
    | some pending =>
      obtain ⟨reply, after, result, hreply, hresume⟩ := solo.exists_answer pending
      rw [move_answer hwaiting hreply hresume] at hnext
      have hless := Store.rounds_resume hresume (List.mem_of_head? hnext)
      have hrounds := h pending hwaiting
      omega

end Solo

end MediaGrid
