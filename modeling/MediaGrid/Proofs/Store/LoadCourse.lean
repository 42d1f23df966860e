import Mathlib.Data.List.Dedup
import Mathlib.Data.List.Perm.Subperm
import MediaGrid.Proofs.Grid.Consistency
import MediaGrid.Proofs.Store.Conservation
import MediaGrid.Proofs.Store.Ending

/-!
# The course of a load

One load is followed through a run of the store in which anything else may happen: where it waits,
which claims it had settled with which outcomes, and how many contents were put on the shelf in its
own turns. A load claims what it is to fetch when it starts and cuts it into chunks. It waits for
one chunk at a time, settles the whole chunk in order with the answer, and only then asks for the
next. So its claims are settled once each and in order, and its tally counts each id once. Whether
an answer comes at all is no part of it.
-/

namespace MediaGrid

namespace Collection

/-- The chunks that a list is cut into make up the list. -/
theorem flatten_chunks {α : Type} (size : Nat) (items : List α) :
    (chunks size items).flatten = items := by
  induction items using chunks.induct size with
  | case1 => rw [chunks, List.flatten_nil]
  | case2 item rest ih =>
    rw [chunks, List.flatten_cons, ih, List.cons_append, List.take_append_drop]

end Collection

/-! ## The tally -/

/-- The tally of a load of some ids, a part of which was claimed, after outcomes were settled and
contents were created. -/
structure LoadTally.Counts (summary : LoadTally) (asked claimed created : Nat)
    (settled : List ((Claim × Artifact) × Except Failure String)) : Prop where
  /-- Every id is requested. -/
  requested : summary.requested = asked
  /-- A content is counted where it is created. -/
  loaded : summary.loaded = created
  /-- A fetch is counted where it failed. -/
  failed : summary.failed = settled.countP fun row => !row.2.isOk
  /-- Each id that was not claimed is counted once, and each claim that was settled. -/
  total : summary.loaded + summary.failed + summary.skipped =
    asked - claimed + settled.length
  /-- An id that was not claimed is skipped. -/
  unclaimed : asked - claimed ≤ summary.skipped

/-- Where every claim was settled, each id that was asked for is counted once. -/
theorem LoadTally.Counts.complete {summary : LoadTally} {asked claimed created : Nat}
    {settled : List ((Claim × Artifact) × Except Failure String)}
    (h : summary.Counts asked claimed created settled) (hsettled : settled.length = claimed)
    (hle : claimed ≤ asked) :
    summary.requested = summary.loaded + summary.failed + summary.skipped ∧
      summary.loaded + summary.failed ≤ claimed := by
  have hrequested := h.requested
  have htotal := h.total
  have hskipped := h.unclaimed
  omega

namespace Store

variable {facet : ByteFacet} {asked claimed created : Nat}
  {settled : List ((Claim × Artifact) × Except Failure String)}

/-- A claim that is settled is counted once. -/
theorem counts_settleClaim {state : Store × LoadTally}
    (h : state.2.Counts asked claimed created settled) (target : Claim × Artifact)
    (outcome : Except Failure String) :
    (settleClaim facet state target.1 outcome).2.Counts asked claimed
      (created + if state.1.accepts facet target.1 outcome then 1 else 0)
      (settled ++ [(target, outcome)]) := by
  obtain ⟨store, summary⟩ := state
  obtain ⟨hasked, hloaded, hfailed, htotal, hunclaimed⟩ := h
  dsimp only at hasked hloaded hfailed htotal hunclaimed ⊢
  have hmore : (settled ++ [(target, outcome)]).countP (fun row => !row.2.isOk) =
      summary.failed + if outcome.isOk then 0 else 1 := by
    rw [List.countP_append, List.countP_singleton, ← hfailed]
    cases outcome.isOk <;> rfl
  have hlength : (settled ++ [(target, outcome)]).length = settled.length + 1 :=
    List.length_append
  cases outcome with
  | error failure =>
    refine ⟨hasked, hloaded, hmore.symm, ?_, hunclaimed⟩
    simp only [settleClaim, hlength]
    omega
  | ok content =>
    simp only [settleClaim]
    by_cases hstored : store.accepts facet target.1 (.ok content) = true
    · have hfill : (store.fill facet target.1 content).1 = true := hstored
      rw [if_pos hstored, if_pos hfill]
      refine ⟨hasked, congrArg (· + 1) hloaded, hmore.symm, ?_, hunclaimed⟩
      simp only [hlength]
      omega
    · have hfill : ¬(store.fill facet target.1 content).1 = true := hstored
      rw [if_neg hstored, if_neg hfill]
      refine ⟨hasked, hloaded, hmore.symm, ?_, Nat.le_add_right_of_le hunclaimed⟩
      simp only [hlength]
      omega

/-- Claims that are settled are counted once each. -/
theorem counts_settleClaims {state : Store × LoadTally}
    (h : state.2.Counts asked claimed created settled)
    (rows : List ((Claim × Artifact) × Except Failure String)) :
    (settleClaims facet state rows).2.Counts asked claimed
      (created + acceptedOf facet state rows) (settled ++ rows) := by
  induction rows generalizing state created settled with
  | nil =>
    rw [List.append_nil]
    exact h
  | cons row rest ih =>
    obtain ⟨target, outcome⟩ := row
    rw [List.append_cons, acceptedOf, ← Nat.add_assoc]
    exact ih (counts_settleClaim h target outcome)

/-! ## What is loaded -/

/-- An operation loads a facet of some ids of a store, so many at once. An image that is not there
is not loaded, and scrolling unloads first what went out of view. -/
inductive Loads (store : Store) : Operation → Store → ByteFacet → List ItemId → Nat → Prop where
  /-- Small images are loaded. -/
  | thumbnails (ids : List ItemId) (chunk : Nat) :
    Loads store (.thumbnails ids chunk) store .thumbnail ids chunk
  /-- A full-sized image is loaded. -/
  | image (id : ItemId) (hin : store.grid.contains id = true) :
    Loads store (.image id) store .full [id] 1
  /-- What came into view is loaded. -/
  | followScroll (entered exited : List ItemId) :
    Loads store (.followScroll entered exited) (store.unload .thumbnail exited).2 .thumbnail entered
      store.config.thumbnailChunk

theorem Loads.begin_eq {before store : Store} {operation : Operation} {ids : List ItemId}
    {size : Nat} (h : before.Loads operation store facet ids size) :
    before.begin operation = store.load facet ids size := by
  cases h with
  | thumbnails => rfl
  | image id hin => exact if_pos hin
  | followScroll => rfl

end Store

namespace Grid

variable {grid : Grid} {facet : ByteFacet} {ids : List ItemId}

/-- What is claimed was asked for and is there. -/
theorem mem_of_mem_claimAll {target : Claim × Artifact}
    (hm : target ∈ (grid.claimAll facet ids).1) :
    target.1.id ∈ ids ∧ grid.contains target.1.id = true := by
  have hlent := grid.lent_claimAll facet ids
  have hclaim : target.1 ∈ (grid.claimAll facet ids).1.map (·.1) := List.mem_map_of_mem hm
  have hempty := hlent.empty _ hclaim
  have hwaits := hlent.waits _ hclaim
  constructor
  · by_contra hout
    rw [slotAt_claimAll (Or.inr hout), hempty] at hwaits
    cases hwaits
  · have hslot : (grid.claimAll facet ids).2.slotAt target.1.id facet ≠ .empty := by
      rw [hwaits]
      exact nofun
    obtain ⟨entry, hentry⟩ := exists_entry_of_slotAt hslot
    rw [← (grid.sameUpTo_claimAll facet ids).contains_eq]
    exact contains_iff.mpr ⟨entry, hentry⟩

/-- No more is claimed than different entries were asked for. -/
theorem length_claimAll_le (grid : Grid) (facet : ByteFacet) (ids : List ItemId) :
    (grid.claimAll facet ids).1.length ≤ (ids.filter grid.contains).dedup.length := by
  have hnodup := (grid.lent_claimAll facet ids).nodup
  have hsub : (((grid.claimAll facet ids).1.map (·.1)).map (·.id)).Subperm
      (ids.filter grid.contains).dedup := by
    refine List.Nodup.subperm hnodup fun id hid => ?_
    obtain ⟨claim, hclaim, rfl⟩ := List.mem_map.mp hid
    obtain ⟨target, htarget, rfl⟩ := List.mem_map.mp hclaim
    obtain ⟨hin, hthere⟩ := mem_of_mem_claimAll htarget
    exact List.mem_dedup.mpr (List.mem_filter.mpr ⟨hin, hthere⟩)
  have hle := hsub.length_le
  rwa [List.length_map, List.length_map] at hle

end Grid

/-! ## Following a load -/

/-- Where an operation is that is followed. -/
inductive Place where
  /-- It waits at a position. -/
  | waits (position : Nat)
  /-- It ended. -/
  | ended (result : Except Failure Outcome)

/-- The tally that a load returned, if it did. -/
def Place.tally? : Place → Option LoadTally
  | .ended (.ok (.summary summary)) => some summary
  | _ => none

theorem Place.tally?_eq_some {place : Place} {summary : LoadTally}
    (h : place.tally? = some summary) : place = .ended (.ok (.summary summary)) := by
  unfold tally? at h
  split at h
  · cases h
    rfl
  · cases h

/-- Where an operation is after it ran as far as it gets: it waits before all others, unless it
ended. -/
def Progress.place : Progress → Place
  | .done result => .ended result
  | .waiting _ => .waits 0

namespace Service

/-- What an operation does that waits at a position, if a turn lets it go on. -/
def goneOn? (service : Service) (position : Nat) : Turn → Option (Store × Progress)
  | .answer answered reply =>
    if answered = position then service.resumed? position reply else none
  | _ => none

/-- The claims that a turn settles, with the outcomes of their fetches. -/
def handed (service : Service) : Turn → List ((Claim × Artifact) × Except Failure String)
  | .answer position (.fetched outcomes) =>
    match service.waiting[position]? with
    | some (.contents load) => load.chunk.zip outcomes
    | _ => []
  | _ => []

variable {service : Service} {position : Nat} {turn : Turn}

/-- What a turn does not let go on stands somewhere after it. -/
theorem exists_standing_of_not_gone (h : service.goneOn? position turn = none) :
    ∃ next, service.standing turn position = some next := by
  refine exists_standing fun hanswered => ?_
  cases turn with
  | answer answered reply =>
    obtain ⟨result, hresumed, rfl⟩ := Option.map_eq_some_iff.mp hanswered
    rw [goneOn?, if_pos rfl, hresumed] at h
    cases h
  | _ => cases hanswered

/-- What goes on in a turn does so with the answer that the turn brings. -/
theorem goneOn?_eq_some {result : Store × Progress}
    (h : service.goneOn? position turn = some result) :
    ∃ reply, turn = .answer position reply ∧ service.resumed? position reply = some result := by
  cases turn with
  | answer answered reply =>
    rw [goneOn?] at h
    split at h
    · rename_i hsame
      exact ⟨reply, by rw [hsame], h⟩
    · cases h
  | _ => cases h

end Service

/-- A service with one operation that is followed. -/
structure Follow where
  /-- The service. -/
  service : Service
  /-- Where the operation is. -/
  place : Place
  /-- The claims that were settled in its turns, in order, with the outcomes of their fetches. -/
  settled : List ((Claim × Artifact) × Except Failure String)
  /-- How many contents were put on the shelf in its turns. -/
  created : Nat

namespace Follow

/-- An operation is followed from its start. -/
def start (service : Service) (operation : Operation) : Follow :=
  let after := service.turn (.start operation)
  ⟨after, (service.store.begin operation).2.place, service.handed (.start operation),
    after.store.shelf.created - service.store.shelf.created⟩

/-- What is noted in a turn. A turn in which the operation does not go on is none of its own. -/
def turn (follow : Follow) (turn : Turn) : Follow :=
  let after := follow.service.turn turn
  match follow.place with
  | .ended _ => { follow with service := after }
  | .waits position =>
    match follow.service.goneOn? position turn with
    | none =>
      { follow with
        service := after
        place := .waits ((follow.service.standing turn position).getD position) }
    | some (_, progress) =>
      ⟨after, progress.place, follow.settled ++ follow.service.handed turn,
        follow.created + (after.store.shelf.created - follow.service.store.shelf.created)⟩

/-- What is noted in turns taken one after the other. -/
def run (follow : Follow) (turns : List Turn) : Follow := turns.foldl turn follow

/-- To be followed does not change the run. -/
theorem service_turn (follow : Follow) (turn : Turn) :
    (follow.turn turn).service = follow.service.turn turn := by
  unfold Follow.turn
  dsimp only
  split
  · rfl
  · split <;> rfl

theorem service_run (follow : Follow) (turns : List Turn) :
    (follow.run turns).service = follow.service.run turns := by
  induction turns generalizing follow with
  | nil => rfl
  | cons turn rest ih => exact (ih (follow.turn turn)).trans (by rw [service_turn]; rfl)

/-! ## The course -/

/-- How far a load is that claimed something of so many ids: it waits for a chunk after it settled
the chunks before, or it settled all and returned its tally. -/
inductive Course (facet : ByteFacet) (size asked : Nat) (claims : List (Claim × Artifact)) :
    Follow → Prop where
  /-- It waits for a chunk. -/
  | waits {service : Service} {position : Nat} {load : ByteLoad}
    {settled : List ((Claim × Artifact) × Except Failure String)} {created : Nat}
    (earlier : List (List (Claim × Artifact)))
    (hwaits : service.waiting[position]? = some (.contents load)) (hfacet : load.facet = facet)
    (hsize : load.size = size)
    (hchunks : Collection.chunks size claims =
      earlier ++ load.chunk :: Collection.chunks size load.rest)
    (hlength : load.chunk.length ≤ max 1 size) (hsettled : settled.map (·.1) = earlier.flatten)
    (hcounts : load.summary.Counts asked claims.length created settled) :
    Course facet size asked claims ⟨service, .waits position, settled, created⟩
  /-- It ended. -/
  | ended {service : Service} {settled : List ((Claim × Artifact) × Except Failure String)}
    {created : Nat} (summary : LoadTally) (hsettled : settled.map (·.1) = claims)
    (hcounts : summary.Counts asked claims.length created settled) :
    Course facet size asked claims
      ⟨service, .ended (.ok (.summary summary)), settled, created⟩

variable {facet : ByteFacet} {size asked : Nat} {claims : List (Claim × Artifact)}

/-- A load that settled some chunks asks for the next one or ends. -/
theorem course_nextChunk (store : Store) {load : ByteLoad}
    {settled : List ((Claim × Artifact) × Except Failure String)} {created : Nat}
    (earlier : List (List (Claim × Artifact))) (others : List Pending)
    (hfacet : load.facet = facet) (hsize : load.size = size)
    (hchunks : Collection.chunks size claims = earlier ++ Collection.chunks size load.rest)
    (hsettled : settled.map (·.1) = earlier.flatten)
    (hcounts : load.summary.Counts asked claims.length created settled) :
    Course facet size asked claims ⟨⟨(store.nextChunk load).1,
      (store.nextChunk load).2.pendings ++ others⟩, (store.nextChunk load).2.place, settled,
      created⟩ := by
  obtain ⟨loaded, count, chunk, rest, summary⟩ := load
  cases hfacet
  cases hsize
  cases rest with
  | nil =>
    rw [Collection.chunks, List.append_nil] at hchunks
    refine .ended summary ?_ hcounts
    rw [hsettled, ← hchunks, Collection.flatten_chunks]
  | cons target rest =>
    rw [Store.nextChunk_cons]
    rw [Collection.chunks] at hchunks
    refine .waits earlier rfl rfl rfl hchunks ?_ hsettled hcounts
    rw [List.length_cons, List.length_take]
    dsimp only
    omega

/-- A load that starts settled nothing yet. -/
theorem course_start (service : Service) {operation : Operation} {store : Store}
    {ids : List ItemId} (h : service.store.Loads operation store facet ids size) :
    Course facet size ids.length (store.grid.claimAll facet ids).1 (start service operation) := by
  have hcreated := (service.turn_moves (.start operation)).created
  have hnone : (start service operation).created = 0 := by
    rw [start, hcreated]
    exact Nat.sub_self _
  have hturn : service.turn (.start operation) = ⟨(store.load facet ids size).1,
      (store.load facet ids size).2.pendings ++ service.waiting⟩ := by
    simp only [Service.turn, h.begin_eq]
  have hstart : start service operation = ⟨⟨(store.load facet ids size).1,
      (store.load facet ids size).2.pendings ++ service.waiting⟩,
      (store.load facet ids size).2.place, [], 0⟩ := by
    rw [← hnone, ← hturn, ← h.begin_eq]
    rfl
  rw [hstart]
  refine course_nextChunk _ [] service.waiting rfl rfl rfl rfl ?_
  exact ⟨rfl, rfl, rfl, by simp only [List.length_nil]; omega, Nat.le_refl _⟩

/-- A load keeps to its course in every turn. -/
theorem Course.turn {follow : Follow} (h : Course facet size asked claims follow)
    (turn : Turn) : Course facet size asked claims (follow.turn turn) := by
  cases h with
  | ended summary hsettled hcounts => exact .ended summary hsettled hcounts
  | @waits service position load settled created earlier hwaits hfacet hsize hchunks hlength
      hsettled hcounts =>
    simp only [Follow.turn]
    cases hgone : service.goneOn? position turn with
    | none =>
      obtain ⟨next, hnext⟩ := Service.exists_standing_of_not_gone hgone
      rw [hnext]
      exact .waits earlier ((Service.getElem?_standing hnext).trans hwaits) hfacet hsize hchunks
        hlength hsettled hcounts
    | some result =>
      obtain ⟨reply, rfl, hresumed⟩ := Service.goneOn?_eq_some hgone
      rw [Service.turn_of_resumed hresumed]
      rw [Service.resumed?, hwaits, Option.bind_some] at hresumed
      cases Store.resumes_of_eq_some hresumed with
      | contents load outcomes hfits =>
        have hhanded : service.handed (.answer position (.fetched outcomes)) =
            load.chunk.zip outcomes := by
          simp only [Service.handed, hwaits]
        have hstore := (Store.nextChunk_eq (Store.settleClaims load.facet
          (service.store, load.summary) (load.chunk.zip outcomes)).1 { load with
            chunk := []
            summary := (Store.settleClaims load.facet (service.store, load.summary)
              (load.chunk.zip outcomes)).2 }).1
        have hcreated : (service.store.settleChunk load outcomes).1.shelf.created -
            service.store.shelf.created = Store.acceptedOf load.facet (service.store, load.summary)
              (load.chunk.zip outcomes) := by
          rw [Store.settleChunk, hstore, Store.created_settleClaims]
          exact Nat.add_sub_cancel_left _ _
        dsimp only
        rw [hhanded, hcreated]
        -- The chunk is settled as a whole before the next is asked for.
        refine course_nextChunk _ (earlier ++ [load.chunk]) _ hfacet hsize ?_ ?_
          (Store.counts_settleClaims hcounts _)
        · rw [hchunks, List.append_assoc, List.singleton_append]
        · rw [List.map_append, hsettled, List.map_fst_zip (Nat.le_of_eq hfits.symm),
            List.flatten_append, List.flatten_singleton]

theorem Course.run {follow : Follow} (h : Course facet size asked claims follow)
    (turns : List Turn) : Course facet size asked claims (follow.run turns) := by
  induction turns generalizing follow with
  | nil => exact h
  | cons turn rest ih => exact ih (h.turn turn)

end Follow

namespace Service

/-- A load settles each claim once and in order, chunk by chunk, whatever else happens. It claims
each id once at most; it waits for the fetches of one chunk alone, never for more than the size of
a chunk or for one; and the tally that it returns counts each id once: the contents that it put on
the shelf, the fetches that failed, and the rest. An image that is not there is not loaded. -/
theorem load_settles_once (config : Config) (draw : Nat → Uuid) (early late : List Turn) :
    let before := (fresh config draw).run early
    (∀ id, before.store.grid.contains id = false →
      before.store.begin (.image id) = (before.store, .done (.error (.notFound id)))) ∧
    ∀ {operation : Operation} {store : Store} {facet : ByteFacet} {ids : List ItemId} {size : Nat},
      before.store.Loads operation store facet ids size →
      let claims := (store.grid.claimAll facet ids).1
      let follow := (Follow.start before operation).run late
      follow.service = (fresh config draw).run (early ++ .start operation :: late) ∧
      (claims.map (·.1.id)).Nodup ∧
      ∃ earlier ahead, Collection.chunks size claims = earlier ++ ahead ∧
        follow.settled.map (·.1) = earlier.flatten ∧
        (∀ position, follow.place = .waits position → ∃ pending chunk later,
          ahead = chunk :: later ∧ follow.service.waiting[position]? = some pending ∧
          pending.calls = (chunk.map fun target => .fetch target.2 facet) ∧
          pending.calls.length ≤ max 1 size) ∧
        ∀ result, follow.place = .ended result → follow.settled.map (·.1) = claims ∧
          ∃ summary : LoadTally, result = .ok (.summary summary) ∧
            summary.requested = ids.length ∧
            summary.requested = summary.loaded + summary.failed + summary.skipped ∧
            summary.loaded = follow.created ∧
            summary.failed = follow.settled.countP (fun row => !row.2.isOk) ∧
            summary.loaded + summary.failed ≤ (ids.filter store.grid.contains).dedup.length := by
  intro before
  refine ⟨fun id hout => ?_, fun {operation store facet ids size} h => ?_⟩
  · exact if_neg (by rw [hout]; exact Bool.false_ne_true)
  intro claims follow
  have hcourse : Follow.Course facet size ids.length claims follow :=
    (Follow.course_start _ h).run late
  have hservice : follow.service = (fresh config draw).run (early ++ .start operation :: late) := by
    rw [Follow.service_run, run_append]
    rfl
  have hclaimed : claims.length ≤ (ids.filter store.grid.contains).dedup.length :=
    store.grid.length_claimAll_le facet ids
  have hpresent : (ids.filter store.grid.contains).dedup.length ≤ ids.length :=
    (List.dedup_sublist _).length_le.trans (List.length_filter_le _ _)
  have hnodup : (claims.map (·.1.id)).Nodup := by
    have hlent := (store.grid.lent_claimAll facet ids).nodup
    rwa [List.map_map] at hlent
  refine ⟨hservice, hnodup, ?_⟩
  clear_value follow
  cases hcourse with
  | @waits service position load settled created earlier hwaits hfacet hsize hchunks hlength
      hsettled hcounts =>
    refine ⟨earlier, _, hchunks, hsettled, ?_, fun result hended => by cases hended⟩
    intro place hplace
    cases hplace
    refine ⟨_, _, _, rfl, hwaits, by rw [Pending.calls, hfacet], ?_⟩
    rw [Pending.calls, List.length_map]
    exact hlength
  | @ended service settled created summary hsettled hcounts =>
    refine ⟨_, [], (List.append_nil _).symm, ?_, ?_, fun result hended => ?_⟩
    · rw [hsettled, Collection.flatten_chunks]
    · intro position hplace
      cases hplace
    · cases hended
      have hcount : settled.length = claims.length := by rw [← hsettled, List.length_map]
      obtain ⟨htotal, hle⟩ := hcounts.complete hcount (hclaimed.trans hpresent)
      exact ⟨hsettled, summary, rfl, hcounts.requested, htotal, hcounts.loaded, hcounts.failed,
        hle.trans hclaimed⟩

/-- Two images are asked for, one of them twice, with an id that has no entry, in chunks of no
size: the first is fetched and comes, its entry is dropped while the second is fetched, and that
one fails. -/
theorem load_settles_once_of_two :
    let pier : Artifact := ⟨"shots", "a.jpg", .image⟩
    let dock : Artifact := ⟨"shots", "b.jpg", .image⟩
    let early : List Turn := [.command (.add [pier, dock])]
    let late : List Turn := [.answer 0 (.fetched [.ok "bytes"]), .command (.clear false),
      .answer 0 (.fetched [.error (.backend "gone")])]
    let before := (fresh .standard .supply).run early
    let ids := [pier.id, dock.id, pier.id, ⟨"none"⟩]
    before.store.Loads (.thumbnails ids 0) before.store .thumbnail ids 0 ∧
      ∃ summary : LoadTally,
        ((Follow.start before (.thumbnails ids 0)).run late).place =
          .ended (.ok (.summary summary)) ∧
        summary = ⟨4, 1, 1, 2⟩ ∧ summary.loaded + summary.failed ≤ 2 := by
  intro pier dock early late before ids
  have hloads : before.store.Loads (.thumbnails ids 0) before.store .thumbnail ids 0 :=
    .thumbnails ids 0
  have hended : ((Follow.start before (.thumbnails ids 0)).run late).place =
      .ended (.ok (.summary ⟨4, 1, 1, 2⟩)) :=
    Place.tally?_eq_some (by decide +kernel)
  have hcounted := (load_settles_once .standard .supply early late).2 hloads
  obtain ⟨-, -, earlier, ahead, -, -, -, hreturned⟩ := hcounted
  obtain ⟨-, summary, hresult, -, -, -, -, hle⟩ := hreturned _ hended
  cases hresult
  have hpresent : (ids.filter before.store.grid.contains).dedup.length = 2 := by decide +kernel
  exact ⟨hloads, _, hended, rfl, hpresent ▸ hle⟩

end Service

end MediaGrid
