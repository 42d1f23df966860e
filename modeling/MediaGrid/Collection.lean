import MediaGrid.Exchange

/-!
# Collections

A backend that keeps its artifacts in memory, in the order in which they were put in. It
answers every call of the grid, counts the calls, and can be told to fail at single points.
A fetch has two moments: when it arrives it is counted and in flight, and when it leaves it
gets its outcome.
-/

namespace MediaGrid

/-- Where a collection can be told to fail. -/
inductive FaultPoint where
  /-- Answering queries. -/
  | query
  /-- Fetching contents. -/
  | fetch
  /-- Reading metadata. -/
  | readRecords
  /-- Changing metadata. -/
  | changeRecords
  /-- Deleting artifacts. -/
  | delete
  /-- Writing archives. -/
  | archive
  deriving DecidableEq, Repr

/-- The names of the points. -/
def FaultPoint.names : List (String × FaultPoint) :=
  [("Query", .query), ("Fetch", .fetch), ("MetadataGet", .readRecords),
    ("MetadataUpdate", .changeRecords), ("Delete", .delete), ("Archive", .archive)]

/-- The name of a point. -/
def FaultPoint.name (point : FaultPoint) : String :=
  ((names.find? (·.2 == point)).map (·.1)).getD ""

/-- How often each call was made. -/
structure CallTally where
  /-- Queries. -/
  query : Nat
  /-- Fetches of small images. -/
  thumbnail : Nat
  /-- Fetches of full-sized images. -/
  full : Nat
  /-- Readings of metadata. -/
  readRecords : Nat
  /-- Changes of metadata. -/
  changeRecords : Nat
  /-- Deletions. -/
  delete : Nat
  /-- Archives. -/
  archive : Nat
  deriving DecidableEq, Repr

/-- A backend that keeps its artifacts in memory. -/
structure Collection where
  /-- The artifacts with their metadata, in order of insertion; repetitions are kept. -/
  rows : List (Artifact × Metadata)
  /-- The points that fail. -/
  failing : List FaultPoint
  /-- The archives written. -/
  archives : List (List ArchiveEntry)
  /-- How often each call was made. -/
  counts : CallTally
  /-- How many fetches have arrived and not left. -/
  inFlight : Nat
  /-- The most fetches that were in flight at once. -/
  peak : Nat
  deriving DecidableEq

namespace Collection

/-- The collection of the given artifacts. -/
def ofRows (rows : List (Artifact × Metadata)) : Collection :=
  ⟨rows, [], [], ⟨0, 0, 0, 0, 0, 0, 0⟩, 0, 0⟩

/-- Puts an artifact in behind the others. -/
def insert (collection : Collection) (ref : Artifact) (record : Metadata) : Collection :=
  { collection with rows := collection.rows ++ [(ref, record)] }

/-- Makes a point fail. -/
def fail (collection : Collection) (point : FaultPoint) : Collection :=
  if point ∈ collection.failing then collection
  else { collection with failing := point :: collection.failing }

/-- Makes a point work again. -/
def recover (collection : Collection) (point : FaultPoint) : Collection :=
  { collection with failing := collection.failing.filter (· != point) }

/-- The first row of an artifact. -/
def row? (collection : Collection) (ref : Artifact) : Option (Artifact × Metadata) :=
  collection.rows.find? (·.1 == ref)

/-- The metadata of an artifact. -/
def recordOf? (collection : Collection) (ref : Artifact) : Option Metadata :=
  (collection.row? ref).map (·.2)

/-- The failure of a point that was told to fail. -/
def check (collection : Collection) (point : FaultPoint) : Except Failure Unit :=
  if point ∈ collection.failing then .error (.backend (point.name ++ " unavailable")) else .ok ()

/-- The artifacts that meet one of the queries, or all if there is no query. -/
def matching (collection : Collection) (queries : List Query) : List Artifact :=
  (collection.rows.filter fun row =>
    queries.isEmpty || queries.any fun query => query.accepts row.2).map (·.1)

/-- The page of results that a request asks for. -/
def answer (collection : Collection) (request : PageRequest) : Except Failure Page := do
  collection.check .query
  if request.resultsPerPage = 0 then throw .emptyPages
  let refs := collection.matching request.predicates
  let start := request.page * request.resultsPerPage
  return ⟨(refs.drop start).take request.resultsPerPage, request.page,
    refs.length ≤ start + request.resultsPerPage⟩

/-- The first row of each artifact that has one, in the order asked for. -/
def records (collection : Collection) (refs : List Artifact) :
    Except Failure (List (Artifact × Metadata)) := do
  collection.check .readRecords
  return refs.filterMap collection.row?

/-- The word for a byte facet in contents. -/
def facetWord : ByteFacet → String
  | .thumbnail => "Thumbnail"
  | .full => "Full"

/-- The content of a facet of an artifact. -/
def content (collection : Collection) (ref : Artifact) (facet : ByteFacet) :
    Except Failure String := do
  collection.check .fetch
  if (collection.row? ref).isNone then
    throw (.backend ("no such artifact " ++ ref.bucket ++ "/" ++ ref.name))
  return facetWord facet ++ ":" ++ ref.bucket ++ "/" ++ ref.name

/-- Where a video can be watched; images have no such addresses. -/
def videoLinks? (ref : Artifact) : Option VideoLinks :=
  match ref.kind with
  | .image => none
  | .video =>
    let base :=
      "memory://" ++ Text.percentEncode ref.bucket ++ "/" ++ Text.percentEncode ref.name
    some ⟨base ++ "/preview", base ++ "/stream"⟩

/-! ## Calls -/

/-- Counts a query and answers it. -/
def query (collection : Collection) (request : PageRequest) :
    Except Failure Page × Collection :=
  let counts := { collection.counts with query := collection.counts.query + 1 }
  (collection.answer request, { collection with counts := counts })

/-- Counts a reading of metadata and answers it. -/
def readRecords (collection : Collection) (refs : List Artifact) :
    Except Failure (List (Artifact × Metadata)) × Collection :=
  let counts := { collection.counts with readRecords := collection.counts.readRecords + 1 }
  (collection.records refs, { collection with counts := counts })

/-- Applies an update to every row of the given artifacts. -/
def changeRecords (collection : Collection) (update : Metadata) (refs : List Artifact) :
    Except Failure Unit × Collection :=
  let counts :=
    { collection.counts with changeRecords := collection.counts.changeRecords + 1 }
  let counted := { collection with counts := counts }
  match collection.check .changeRecords with
  | .error failure => (.error failure, counted)
  | .ok () =>
    (.ok (), { counted with
      rows := collection.rows.map fun row =>
        if row.1 ∈ refs then (row.1, row.2.amend update) else row })

/-- Drops every row of the given artifacts. -/
def delete (collection : Collection) (refs : List Artifact) :
    Except Failure Unit × Collection :=
  let counts := { collection.counts with delete := collection.counts.delete + 1 }
  let counted := { collection with counts := counts }
  match collection.check .delete with
  | .error failure => (.error failure, counted)
  | .ok () => (.ok (), { counted with rows := collection.rows.filter (·.1 ∉ refs) })

/-- Keeps an archive. -/
def archive (collection : Collection) (items : List ArchiveEntry) :
    Except Failure Unit × Collection :=
  let counts := { collection.counts with archive := collection.counts.archive + 1 }
  let counted := { collection with counts := counts }
  match collection.check .archive with
  | .error failure => (.error failure, counted)
  | .ok () => (.ok (), { counted with archives := collection.archives ++ [items] })

/-- A fetch arrives: it is counted and in flight. -/
def arrive (collection : Collection) (facet : ByteFacet) : Collection :=
  let counts := match facet with
    | .thumbnail => { collection.counts with thumbnail := collection.counts.thumbnail + 1 }
    | .full => { collection.counts with full := collection.counts.full + 1 }
  { collection with
    counts := counts
    inFlight := collection.inFlight + 1
    peak := max collection.peak (collection.inFlight + 1) }

/-- A fetch leaves with its outcome. -/
def leave (collection : Collection) (ref : Artifact) (facet : ByteFacet) :
    Except Failure String × Collection :=
  (collection.content ref facet, { collection with inFlight := collection.inFlight - 1 })

/-- Several fetches that are made at once: all arrive, and then each leaves. -/
def fetchAll (collection : Collection) (facet : ByteFacet) (refs : List Artifact) :
    List (Except Failure String) × Collection :=
  let arrived := refs.foldl (fun c _ => c.arrive facet) collection
  refs.foldl
    (fun (outcomes, c) ref =>
      let (outcome, c) := c.leave ref facet
      (outcomes ++ [outcome], c))
    ([], arrived)

/-- Cuts a list into chunks of at most `size` items, and of one if `size` is zero. -/
def chunks (size : Nat) : List α → List (List α)
  | [] => []
  | item :: rest => (item :: rest.take (size - 1)) :: chunks size (rest.drop (size - 1))
termination_by items => items.length
decreasing_by
  simp only [List.length_drop, List.length_cons]
  omega

/-- Fetches the contents of keyed artifacts chunk by chunk, each chunk at once, and returns the
outcomes under their keys. -/
def fetchInChunks (collection : Collection) (size : Nat) (facet : ByteFacet)
    (targets : List (κ × Artifact)) : List (κ × Except Failure String) × Collection :=
  (chunks size targets).foldl
    (fun (settled, c) chunk =>
      let (outcomes, c) := c.fetchAll facet (chunk.map (·.2))
      (settled ++ (chunk.map (·.1)).zip outcomes, c))
    ([], collection)

end Collection

end MediaGrid
