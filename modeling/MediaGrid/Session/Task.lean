import MediaGrid.Collection
import MediaGrid.Store.Operation

/-!
# Tasks and their calls

An operation that waits for the backend is a task. Each call it waits for is somewhere on
its way: held back under a number, on its way to the collection, waiting at the gate in
front of the contents, past the gate, or answered. The gate lets through as many fetches as
it has permits, first come first served.
-/

namespace MediaGrid

/-- The kinds of call. -/
inductive CallKind where
  /-- Queries. -/
  | query
  /-- Fetches. -/
  | fetch
  /-- Readings of metadata. -/
  | readRecords
  /-- Changes of metadata. -/
  | changeRecords
  /-- Deletions. -/
  | delete
  /-- Archives. -/
  | archive
  deriving DecidableEq, Repr

/-- The kind of a call. -/
def Call.kind : Call → CallKind
  | .query _ => .query
  | .fetch _ _ => .fetch
  | .readRecords _ => .readRecords
  | .changeRecords _ _ => .changeRecords
  | .delete _ => .delete
  | .archive _ => .archive

/-- Where a call is. -/
inductive Transit where
  /-- Held back under a number. -/
  | held (number : Nat) (call : Call)
  /-- On its way to the collection. -/
  | sent (call : Call)
  /-- A fetch that waits at the gate with its turn. -/
  | queued (turn : Nat) (ref : Artifact) (facet : ByteFacet)
  /-- A fetch past the gate. -/
  | passed (ref : Artifact) (facet : ByteFacet)
  /-- Answered. -/
  | answered (reply : Reply)

/-- The answer of a call that has one. -/
def Transit.reply? : Transit → Option Reply
  | .answered reply => some reply
  | _ => none

/-- The gate in front of the contents. -/
structure Gate where
  /-- How many more fetches may pass. -/
  permits : Nat
  /-- The turns that wait, first come first. -/
  queue : List Nat
  /-- The turns that were let through. -/
  admitted : List Nat
  deriving DecidableEq, Repr

namespace Gate

/-- A gate nobody waits at. -/
def ofPermits (permits : Nat) : Gate := ⟨permits, [], []⟩

/-- Adds permits; those who wait use them first. -/
def add (gate : Gate) (count : Nat) : Gate :=
  { permits := gate.permits + (count - gate.queue.length)
    queue := gate.queue.drop count
    admitted := gate.admitted ++ gate.queue.take count }

end Gate

/-- An operation that waits. -/
structure Task where
  /-- Its number. -/
  number : Nat
  /-- What it waits for. -/
  pending : Pending
  /-- Where its calls are, in the order in which they were made. -/
  calls : List Transit
  /-- The ids that came into view and went out of it, if scrolling caused the operation. -/
  scroll : Option (List ItemId × List ItemId)

/-- The single reply that stands for the replies to calls made at once: fetches are put
together, and any other call is alone. -/
def joinReplies : List Reply → Option Reply
  | [] => some (.fetched [])
  | [reply] => some reply
  | .fetched outcomes :: rest =>
    match joinReplies rest with
    | some (.fetched others) => some (.fetched (outcomes ++ others))
    | _ => none
  | _ => none

/-- The reply a task waits for, once all its calls are answered. -/
def Task.reply? (task : Task) : Option Reply :=
  (task.calls.mapM Transit.reply?).bind joinReplies

/-- Makes a call that is not a fetch to the collection. A fetch has no answer at once. -/
def Collection.perform (collection : Collection) : Call → Option Reply × Collection
  | .query request =>
    let (outcome, collection) := collection.query request
    (some (.page outcome), collection)
  | .readRecords refs =>
    let (outcome, collection) := collection.readRecords refs
    (some (.records outcome), collection)
  | .changeRecords update refs =>
    let (outcome, collection) := collection.changeRecords update refs
    (some (.settled outcome), collection)
  | .delete refs =>
    let (outcome, collection) := collection.delete refs
    (some (.settled outcome), collection)
  | .archive items =>
    let (outcome, collection) := collection.archive items
    (some (.settled outcome), collection)
  | .fetch _ _ => (none, collection)

end MediaGrid
