import MediaGrid.Broadcast
import MediaGrid.Session.Task
import MediaGrid.Window.Basic
import MediaGrid.Window.Layout

/-!
# Sessions

A session is a store at work with a collection. Calls of chosen kinds can be held back and
let go one by one, so that operations overlap in any way; every other call is answered at
once. After each step the session reports the result of the step, which waiting operations
ended, which calls were made, and what the subscriber was told.
-/

namespace MediaGrid

/-- A call that was made, with the number under which it is held back, if it is. -/
structure LoggedCall where
  /-- The call. -/
  call : Call
  /-- The number of a call that is held back. -/
  held : Option Nat

/-- A store at work with a collection. -/
structure Session where
  /-- The store. -/
  store : Store
  /-- The backend. -/
  collection : Collection
  /-- Where the store's events go. -/
  channel : Channel Event
  /-- How many of the store's events went there. -/
  delivered : Nat
  /-- The operations that wait, in the order in which they were started. -/
  tasks : List Task
  /-- The number of the next operation. -/
  nextTask : Nat
  /-- The number of the next call that is held back. -/
  nextCall : Nat
  /-- The turn of the next fetch that has to wait at a gate. -/
  nextTurn : Nat
  /-- The kinds of call that are held back. -/
  holding : List CallKind
  /-- The gate in front of the contents, if there is one. -/
  gate : Option Gate
  /-- The calls made during the current step. -/
  log : List LoggedCall
  /-- The window over the grid, once it was scrolled. -/
  view : Option (ScrollView ItemId)

/-- What a step returns. -/
inductive Answer where
  /-- Nothing. -/
  | nothing
  /-- Ids. -/
  | ids (ids : List ItemId)
  /-- A number. -/
  | count (value : Nat)
  /-- Whether something was done. -/
  | truth (value : Bool)
  /-- The configuration. -/
  | config (config : Config)
  /-- A metadata record, if there is one. -/
  | record (record : Option Metadata)
  /-- What waited for a subscriber, if there is one. -/
  | deliveries (waiting : Option (List (Delivery Event)))
  /-- The number of an operation that waits. -/
  | pending (task : Nat)
  /-- The result of an operation. -/
  | result (result : Except Failure Outcome)
  /-- The result of loading what scrolling brought into view. -/
  | scrolled (entered exited : List ItemId) (result : Except Failure Outcome)

/-- How a call that was held back goes on. -/
inductive Release where
  /-- It goes to the collection. -/
  | proceed
  /-- It is answered without the collection. -/
  | answer (reply : Reply)

/-- A step of a session. -/
inductive Step where
  /-- Adds entries. -/
  | add (refs : List Artifact)
  /-- Drops every entry. -/
  | clear (keepQuery : Bool)
  /-- Drops loaded contents. -/
  | unload (facet : ByteFacet) (ids : List ItemId)
  /-- Selects or deselects entries. -/
  | mark (ids : Option (List ItemId)) (value : Bool)
  /-- Opens or closes the edit dialog. -/
  | dialog (isOpen : Bool)
  /-- Sets the addresses of a video. -/
  | showVideo (id : ItemId)
  /-- Clears the addresses of a video. -/
  | hideVideo (id : ItemId)
  /-- Sets the search text. -/
  | typeSearch (search : String)
  /-- Puts a completion into the search text. -/
  | pick (completion : String)
  /-- Shows the configuration. -/
  | showConfig
  /-- Adds a second subscriber, in place of an earlier second one. -/
  | subscribe
  /-- Takes what waits for the second subscriber. -/
  | drain
  /-- Makes a point of the collection fail. -/
  | fail (point : FaultPoint)
  /-- Makes a point of the collection work again. -/
  | recover (point : FaultPoint)
  /-- Puts an artifact into the collection. -/
  | insert (ref : Artifact) (record : Metadata)
  /-- Shows the metadata of an artifact in the collection. -/
  | showMetadata (ref : Artifact)
  /-- Starts an operation. -/
  | start (operation : Operation)
  /-- Scrolls a list of rows of equal height, and loads what came into view. -/
  | scroll (viewport : Viewport) (row : Float) (rebuild : Bool)
  /-- Holds back later calls of these kinds, and of no other. -/
  | hold (kinds : List CallKind)
  /-- Lets a call go on that is held back. -/
  | release (number : Nat) (how : Release)
  /-- Puts a new gate in front of later fetches. -/
  | gate (permits : Nat)
  /-- Adds permits to the gate. -/
  | permits (count : Nat)

/-- What a session reports about a step. -/
structure Report where
  /-- What the step returned. -/
  answer : Answer
  /-- The operations that ended, with their results. -/
  ended : List (Nat × Answer)
  /-- The calls that were made. -/
  calls : List LoggedCall
  /-- What the first subscriber was told. -/
  events : List (Delivery Event)

namespace Session

/-- The key of the subscriber that is there from the start. -/
def firstSubscriber : Nat := 0

/-- The key of the subscriber that can be added. -/
def secondSubscriber : Nat := 1

/-- A session with an empty grid. -/
def ofConfig (config : Config) (collection : Collection) : Except Failure Session :=
  (Store.ofConfig config).map fun store =>
    { store := store
      collection := collection
      channel := (Channel.create config.busCapacity).subscribe firstSubscriber
      delivered := 0
      tasks := []
      nextTask := 0
      nextCall := 0
      nextTurn := 0
      holding := []
      gate := none
      log := []
      view := none }

/-! ## Calls -/

/-- Makes a call: it is logged, and held back or sent. -/
def makeCall (session : Session) (call : Call) : Transit × Session :=
  if call.kind ∈ session.holding then
    (.held session.nextCall call,
      { session with
        nextCall := session.nextCall + 1
        log := session.log ++ [⟨call, some session.nextCall⟩] })
  else (.sent call, { session with log := session.log ++ [⟨call, none⟩] })

/-- Applies a step that moves a call on to each call in turn. -/
def moveEach (move : Session → α → Transit × Session) (session : Session) :
    List α → List Transit × Session
  | [] => ([], session)
  | call :: rest =>
    let (moved, session) := move session call
    let (others, session) := moveEach move session rest
    (moved :: others, session)

/-- A fetch arrives at the collection and goes through the gate or waits at it. -/
def enterGate (session : Session) (ref : Artifact) (facet : ByteFacet) : Transit × Session :=
  let session := { session with collection := session.collection.arrive facet }
  match session.gate with
  | none => (.passed ref facet, session)
  | some gate =>
    if 0 < gate.permits then
      (.passed ref facet, { session with gate := some { gate with permits := gate.permits - 1 } })
    else
      (.queued session.nextTurn ref facet,
        { session with
          nextTurn := session.nextTurn + 1
          gate := some { gate with queue := gate.queue ++ [session.nextTurn] } })

/-- Moves a call on its way: a call that was sent arrives, and a fetch that the gate let
through passes it. -/
def moveIn (session : Session) (transit : Transit) : Transit × Session :=
  match transit with
  | .sent (.fetch ref facet) => session.enterGate ref facet
  | .sent call =>
    match session.collection.perform call with
    | (some reply, collection) => (.answered reply, { session with collection := collection })
    | (none, _) => (transit, session)
  | .queued turn ref facet =>
    if session.gate.any fun gate => turn ∈ gate.admitted then (.passed ref facet, session)
    else (transit, session)
  | _ => (transit, session)

/-- Moves a call out of the collection: a fetch past the gate gets its outcome. -/
def moveOut (session : Session) (transit : Transit) : Transit × Session :=
  match transit with
  | .passed ref facet =>
    let (outcome, collection) := session.collection.leave ref facet
    (.answered (.fetched [outcome]), { session with collection := collection })
  | _ => (transit, session)

/-- Moves the calls of a task as far as they get: all go in before any comes out. -/
def moveCalls (session : Session) (calls : List Transit) : List Transit × Session :=
  let (calls, session) := moveEach moveIn session calls
  moveEach moveOut session calls

/-! ## Tasks -/

/-- What is reported of an operation that ended. -/
def answerOf (scroll : Option (List ItemId × List ItemId)) (result : Except Failure Outcome) :
    Answer :=
  match scroll with
  | none => .result result
  | some (entered, exited) => .scrolled entered exited result

/-- Runs a task as far as it gets, through at most `fuel` answers: to its end or to calls that
are not answered yet. -/
def advance : Nat → Session → Task → (Task ⊕ Answer) × Session
  | 0, session, task => (.inl task, session)
  | fuel + 1, session, task =>
    let (calls, session) := session.moveCalls task.calls
    let task := { task with calls := calls }
    match task.reply? >>= session.store.resume task.pending with
    | none => (.inl task, session)
    | some (store, .done result) => (.inr (answerOf task.scroll result), { session with store })
    | some (store, .waiting pending) =>
      let (calls, session) := moveEach makeCall { session with store } pending.calls
      advance fuel session { task with pending := pending, calls := calls }

/-- Runs a task as far as it gets. -/
def run (session : Session) (task : Task) : (Task ⊕ Answer) × Session :=
  advance (task.pending.rounds + 1) session task

/-- Starts an operation; what is left of it waits as a task. -/
def start (session : Session) (operation : Operation)
    (scroll : Option (List ItemId × List ItemId)) : Answer × Session :=
  let number := session.nextTask
  let (store, progress) := session.store.begin operation
  let session := { session with store := store, nextTask := number + 1 }
  match progress with
  | .done result => (answerOf scroll result, session)
  | .waiting pending =>
    let (calls, session) := moveEach makeCall session pending.calls
    match session.run ⟨number, pending, calls, scroll⟩ with
    | (.inr answer, session) => (answer, session)
    | (.inl task, session) => (.pending number, { session with tasks := session.tasks ++ [task] })

/-- Runs the waiting tasks in order, and returns those that ended and those that still wait. -/
def runTasks (session : Session) : List Task → List (Nat × Answer) × List Task × Session
  | [] => ([], [], session)
  | task :: rest =>
    let (state, session) := session.run task
    let (ended, waiting, session) := session.runTasks rest
    match state with
    | .inr answer => ((task.number, answer) :: ended, waiting, session)
    | .inl task => (ended, task :: waiting, session)

/-- Runs all waiting tasks, and returns those that ended. -/
def resumeAll (session : Session) : List (Nat × Answer) × Session :=
  let (ended, waiting, session) := session.runTasks session.tasks
  (ended, { session with tasks := waiting })

/-! ## Holding calls back -/

/-- The call that is held back under a number. -/
def heldCall? (session : Session) (number : Nat) : Option Call :=
  session.tasks.findSome? fun task => task.calls.findSome? fun
    | .held n call => if n = number then some call else none
    | _ => none

/-- Lets a call go on that is held back under a number. -/
def letGo (number : Nat) (how : Release) : Transit → Transit
  | .held n call =>
    if n = number then
      match how with
      | .proceed => .sent call
      | .answer reply => .answered reply
    else .held n call
  | transit => transit

/-- Lets a call go on, if it is held back, and tells whether it was. -/
def releaseCall (session : Session) (number : Nat) (how : Release) : Bool × Session :=
  ((session.heldCall? number).isSome,
    { session with
      tasks := session.tasks.map fun task =>
        { task with calls := task.calls.map (letGo number how) } })

/-! ## Scrolling -/

/-- The sequence of ids that the window is over. -/
def sequence (session : Session) : List (Option ItemId) := session.store.grid.ids.map some

/-- Whether an id is visible in given bounds when the ids have rows of equal height. -/
def rowShows (ids : List ItemId) (row : Float) (bounds : Bounds) (id : ItemId) : Bool :=
  match ids.findIdx? (· == id) with
  | none => false
  | some index =>
    let stretch := Layout.row row index
    bounds.meets stretch.start stretch.stop

/-- Scrolls to a viewport, and loads what came into view. -/
def scrollTo (session : Session) (viewport : Viewport) (row : Float) (rebuild : Bool) :
    Answer × Session :=
  let view := match session.view with
    | some view => { view with viewport := viewport }
    | none => ScrollView.ofViewport viewport session.store.config.bufferRatio
  let shows := rowShows session.store.grid.ids row
  let (view, crossings) :=
    if rebuild then view.rebuild session.sequence shows
    else view.follow session.sequence shows
  let entered := Window.enteredOf crossings
  let exited := Window.exitedOf crossings
  { session with view := some view }.start (.followScroll entered exited)
    (some (entered, exited))

/-! ## Steps -/

/-- Puts the store of a session in place after an operation that returns something. -/
def withStore (session : Session) (answer : α → Answer) (result : α × Store) :
    Answer × Session :=
  (answer result.1, { session with store := result.2 })

/-- Takes a step that resumes no task. -/
def act (session : Session) : Step → Answer × Session
  | .add refs => session.withStore .ids (session.store.addAll refs)
  | .clear keepQuery => (.nothing, { session with store := session.store.clear keepQuery })
  | .unload facet ids => session.withStore .count (session.store.unload facet ids)
  | .mark ids value => session.withStore .truth (session.store.mark ids value)
  | .dialog isOpen => session.withStore .truth (session.store.setDialog isOpen)
  | .showVideo id =>
    session.withStore .truth (session.store.showVideo Collection.videoLinks? id)
  | .hideVideo id => session.withStore .truth (session.store.setVideo id none)
  | .typeSearch search => session.withStore .truth (session.store.typeSearch search)
  | .pick completion =>
    session.withStore .truth (session.store.pick completion)
  | .showConfig => (.config session.store.config, session)
  | .subscribe =>
    (.nothing, { session with channel := session.channel.subscribe secondSubscriber })
  | .drain =>
    let (waiting, channel) := session.channel.drain secondSubscriber
    (.deliveries waiting, { session with channel := channel })
  | .fail point => (.nothing, { session with collection := session.collection.fail point })
  | .recover point => (.nothing, { session with collection := session.collection.recover point })
  | .insert ref record =>
    (.nothing, { session with collection := session.collection.insert ref record })
  | .showMetadata ref => (.record (session.collection.recordOf? ref), session)
  | .start operation => session.start operation none
  | .scroll viewport row rebuild => session.scrollTo viewport row rebuild
  | .hold kinds => (.nothing, { session with holding := kinds })
  | .release number how =>
    let (released, session) := session.releaseCall number how
    (.truth released, session)
  | .gate permits => (.nothing, { session with gate := some (.ofPermits permits) })
  | .permits count => (.nothing, { session with gate := session.gate.map (·.add count) })

/-- Whether waiting tasks are resumed after a step. -/
def resumes : Step → Bool
  | .release _ _ => true
  | .permits _ => true
  | _ => false

/-- Hands the new events of the store to the channel, and takes what the first subscriber
gets. -/
def deliver (session : Session) : List (Delivery Event) × Session :=
  let published := session.store.published
  let channel := (published.drop session.delivered).foldl Channel.publish session.channel
  let (waiting, channel) := channel.drain firstSubscriber
  (waiting.getD [], { session with channel := channel, delivered := published.length })

/-- Takes a step and reports it. -/
def step (session : Session) (step : Step) : Report × Session :=
  let (answer, session) := session.act step
  let (ended, session) := if resumes step then session.resumeAll else ([], session)
  let (events, session) := session.deliver
  (⟨answer, ended, session.log, events⟩, { session with log := [] })

end Session

end MediaGrid
