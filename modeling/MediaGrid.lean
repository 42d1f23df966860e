import MediaGrid.Artifact.Basic
import MediaGrid.Artifact.Facet
import MediaGrid.Artifact.Metadata
import MediaGrid.Broadcast
import MediaGrid.Calendar.Day
import MediaGrid.Calendar.IsoText
import MediaGrid.Calendar.Timestamp
import MediaGrid.Collection
import MediaGrid.Config
import MediaGrid.Content.Shelf
import MediaGrid.Content.Uuid
import MediaGrid.Decimal.Notation
import MediaGrid.Decimal.Shortest
import MediaGrid.Event
import MediaGrid.Exchange
import MediaGrid.Failure
import MediaGrid.Grid.Basic
import MediaGrid.Grid.Bytes
import MediaGrid.Grid.Choice
import MediaGrid.Grid.Entry
import MediaGrid.Grid.Paging
import MediaGrid.Grid.Records
import MediaGrid.Json.Form
import MediaGrid.Json.Source
import MediaGrid.Json.Value
import MediaGrid.Json.Writer
import MediaGrid.Proofs.Content.Shelf
import MediaGrid.Proofs.Grid.Asked
import MediaGrid.Proofs.Grid.Claims
import MediaGrid.Proofs.Grid.Consistency
import MediaGrid.Proofs.Grid.Debts
import MediaGrid.Proofs.Grid.Epochs
import MediaGrid.Proofs.Grid.Frame
import MediaGrid.Proofs.Grid.Holdings
import MediaGrid.Proofs.Grid.Membership
import MediaGrid.Proofs.Grid.News
import MediaGrid.Proofs.Grid.Run
import MediaGrid.Proofs.Grid.Slots
import MediaGrid.Proofs.Session.Turns
import MediaGrid.Proofs.Store.Conservation
import MediaGrid.Proofs.Store.Debts
import MediaGrid.Proofs.Store.Fetches
import MediaGrid.Proofs.Store.RecordLoads
import MediaGrid.Proofs.Store.Requests
import MediaGrid.Proofs.Store.Service
import MediaGrid.Proofs.Store.Stock
import MediaGrid.Proofs.Store.Superseded
import MediaGrid.Proofs.Store.Telling
import MediaGrid.Proofs.Store.Turns
import MediaGrid.Proofs.Store.Waiting
import MediaGrid.Search.Completion
import MediaGrid.Search.Directive
import MediaGrid.Search.Menu
import MediaGrid.Search.Plan
import MediaGrid.Search.Predicate
import MediaGrid.Search.Query
import MediaGrid.Search.Snippet
import MediaGrid.Search.Token
import MediaGrid.Session.Basic
import MediaGrid.Session.Task
import MediaGrid.Store.Basic
import MediaGrid.Store.Operation
import MediaGrid.Table
import MediaGrid.Text.Blank
import MediaGrid.Text.Case
import MediaGrid.Text.CaseData
import MediaGrid.Text.Digit
import MediaGrid.Text.Occurrence
import MediaGrid.Text.Percent
import MediaGrid.Window.Basic
import MediaGrid.Window.Layout
import MediaGrid.Window.Viewport
import MediaGrid.Wire.Artifact
import MediaGrid.Wire.Config
import MediaGrid.Wire.Event
import MediaGrid.Wire.Search
import MediaGrid.Proofs.Window.Part
import MediaGrid.Proofs.Window.Scrolling
import MediaGrid.Proofs.Window.Crossings
import MediaGrid.Proofs.Store.Gallery
import MediaGrid.Proofs.Text.Case
import MediaGrid.Proofs.Text.Percent
import MediaGrid.Proofs.Artifact.Ids
import MediaGrid.Proofs.Search.Meaning
import MediaGrid.Proofs.Search.Offers
import MediaGrid.Proofs.Search.Grammar
import MediaGrid.Proofs.Store.Listing
import MediaGrid.Proofs.Session.Paging
import MediaGrid.Proofs.Store.Paging
import MediaGrid.Proofs.Store.PageMoves
import MediaGrid.Proofs.Store.PageOrder
import MediaGrid.Proofs.Store.PageRequests
import MediaGrid.Proofs.Store.Exclusion
import MediaGrid.Proofs.Store.PageProgress
import MediaGrid.Proofs.Artifact.Amend
import MediaGrid.Proofs.Grid.UpToDate
import MediaGrid.Proofs.Store.UpToDate
import MediaGrid.Proofs.Store.Alone
import MediaGrid.Proofs.Store.Agreement
import MediaGrid.Proofs.Session.Alone
import MediaGrid.Proofs.Search.Snippet
import MediaGrid.Proofs.Text.Blank
import MediaGrid.Proofs.Store.Cache
import MediaGrid.Proofs.Store.Suggestions
import MediaGrid.Proofs.Store.Origins
import MediaGrid.Proofs.Grid.Lending
import MediaGrid.Proofs.Grid.Selection
import MediaGrid.Proofs.Store.Ending
import MediaGrid.Proofs.Store.Refusal
import MediaGrid.Proofs.Search.Enumeration
import MediaGrid.Proofs.Store.LoadCourse
import MediaGrid.Proofs.Session.Described
import MediaGrid.Proofs.Grid.Removal
import MediaGrid.Proofs.Store.OnSelection
import MediaGrid.Proofs.Search.Excerpt
import MediaGrid.Proofs.Search.Splice
import MediaGrid.Proofs.Search.Completion
import MediaGrid.Proofs.Search.Mined
import MediaGrid.Proofs.Store.SearchState
import MediaGrid.Proofs.Store.SearchCoherence
import MediaGrid.Proofs.Text.Digit
import MediaGrid.Proofs.Calendar.IsoText
import MediaGrid.Proofs.Calendar.Timestamp
import MediaGrid.Proofs.Search.Directive
import MediaGrid.Proofs.Content.Address
import MediaGrid.Proofs.Content.Depot
import MediaGrid.Proofs.Store.Picking
import MediaGrid.Proofs.Grid.Repetition
import MediaGrid.Proofs.Store.Announcing
import MediaGrid.Proofs.Json.Fields
import MediaGrid.Proofs.Json.Scalar
import MediaGrid.Proofs.Json.Tree
import MediaGrid.Proofs.Json.Form
import MediaGrid.Proofs.Json.Kept
import MediaGrid.Proofs.Wire.Artifact
import MediaGrid.Proofs.Wire.Search
import MediaGrid.Proofs.Grid.Amending
import MediaGrid.Proofs.Decimal.Shortest
