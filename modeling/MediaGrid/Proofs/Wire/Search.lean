import MediaGrid.Proofs.Json.Kept
import MediaGrid.Proofs.Wire.Artifact
import MediaGrid.Wire.Search

/-!
# Wire forms read back

The rest of the forms that are exchanged with a backend: ranges of days, queries, orderings,
requests, pages of results and archive entries. Every one of them is written with its parts in a
fixed order, so what is read back follows part by part; the last section puts all forms together,
with the text in between.
-/

namespace MediaGrid

open Json

theorem shortMax_le_wordMax : shortMax ≤ wordMax := by decide

namespace DateRange

/-- The parts of a range of days. -/
def slots (range : DateRange) : Slots where
  rows := [("minValue", range.first.map Day.write), ("maxValue", range.last.map Day.write)]
  distinct := show ["minValue", "maxValue"].Nodup by decide

theorem write_eq (range : DateRange) : range.write = range.slots.toValue := by
  simp only [write, presentField_eq, presentFields_append, List.cons_append, List.nil_append]
  rfl

theorem standsFor_write (range : DateRange) : StandsFor read range.write range := by
  rw [write_eq]
  constructor
  · exact range.slots.exact_toValue (by simp [slots, Value.all, Value.isExact, Day.write])
  · have hparts : range.slots.toValue.source.parts? ["minValue", "maxValue"] =
        some range.slots.parts := range.slots.parts?_toValue
    have hfirst : range.slots.parts.optional "minValue" Day.read = some range.first :=
      Slots.optional_parts (by simp [slots]) (fun d _ => d.standsFor_write) rfl
    have hlast : range.slots.parts.optional "maxValue" Day.read = some range.last :=
      Slots.optional_parts (by simp [slots]) (fun d _ => d.standsFor_write) rfl
    simp [read, hparts, hfirst, hlast]

end DateRange

namespace Query

/-- The parts of a query. -/
def slots (query : Query) : Slots where
  rows := [("name", query.name.map .text), ("notes", query.notes.map .text),
    ("camera", query.camera.map .text), ("session", query.session.map .text),
    ("captureDate", query.captured.map DateRange.write)]
  distinct := show ["name", "notes", "camera", "session", "captureDate"].Nodup by decide

theorem write_eq (query : Query) : query.write = query.slots.toValue := by
  simp only [write, presentField_eq, presentFields_append, List.cons_append, List.nil_append]
  rfl

theorem standsFor_write (query : Query) : StandsFor read query.write query := by
  rw [write_eq]
  constructor
  · exact query.slots.exact_toValue
      (by simp [slots, Value.all, Value.isExact, (DateRange.standsFor_write _).exact])
  · have hparts : query.slots.toValue.source.parts? ["name", "notes", "camera", "session",
        "captureDate"] = some query.slots.parts := query.slots.parts?_toValue
    have hname : query.slots.parts.optional "name" Source.text? = some query.name :=
      Slots.optional_text_parts (by simp [slots])
    have hnotes : query.slots.parts.optional "notes" Source.text? = some query.notes :=
      Slots.optional_text_parts (by simp [slots])
    have hcamera : query.slots.parts.optional "camera" Source.text? = some query.camera :=
      Slots.optional_text_parts (by simp [slots])
    have hsession : query.slots.parts.optional "session" Source.text? = some query.session :=
      Slots.optional_text_parts (by simp [slots])
    have hcaptured : query.slots.parts.optional "captureDate" DateRange.read =
        some query.captured :=
      Slots.optional_parts (by simp [slots]) (fun range _ => range.standsFor_write) rfl
    simp [read, hparts, hname, hnotes, hcamera, hsession, hcaptured]

end Query

namespace SortKey

theorem standsFor_direction (direction : SortDirection) :
    StandsFor SortDirection.read direction.write direction :=
  standsFor_nameIn (by cases direction <;> decide) (by decide)

/-- The parts of a key of an ordering. -/
def slots (key : SortKey) : Slots where
  rows := [("field", some (.text key.field)), ("direction", some key.direction.write)]
  distinct := show ["field", "direction"].Nodup by decide

theorem standsFor_write (key : SortKey) : StandsFor read key.write key := by
  have hwritten := standsFor_direction key.direction
  constructor
  · exact key.slots.exact_toValue
      (by simp [slots, Value.all, Value.isExact, hwritten.exact])
  · have hparts : key.write.source.parts? ["field", "direction"] = some key.slots.parts :=
      key.slots.parts?_toValue
    have hfield : key.slots.parts.required "field" Source.text? = some key.field :=
      Slots.text_parts (by simp [slots])
    have hdirection : key.slots.parts.required "direction" SortDirection.read =
        some key.direction := Slots.required_parts (by simp [slots]) hwritten
    simp [read, hparts, hfield, hdirection]

end SortKey

namespace PageRequest

/-- The parts of a request. -/
def slots (request : PageRequest) : Slots where
  rows := [("predicates", some (Json.ofList Query.write request.predicates)),
    ("orderings", some (Json.ofList SortKey.write request.orderings)),
    ("resultsPerPage", some (ofNat request.resultsPerPage)), ("pageNum", some (ofNat request.page))]
  distinct := show ["predicates", "orderings", "resultsPerPage", "pageNum"].Nodup by decide

theorem standsFor_write {request : PageRequest} (hsize : request.resultsPerPage ≤ shortMax)
    (hpage : request.page ≤ shortMax) : StandsFor read request.write request := by
  have hqueries := standsFor_list request.predicates fun query _ => query.standsFor_write
  have hkeys := standsFor_list request.orderings fun key _ => key.standsFor_write
  have hsize := standsFor_natural shortMax_le_wordMax hsize
  have hpage := standsFor_natural shortMax_le_wordMax hpage
  constructor
  · exact request.slots.exact_toValue
      (by simp [slots, hqueries.exact, hkeys.exact, hsize.exact, hpage.exact])
  · have hparts : request.write.source.parts? ["predicates", "orderings", "resultsPerPage",
        "pageNum"] = some request.slots.parts := request.slots.parts?_toValue
    have hqueries : request.slots.parts.required "predicates" (Source.list? Query.read) =
        some request.predicates := Slots.required_parts (by simp [slots]) hqueries
    have hkeys : request.slots.parts.required "orderings" (Source.list? SortKey.read) =
        some request.orderings := Slots.required_parts (by simp [slots]) hkeys
    have hsize : request.slots.parts.required "resultsPerPage" (Source.natural? shortMax) =
        some request.resultsPerPage := Slots.required_parts (by simp [slots]) hsize
    have hpage : request.slots.parts.required "pageNum" (Source.natural? shortMax) =
        some request.page := Slots.required_parts (by simp [slots]) hpage
    simp [read, hparts, hqueries, hkeys, hsize, hpage]

end PageRequest

namespace Page

/-- The parts of a page of results. -/
def slots (page : Page) : Slots where
  rows := [("refs", some (Json.ofList Artifact.write page.refs)),
    ("pageNum", some (ofNat page.number)), ("isLastPage", some (.boolean page.isLast))]
  distinct := show ["refs", "pageNum", "isLastPage"].Nodup by decide

theorem standsFor_write {page : Page} (h : page.number ≤ shortMax) :
    StandsFor read page.write page := by
  have hrefs := standsFor_list page.refs fun ref _ => ref.standsFor_write
  have hnumber := standsFor_natural shortMax_le_wordMax h
  have hlast := standsFor_boolean page.isLast
  constructor
  · exact page.slots.exact_toValue
      (by simp [slots, hrefs.exact, hnumber.exact, hlast.exact])
  · have hparts : page.write.source.parts? ["refs", "pageNum", "isLastPage"] =
        some page.slots.parts := page.slots.parts?_toValue
    have hrefs : page.slots.parts.required "refs" (Source.list? Artifact.read) =
        some page.refs := Slots.required_parts (by simp [slots]) hrefs
    have hnumber : page.slots.parts.required "pageNum" (Source.natural? shortMax) =
        some page.number := Slots.required_parts (by simp [slots]) hnumber
    have hlast : page.slots.parts.required "isLastPage" Source.boolean? = some page.isLast :=
      Slots.required_parts (by simp [slots]) hlast
    simp [read, hparts, hrefs, hnumber, hlast]

end Page

namespace ArchiveEntry

/-- The parts of an entry of an archive. -/
def slots (item : ArchiveEntry) : Slots where
  rows := [("artifact", some item.artifact.write),
    ("metadata", some (ofOption Metadata.write item.metadata))]
  distinct := show ["artifact", "metadata"].Nodup by decide

/-- An entry is read back wherever the further values of its record stay above the deepest
nesting. -/
theorem standsFor_write {item : ArchiveEntry} {levels : Nat}
    (h : ∀ record ∈ item.metadata, record.extra.Plain levels) (hlevels : 0 < levels)
    (hdepth : 2 + levels ≤ maxDepth) : StandsFor read item.write item := by
  have hartifact := item.artifact.standsFor_write
  have hmetadata : StandsFor (Source.nullable? (Metadata.read 1))
      (ofOption Metadata.write item.metadata) item.metadata :=
    standsFor_ofOption (fun record hm => Metadata.standsFor_write (h record hm) hlevels hdepth) rfl
  constructor
  · exact item.slots.exact_toValue
      (by simp [slots, hartifact.exact, hmetadata.exact])
  · have hparts : item.write.source.parts? ["artifact", "metadata"] = some item.slots.parts :=
      item.slots.parts?_toValue
    have hartifact : item.slots.parts.required "artifact" Artifact.read = some item.artifact :=
      Slots.required_parts (by simp [slots]) hartifact
    have hmetadata : item.slots.parts.nullable "metadata" (Metadata.read 1) =
        some item.metadata := Slots.nullable_parts (by simp [slots]) hmetadata
    simp [read, hparts, hartifact, hmetadata]

end ArchiveEntry

/-! ## All forms -/

/-- Whatever is written as JSON text is read back from it: artifacts, queries, ranges of days,
orderings, addresses of videos, states of requests and ids without exception, requests and pages as
long as their numbers have 32 bits, and records and archive entries as long as their further values
hold no floating-point number and nest fewer than 120 levels. That further values can be kept is no
condition on a record that was read. -/
theorem wire_forms_round_trip :
    (∀ ref, RoundTrips Artifact.read Artifact.write ref) ∧
      (∀ query, RoundTrips Query.read Query.write query) ∧
      (∀ range, RoundTrips DateRange.read DateRange.write range) ∧
      (∀ request : PageRequest, request.resultsPerPage ≤ shortMax → request.page ≤ shortMax →
        RoundTrips PageRequest.read PageRequest.write request) ∧
      (∀ page : Page, page.number ≤ shortMax → RoundTrips Page.read Page.write page) ∧
      (∀ key, RoundTrips SortKey.read SortKey.write key) ∧
      (∀ links, RoundTrips VideoLinks.read VideoLinks.write links) ∧
      (∀ status, RoundTrips RequestStatus.read RequestStatus.write status) ∧
      (∀ id, RoundTrips ItemId.read ItemId.write id) ∧
      (∀ record : Metadata, record.extra.Plain 120 →
        RoundTrips (Metadata.read 0) Metadata.write record) ∧
      (∀ item : ArchiveEntry, (∀ record ∈ item.metadata, record.extra.Plain 120) →
        RoundTrips ArchiveEntry.read ArchiveEntry.write item) ∧
      ∀ text record, (parse text >>= Metadata.read 0) = some record → record.extra.Kept := by
  refine ⟨fun ref => ref.standsFor_write.roundTrips, fun query => query.standsFor_write.roundTrips,
    fun range => range.standsFor_write.roundTrips,
    fun _ hsize hpage => (PageRequest.standsFor_write hsize hpage).roundTrips,
    fun _ hnumber => (Page.standsFor_write hnumber).roundTrips,
    fun key => key.standsFor_write.roundTrips, fun links => links.standsFor_write.roundTrips,
    fun status => status.standsFor_write.roundTrips, fun id => id.standsFor_write.roundTrips,
    fun _ hextra => (Metadata.standsFor_write hextra (by decide) (by decide)).roundTrips,
    fun _ hextra => (ArchiveEntry.standsFor_write hextra (by decide) (by decide)).roundTrips,
    fun text record h => ?_⟩
  obtain ⟨source, hparsed, hread⟩ := Option.bind_eq_some_iff.mp h
  exact Metadata.kept_of_read (isKept_of_parse hparsed) hread

/-- The largest numbers, the first of all days, texts that have to be escaped, and an object inside
as many lists as are allowed. -/
theorem wire_forms_round_trip_nested :
    let leaf : Value :=
      .object [("", .number (.integer (-9223372036854775808))), ("\"reef\"\n", .null)]
    let deep : Value := (List.replicate 118 Value.array).foldr (fun wrap value => wrap [value]) leaf
    let largest : Value := .number (.integer 18446744073709551615)
    let day : Day := ⟨-262143, 1, 1, by decide⟩
    let request : PageRequest :=
      ⟨[⟨some "reef", none, some "", none, some ⟨none, some day⟩⟩], [⟨"name", .descending⟩],
        shortMax, shortMax⟩
    let page : Page := ⟨[⟨"shots", "r\u00ed\u0001f.jpg", .image⟩], shortMax, false⟩
    let record : Metadata := { Metadata.empty with
      notes := some "tab\tand \\", captureDate := some day,
      extra := .ofList [("largest", largest), ("deep", deep)] }
    let item : ArchiveEntry := ⟨⟨"shots", "reef.mp4", .video⟩, some record⟩
    let text := "\x7b\"extra\":\x7b\"b\":[18446744073709551616],\"a\":-1,\"b\":2\x7d\x7d"
    let other : Metadata := { Metadata.empty with
      extra := .ofList [("a", .number (.integer (-1))), ("b", .number (.integer 2))] }
    deep.nesting = 119 ∧ record.extra.Plain 120 ∧
      RoundTrips PageRequest.read PageRequest.write request ∧
      RoundTrips Page.read Page.write page ∧
      RoundTrips (Metadata.read 0) Metadata.write record ∧
      RoundTrips ArchiveEntry.read ArchiveEntry.write item ∧
      (parse text >>= Metadata.read 0) = some other ∧ other.extra.Kept := by
  intro leaf deep largest day request page record item text other
  have hplain : record.extra.Plain 120 := by decide +kernel
  have hread : (parse text >>= Metadata.read 0) = some other := by decide +kernel
  obtain ⟨-, -, -, hrequests, hpages, -, -, -, -, hrecords, hitems, hkept⟩ := wire_forms_round_trip
  have hitem : ∀ inner ∈ item.metadata, inner.extra.Plain 120 := by
    rintro inner hm
    cases hm
    exact hplain
  exact ⟨by decide +kernel, hplain, hrequests request (by decide) (by decide),
    hpages page (by decide), hrecords record hplain, hitems item hitem, hread,
    hkept text other hread⟩

end MediaGrid
