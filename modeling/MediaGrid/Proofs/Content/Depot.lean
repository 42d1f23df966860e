import Mathlib.Data.List.Nodup
import Mathlib.Logic.Function.Basic
import MediaGrid.Proofs.Content.Address
import MediaGrid.Proofs.Content.Shelf

/-!
# Several shelves and their books

Contents are put on any of several shelves, and their handles are handed back, each at most once,
but maybe to a shelf that they do not belong to. Whatever the order, every shelf keeps exactly what
was put there and not handed back there, has counted each content that came and each that went, and
finds a content at the address of its handle for as long as it keeps it. A handle of another shelf
is lost on the shelf it is handed to, and changes nothing anywhere. That identifiers do not come
twice is assumed; how they are generated is no part of it.
-/

namespace MediaGrid

namespace Shelf

variable {shelf : Shelf}

/-- Every content that came is still there or went. -/
def IsBalanced (shelf : Shelf) : Prop := shelf.created = shelf.released + shelf.size

/-- A content that is put under a new identifier is found, and every other one is kept. -/
theorem find?_put (shelf : Shelf) (id : Uuid) (facet : Facet) (data : String) (key : Uuid) :
    (shelf.put id facet data).2.find? key =
      if key = id then some ⟨facet, data⟩ else shelf.find? key :=
  Table.find?_insert shelf.contents id key ⟨facet, data⟩

theorem IsBalanced.put (h : shelf.IsBalanced) {id : Uuid} (hid : ¬shelf.keeps id) (facet : Facet)
    (data : String) : (shelf.put id facet data).2.IsBalanced := by
  have hsize : (shelf.put id facet data).2.size = shelf.size + 1 := by
    rw [size, Shelf.put, Table.rows_insert hid, List.length_append, size]
    rfl
  have hcounted : shelf.created + 1 = shelf.released + (shelf.size + 1) := congrArg (· + 1) h
  rw [IsBalanced, hsize]
  exact hcounted

theorem IsBalanced.takeBack (h : shelf.IsBalanced) (handle : Handle) :
    (shelf.takeBack handle).IsBalanced := by
  unfold Shelf.takeBack
  split
  · rename_i hkeeps
    rw [keeps, Table.contains_eq_isSome, Option.isSome_iff_exists] at hkeeps
    obtain ⟨content, hcontent⟩ := hkeeps
    have hsize := (Table.rows_perm_erase hcontent).length_eq
    rw [List.length_cons] at hsize
    have hcounted : shelf.created = shelf.released + shelf.contents.rows.length := h
    rw [hsize] at hcounted
    rw [IsBalanced, size]
    dsimp only
    omega
  · exact h

/-- Each content belongs to one of the three facets. -/
theorem size_eq_sum (shelf : Shelf) :
    shelf.size = shelf.countOf .thumbnail + shelf.countOf .image + shelf.countOf .metadata := by
  unfold size countOf
  induction shelf.contents.rows with
  | nil => rfl
  | cons row rest ih =>
    obtain ⟨key, facet, data⟩ := row
    cases facet <;> simp <;> omega

end Shelf

/-- A content that was put on one of several shelves. -/
structure Deposit (ι : Type) where
  /-- The shelf. -/
  place : ι
  /-- The handle that owns the content. -/
  handle : Handle
  /-- What was put there. -/
  content : Content

/-- What happens to several shelves. -/
inductive DepotMove (ι : Type) where
  /-- A content is put on a shelf, under the identifier that was generated for it. -/
  | put (place : ι) (id : Uuid) (facet : Facet) (data : String)
  /-- A handle is handed back to a shelf. -/
  | takeBack (place : ι) (handle : Handle)
  /-- Handles are handed back to a shelf, one after the other. -/
  | takeBackAll (place : ι) (handles : List Handle)

/-- Several shelves, with a record of what was put there and handed back. -/
structure Depot (ι : Type) where
  /-- The shelves. -/
  shelves : ι → Shelf
  /-- What was put on them, oldest first. -/
  deposits : List (Deposit ι)
  /-- The handles that were handed back, each with the shelf that it was handed to. -/
  returned : List (ι × Handle)

namespace Depot

variable {ι : Type}

/-- Shelves that never held anything. -/
def empty : Depot ι := ⟨fun _ => .empty, [], []⟩

/-- A handle that someone has: it was made and not handed back. -/
def IsOut (depot : Depot ι) (handle : Handle) : Prop :=
  (∃ deposit ∈ depot.deposits, deposit.handle = handle) ∧
    ∀ place, (place, handle) ∉ depot.returned

/-- Identifiers come once, and a handle is handed back by someone who has it. -/
def Allows (depot : Depot ι) : DepotMove ι → Prop
  | .put _ id _ _ => ∀ deposit ∈ depot.deposits, deposit.handle ≠ ⟨id⟩
  | .takeBack _ handle => depot.IsOut handle
  | .takeBackAll _ handles => handles.Nodup ∧ ∀ handle ∈ handles, depot.IsOut handle

variable [DecidableEq ι]

/-- The shelves after a move. -/
def step (depot : Depot ι) : DepotMove ι → Depot ι
  | .put place id facet data =>
    let (handle, shelf) := (depot.shelves place).put id facet data
    { depot with
      shelves := Function.update depot.shelves place shelf
      deposits := depot.deposits ++ [⟨place, handle, ⟨facet, data⟩⟩] }
  | .takeBack place handle =>
    { depot with
      shelves := Function.update depot.shelves place ((depot.shelves place).takeBack handle)
      returned := depot.returned ++ [(place, handle)] }
  | .takeBackAll place handles =>
    { depot with
      shelves := Function.update depot.shelves place ((depot.shelves place).takeBackAll handles)
      returned := depot.returned ++ handles.map fun handle => (place, handle) }

/-- The shelves after moves that came one after the other. -/
def run (depot : Depot ι) (moves : List (DepotMove ι)) : Depot ι := moves.foldl step depot

/-- Every move of a run is allowed where it comes. -/
def AllowsAll (depot : Depot ι) : List (DepotMove ι) → Prop
  | [] => True
  | move :: rest => depot.Allows move ∧ (depot.step move).AllowsAll rest

/-- Every shelf keeps what was put there and not handed back there, and its counts add up. -/
structure Accounted (depot : Depot ι) : Prop where
  /-- What came to a shelf was counted. -/
  created : ∀ place, (depot.shelves place).created =
    depot.deposits.countP fun deposit => deposit.place = place
  /-- What came is there or went. -/
  balance : ∀ place, (depot.shelves place).IsBalanced
  /-- What is kept. -/
  kept : ∀ place key content, (depot.shelves place).find? key = some content ↔
    ∃ deposit ∈ depot.deposits, deposit.handle.id = key ∧ deposit.place = place ∧
      (place, deposit.handle) ∉ depot.returned ∧ deposit.content = content
  /-- Handles that were handed back had been made. -/
  made : ∀ back ∈ depot.returned, ∃ deposit ∈ depot.deposits, deposit.handle = back.2
  /-- No handle was made twice. -/
  distinct : (depot.deposits.map Deposit.handle).Nodup

theorem accounted_empty : (empty : Depot ι).Accounted where
  created _ := rfl
  balance _ := rfl
  kept _ _ _ := by
    constructor
    · intro h
      cases h
    · rintro ⟨deposit, hm, -⟩
      cases hm
  made _ hm := by cases hm
  distinct := .nil

variable {depot : Depot ι}

/-- A content that is put under a new identifier is on its shelf and on no other. -/
theorem Accounted.put (h : depot.Accounted) {place : ι} {id : Uuid} {facet : Facet}
    {data : String} (hallows : depot.Allows (.put place id facet data)) :
    (depot.step (.put place id facet data)).Accounted := by
  have hnew : ∀ shelf, (depot.shelves shelf).find? id = none := by
    intro shelf
    refine Option.eq_none_iff_forall_ne_some.mpr fun content hcontent => ?_
    obtain ⟨deposit, hm, hid, -⟩ := (h.kept shelf id content).mp hcontent
    exact hallows deposit hm (congrArg Handle.mk hid)
  have hfresh : ¬(depot.shelves place).keeps id := by
    rw [Shelf.keeps, Table.contains_eq_isSome]
    have hnone : (depot.shelves place).contents.find? id = none := hnew place
    simp [hnone]
  have hout : ∀ shelf, (shelf, (⟨id⟩ : Handle)) ∉ depot.returned := by
    intro shelf hm
    obtain ⟨deposit, hdeposit, hhandle⟩ := h.made _ hm
    exact hallows deposit hdeposit hhandle
  have hfind : ∀ other key, ((depot.step (.put place id facet data)).shelves other).find? key =
      if other = place ∧ key = id then some ⟨facet, data⟩ else (depot.shelves other).find? key := by
    intro other key
    by_cases hplace : other = place
    · subst hplace
      simp [step, Shelf.find?_put]
    · simp [step, hplace]
  refine ⟨fun other => ?_, fun other => ?_, fun other key content => ?_, fun back hm => ?_, ?_⟩
  · rw [step, List.countP_append, ← h.created]
    by_cases hplace : other = place
    · subst hplace
      simp [Shelf.put]
    · simp [hplace, Ne.symm hplace]
  · by_cases hplace : other = place
    · subst hplace
      simpa [step] using (h.balance other).put hfresh facet data
    · simpa [step, hplace] using h.balance other
  · rw [hfind]
    simp only [step, List.mem_append, List.mem_singleton, or_and_right, exists_or, exists_eq_left,
      ← h.kept]
    by_cases hit : other = place ∧ key = id
    · obtain ⟨rfl, rfl⟩ := hit
      simp [hnew, hout, Shelf.put]
    · have hmiss : ¬(id = key ∧ place = other) := fun he => hit ⟨he.2.symm, he.1.symm⟩
      simp only [if_neg hit, Shelf.put, ← and_assoc, hmiss, false_and, or_false]
  · obtain ⟨deposit, hdeposit, hhandle⟩ := h.made back hm
    exact ⟨deposit, List.mem_append_left _ hdeposit, hhandle⟩
  · rw [step, List.map_append, List.map_singleton, List.nodup_append]
    refine ⟨h.distinct, List.nodup_singleton _, fun handle hm last hlast => ?_⟩
    obtain ⟨deposit, hdeposit, rfl⟩ := List.mem_map.mp hm
    rw [List.mem_singleton.mp hlast]
    exact hallows deposit hdeposit

/-- A handle that is handed back drops its content where it belongs, and nothing elsewhere. -/
theorem Accounted.takeBack (h : depot.Accounted) {place : ι} {handle : Handle}
    (hallows : depot.Allows (.takeBack place handle)) :
    (depot.step (.takeBack place handle)).Accounted := by
  have hfind : ∀ other key, ((depot.step (.takeBack place handle)).shelves other).find? key =
      if other = place ∧ key = handle.id then none else (depot.shelves other).find? key := by
    intro other key
    by_cases hplace : other = place
    · subst hplace
      simp [step, Shelf.find?_takeBack]
    · simp [step, hplace]
  refine ⟨fun other => ?_, fun other => ?_, fun other key content => ?_, fun back hm => ?_,
    h.distinct⟩
  · rw [step, ← h.created]
    by_cases hplace : other = place
    · subst hplace
      have hcount : ((depot.shelves other).takeBack handle).created =
          (depot.shelves other).created :=
        Shelf.created_takeBackAll (depot.shelves other) [handle]
      simpa using hcount
    · simp [hplace]
  · by_cases hplace : other = place
    · subst hplace
      simpa [step] using (h.balance other).takeBack handle
    · simpa [step, hplace] using h.balance other
  · rw [hfind]
    by_cases hit : other = place ∧ key = handle.id
    · obtain ⟨rfl, rfl⟩ := hit
      simp only [if_pos, and_self, reduceCtorEq, false_iff]
      rintro ⟨deposit, hm, hid, hplace, hout, -⟩
      have hhandle : deposit.handle = handle := congrArg Handle.mk hid
      exact hout (List.mem_append_right _ (by simp [hhandle]))
    · rw [if_neg hit, h.kept]
      refine exists_congr fun deposit => and_congr_right fun _ => and_congr_right fun hid =>
        and_congr_right fun _ => and_congr_left fun _ => ?_
      have hother : (other, deposit.handle) ≠ (place, handle) := by
        rintro heq
        obtain ⟨rfl, rfl⟩ := Prod.mk.inj heq
        exact hit ⟨rfl, hid.symm⟩
      simp [step, hother]
  · rcases List.mem_append.mp hm with hold | hlast
    · exact h.made back hold
    · rw [List.mem_singleton.mp hlast]
      exact hallows.1

/-- Handing back several handles is handing back one after the other. -/
theorem step_takeBackAll_cons (place : ι) (handle : Handle) (rest : List Handle) :
    depot.step (.takeBackAll place (handle :: rest)) =
      (depot.step (.takeBack place handle)).step (.takeBackAll place rest) := by
  simp [step, Shelf.takeBackAll]

/-- A handle that is out stays out when another one is handed back. -/
theorem IsOut.takeBack {handle other : Handle} (h : depot.IsOut handle) (hne : handle ≠ other)
    (place : ι) : (depot.step (.takeBack place other)).IsOut handle := by
  refine ⟨h.1, fun elsewhere hm => ?_⟩
  rcases List.mem_append.mp hm with hold | hlast
  · exact h.2 elsewhere hold
  · exact hne (congrArg Prod.snd (List.mem_singleton.mp hlast))

theorem Accounted.takeBackAll (h : depot.Accounted) {place : ι} {handles : List Handle}
    (hallows : depot.Allows (.takeBackAll place handles)) :
    (depot.step (.takeBackAll place handles)).Accounted := by
  induction handles generalizing depot with
  | nil =>
    have hnone : depot.step (.takeBackAll place []) = depot := by
      simp [step, Shelf.takeBackAll]
    rwa [hnone]
  | cons handle rest ih =>
    obtain ⟨hnodup, hout⟩ := hallows
    obtain ⟨hhead, hrest⟩ := List.nodup_cons.mp hnodup
    rw [step_takeBackAll_cons]
    refine ih (h.takeBack (hout handle List.mem_cons_self)) ⟨hrest, fun other hm => ?_⟩
    have hne : other ≠ handle := fun he => hhead (he ▸ hm)
    exact (hout other (List.mem_cons_of_mem _ hm)).takeBack hne place

/-- Every move that is allowed keeps the books right. -/
theorem Accounted.step (h : depot.Accounted) {move : DepotMove ι} (hallows : depot.Allows move) :
    (depot.step move).Accounted := by
  cases move with
  | put place id facet data => exact h.put hallows
  | takeBack place handle => exact h.takeBack hallows
  | takeBackAll place handles => exact h.takeBackAll hallows

theorem Accounted.run (h : depot.Accounted) {moves : List (DepotMove ι)}
    (hallows : depot.AllowsAll moves) : (depot.run moves).Accounted := by
  induction moves generalizing depot with
  | nil => exact h
  | cons move rest ih => exact ih (h.step hallows.1) hallows.2

/-- What is found at the address of a handle on a shelf. -/
theorem Accounted.contentAt?_url (h : depot.Accounted) {deposit : Deposit ι}
    (hm : deposit ∈ depot.deposits) (place : ι) :
    (depot.shelves place).contentAt? deposit.handle.url =
      if deposit.place = place ∧ (place, deposit.handle) ∉ depot.returned then
        some deposit.content.data
      else none := by
  rw [Shelf.contentAt?_url]
  split
  · rename_i hkept
    have hfind := (h.kept place deposit.handle.id deposit.content).mpr
      ⟨deposit, hm, rfl, hkept.1, hkept.2, rfl⟩
    rw [hfind, Option.map_some]
  · rename_i hgone
    rw [Option.map_eq_none_iff, Option.eq_none_iff_forall_ne_some]
    intro content hcontent
    obtain ⟨other, hother, hid, hplace, hout, -⟩ := (h.kept place _ content).mp hcontent
    -- No handle was made twice, so it is the same content.
    have hsame : other = deposit :=
      List.inj_on_of_nodup_map h.distinct hother hm (congrArg Handle.mk hid)
    rw [hsame] at hplace hout
    exact hgone ⟨hplace, hout⟩

/-- A handle that is handed to a shelf it does not belong to changes no shelf. -/
theorem Accounted.shelves_takeBack (h : depot.Accounted) {deposit : Deposit ι}
    (hm : deposit ∈ depot.deposits) {place : ι} (hplace : deposit.place ≠ place) :
    (depot.step (.takeBack place deposit.handle)).shelves = depot.shelves := by
  have hnone : ¬(depot.shelves place).keeps deposit.handle.id := by
    rw [Shelf.keeps, Table.contains_eq_isSome, Option.isSome_iff_exists]
    rintro ⟨content, hcontent⟩
    obtain ⟨other, hother, hid, hkept, -⟩ := (h.kept place _ content).mp hcontent
    have hsame : other = deposit :=
      List.inj_on_of_nodup_map h.distinct hother hm (congrArg Handle.mk hid)
    exact hplace (hsame ▸ hkept)
  rw [Depot.step, Shelf.takeBack, if_neg hnone, Function.update_eq_self]

/-- The books of any number of shelves add up. In every run in which identifiers come once and a
handle is handed back at most once, to whatever shelf, each shelf has counted what was put there,
and that is what went and what is still there, and what is there belongs to one of the three facets.
At the address of a handle a shelf finds what the handle was made for, if it was made there and not
handed back there, and nothing if not. And a handle that is handed to another shelf than its own
changes nothing on any shelf. -/
theorem depot_accounts (moves : List (DepotMove ι))
    (hallows : (empty : Depot ι).AllowsAll moves) :
    let depot := (empty : Depot ι).run moves
    (∀ place, let shelf := depot.shelves place
      (shelf.created = depot.deposits.countP fun deposit => deposit.place = place) ∧
      shelf.created = shelf.released + shelf.size ∧
      shelf.size =
        shelf.countOf .thumbnail + shelf.countOf .image + shelf.countOf .metadata ∧
      ∀ deposit ∈ depot.deposits, shelf.contentAt? deposit.handle.url =
        if deposit.place = place ∧ (place, deposit.handle) ∉ depot.returned then
          some deposit.content.data
        else none) ∧
    ∀ deposit ∈ depot.deposits, ∀ place, deposit.place ≠ place →
      (depot.step (.takeBack place deposit.handle)).shelves = depot.shelves := by
  intro depot
  have haccounted : depot.Accounted := accounted_empty.run hallows
  refine ⟨fun place => ⟨haccounted.created place, haccounted.balance place,
    (depot.shelves place).size_eq_sum, fun deposit hm => haccounted.contentAt?_url hm place⟩,
    fun deposit hm place hplace => haccounted.shelves_takeBack hm hplace⟩

/-- The handle of one shelf is handed to the other, which lets its own content go. The content of
the first shelf stays there for good. -/
theorem depot_accounts_misdelivered :
    let pier : Handle := ⟨⟨1⟩⟩
    let reef : Handle := ⟨⟨2⟩⟩
    let moves : List (DepotMove Bool) := [.put true pier.id .image "pier",
      .put false reef.id .thumbnail "reef", .takeBack false pier, .takeBackAll false [reef]]
    let depot := (empty : Depot Bool).run moves
    (empty : Depot Bool).AllowsAll moves ∧
      (depot.shelves true).contentAt? pier.url = some "pier" ∧
      (depot.shelves false).contentAt? pier.url = none ∧
      (depot.shelves false).contentAt? reef.url = none ∧
      (depot.shelves true).released + (depot.shelves true).size = 1 := by
  intro pier reef moves depot
  have hallows : (empty : Depot Bool).AllowsAll moves := by
    simp [moves, AllowsAll, Allows, IsOut, step, empty, Shelf.put, pier, reef]
  have hpier : ⟨true, pier, ⟨.image, "pier"⟩⟩ ∈ depot.deposits := List.mem_cons_self
  have hreef : ⟨false, reef, ⟨.thumbnail, "reef"⟩⟩ ∈ depot.deposits :=
    List.mem_cons_of_mem _ List.mem_cons_self
  have hreturned : ((empty : Depot Bool).run moves).returned = [(false, pier), (false, reef)] := rfl
  obtain ⟨hshelves, -⟩ := depot_accounts moves hallows
  obtain ⟨hcreated, hbalance, -, hkept⟩ := hshelves true
  have hlost := (hshelves false).2.2.2
  refine ⟨hallows, (hkept _ hpier).trans (if_pos ⟨rfl, ?_⟩), (hlost _ hpier).trans (if_neg ?_),
    (hlost _ hreef).trans (if_neg ?_), hbalance.symm.trans hcreated⟩
  all_goals simp [hreturned]

end Depot

end MediaGrid
