import MediaGrid.Search.Snippet

/-!
# Where a snippet begins and ends

A snippet is a window of its text. The window covers the first place where the fragment occurs, and
it is as wide as asked for, unless the text is shorter or the fragment longer. The numbers that
bound it never leave the range from zero to the length of the text, so that unsigned machine words
compute them without a carry or a borrow. Which texts have a snippet at all in the eyes of a query
is no part of it.
-/

namespace MediaGrid

/-! ## Where a fragment occurs -/

/-- Every character of the fragment stands at its place from an index on, apart from letter case. -/
def OccursAt (fragment chars : List Char) (start : Nat) : Prop :=
  ∀ index wanted, fragment[index]? = some wanted →
    ∃ own, chars[start + index]? = some own ∧ sameLetter own wanted = true

/-- In front of further characters the same places are counted one higher. -/
theorem occursAt_succ {fragment chars : List Char} {c : Char} {start : Nat} :
    OccursAt fragment (c :: chars) (start + 1) ↔ OccursAt fragment chars start := by
  have hplace : ∀ index, (c :: chars)[start + 1 + index]? = chars[start + index]? := by
    intro index
    rw [Nat.add_right_comm, List.getElem?_cons_succ]
  simp only [OccursAt, hplace]

/-- What a text begins with occurs at its front. -/
theorem beginsLike_iff_occursAt {fragment chars : List Char} :
    beginsLike fragment chars = true ↔ OccursAt fragment chars 0 := by
  induction fragment generalizing chars with
  | nil => simp [beginsLike, OccursAt]
  | cons wanted fragment ih =>
    cases chars with
    | nil =>
      have hnot : ¬OccursAt (wanted :: fragment) [] 0 := fun h => by
        obtain ⟨own, hown, -⟩ := h 0 wanted rfl
        cases hown
      simp [beginsLike, hnot]
    | cons own chars =>
      rw [beginsLike, Bool.and_eq_true, ih]
      constructor
      · rintro ⟨hsame, hrest⟩ index other hother
        cases index with
        | zero =>
          cases hother
          exact ⟨own, rfl, hsame⟩
        | succ index =>
          obtain ⟨letter, hletter, hlike⟩ := hrest index other hother
          rw [Nat.zero_add] at hletter
          exact ⟨letter, by simpa using hletter, hlike⟩
      · intro h
        have hfirst := h 0 wanted rfl
        refine ⟨by simpa using hfirst, fun index other hother => ?_⟩
        obtain ⟨letter, hletter, hlike⟩ := h (index + 1) other hother
        exact ⟨letter, by simpa using hletter, hlike⟩

/-- What the rest of a text begins with occurs where the rest begins. -/
theorem beginsLike_drop_iff {fragment chars : List Char} {start : Nat} :
    beginsLike fragment (chars.drop start) = true ↔ OccursAt fragment chars start := by
  rw [beginsLike_iff_occursAt]
  simp only [OccursAt, Nat.zero_add, List.getElem?_drop]

/-- A fragment ends where the text does or before. -/
theorem OccursAt.stop_le {fragment chars : List Char} {start : Nat}
    (h : OccursAt fragment chars start) (hsome : fragment ≠ []) :
    start + fragment.length ≤ chars.length := by
  have hpositive : 0 < fragment.length := List.length_pos_iff.mpr hsome
  have hlast : fragment.length - 1 < fragment.length := by omega
  obtain ⟨own, hown, -⟩ := h _ _ (List.getElem?_eq_getElem hlast)
  have hlt := (List.getElem?_eq_some_iff.mp hown).1
  omega

/-- A part of a text that covers an occurrence has it too, nearer to its front. -/
theorem OccursAt.part {fragment chars : List Char} {start first last : Nat}
    (h : OccursAt fragment chars start) (hfirst : first ≤ start)
    (hlast : start + fragment.length ≤ last) :
    OccursAt fragment ((chars.take last).drop first) (start - first) := by
  intro index wanted hwanted
  have hindex := (List.getElem?_eq_some_iff.mp hwanted).1
  have hplace : first + (start - first + index) = start + index := by omega
  have hinside : start + index < last := by omega
  obtain ⟨own, hown, hsame⟩ := h index wanted hwanted
  refine ⟨own, ?_, hsame⟩
  rw [List.getElem?_drop, hplace, List.getElem?_take_of_lt hinside, hown]

/-- The index that is found is the first at which the fragment occurs. -/
theorem findLike?_eq_some_iff {fragment chars : List Char} {start : Nat} :
    findLike? fragment chars = some start ↔ fragment ≠ [] ∧ OccursAt fragment chars start ∧
      ∀ earlier < start, ¬OccursAt fragment chars earlier := by
  induction chars generalizing start with
  | nil =>
    constructor
    · intro h
      cases h
    · rintro ⟨hsome, hoccurs, -⟩
      have hpositive : 0 < fragment.length := List.length_pos_iff.mpr hsome
      have hstop := hoccurs.stop_le hsome
      rw [List.length_nil] at hstop
      omega
  | cons c rest ih =>
    rw [findLike?]
    by_cases hhere : fragment ≠ [] ∧ OccursAt fragment (c :: rest) 0
    · have hbegins := beginsLike_iff_occursAt.mpr hhere.2
      rw [if_pos (by simp [hhere.1, hbegins]), Option.some.injEq]
      constructor
      · rintro rfl
        exact ⟨hhere.1, hhere.2, fun earlier hlt => absurd hlt (Nat.not_lt_zero earlier)⟩
      · rintro ⟨-, -, hfirst⟩
        have hnot : ¬0 < start := fun hpositive => hfirst 0 hpositive hhere.2
        omega
    · have hnot : ¬((!fragment.isEmpty && beginsLike fragment (c :: rest)) = true) := by
        rw [Bool.and_eq_true, beginsLike_iff_occursAt]
        simpa using hhere
      rw [if_neg hnot, Option.map_eq_some_iff]
      constructor
      · rintro ⟨found, hfound, rfl⟩
        obtain ⟨hsome, hoccurs, hfirst⟩ := ih.mp hfound
        refine ⟨hsome, occursAt_succ.mpr hoccurs, fun earlier hlt => ?_⟩
        cases earlier with
        | zero => exact fun hzero => hhere ⟨hsome, hzero⟩
        | succ earlier => exact fun hlater => hfirst earlier (by omega) (occursAt_succ.mp hlater)
      · rintro ⟨hsome, hoccurs, hfirst⟩
        cases start with
        | zero => exact absurd ⟨hsome, hoccurs⟩ hhere
        | succ start =>
          refine ⟨start, ih.mpr ⟨hsome, occursAt_succ.mp hoccurs, fun earlier hlt => ?_⟩, rfl⟩
          exact fun hearlier => hfirst (earlier + 1) (by omega) (occursAt_succ.mpr hearlier)

/-- Nothing is found when the fragment is empty or occurs nowhere. -/
theorem findLike?_eq_none_iff {fragment chars : List Char} :
    findLike? fragment chars = none ↔
      fragment = [] ∨ ∀ start, ¬OccursAt fragment chars start := by
  constructor
  · intro hnone
    by_cases hempty : fragment = []
    · exact Or.inl hempty
    · refine Or.inr fun start => ?_
      -- The first place, if there were any, would be found.
      induction start using Nat.strongRecOn with
      | ind start ih =>
        intro hoccurs
        have hfound := findLike?_eq_some_iff.mpr ⟨hempty, hoccurs, ih⟩
        rw [hnone] at hfound
        cases hfound
  · intro hnot
    cases hfound : findLike? fragment chars with
    | none => rfl
    | some start =>
      obtain ⟨hsome, hoccurs, -⟩ := findLike?_eq_some_iff.mp hfound
      exact absurd hoccurs (hnot.resolve_left hsome start)

/-! ## The window -/

variable {start stop length target : Nat}

/-- The window covers the match and stays inside the text. -/
theorem snippetBounds_covers (hstop : stop ≤ length) (start target : Nat) :
    (snippetBounds start stop length target).1 ≤ start ∧
      stop ≤ (snippetBounds start stop length target).2 ∧
      (snippetBounds start stop length target).2 ≤ length := by
  rw [snippetBounds]
  split
  · omega
  · split
    · omega
    · dsimp only
      omega

/-- The window is as wide as asked for, unless the text is shorter or the match longer. -/
theorem snippetBounds_width (hmatch : start ≤ stop) (hstop : stop ≤ length) (target : Nat) :
    (snippetBounds start stop length target).2 - (snippetBounds start stop length target).1 =
      min length (max (stop - start) target) := by
  rw [snippetBounds]
  split
  · omega
  · split
    · omega
    · dsimp only
      split <;> split <;> omega

/-- Where there is room to spare but not for all, half of it goes before the match, less what is
not there, and more where too little text stands behind the match. -/
theorem snippetBounds_before (hmatch : start ≤ stop) (hstop : stop ≤ length)
    (hspare : stop - start < target) (hlong : target < length) :
    start - (snippetBounds start stop length target).1 =
      max (target - (stop - start) - (length - stop))
        (min ((target - (stop - start)) / 2) start) := by
  rw [snippetBounds, if_neg (by omega), if_neg (by omega)]
  dsimp only
  split <;> split <;> omega

/-- A part of a text, with an ellipsis on each side where text is left out. -/
def excerpt (chars : List Char) (first last : Nat) : String :=
  (if 0 < first then ellipsis else "") ++ String.ofList ((chars.take last).drop first) ++
    (if last < chars.length then ellipsis else "")

/-- The snippet is the window around the first place where the fragment occurs. -/
theorem snippet?_of_first {text fragment : String} (target : Nat)
    (hfound : findLike? fragment.toList text.toList = some start) :
    snippet? text fragment target = some (excerpt text.toList
      (snippetBounds start (start + fragment.toList.length) text.toList.length target).1
      (snippetBounds start (start + fragment.toList.length) text.toList.length target).2) := by
  rw [snippet?]
  dsimp only
  rw [hfound]
  rfl

/-! ## With machine words -/

namespace Word

/-- A difference, where it does not fall below zero. -/
def sub? (a b : Nat) : Option Nat := if b ≤ a then some (a - b) else none

/-- A sum, where it does not exceed the greatest word. -/
def add? (greatest a b : Nat) : Option Nat := if a + b ≤ greatest then some (a + b) else none

/-- A part of a list, where its ends are in order and inside the list. -/
def part? (chars : List Char) (first last : Nat) : Option (List Char) :=
  if first ≤ last ∧ last ≤ chars.length then some ((chars.take last).drop first) else none

theorem sub?_of_le {a b : Nat} (h : b ≤ a) : sub? a b = some (a - b) := if_pos h

theorem add?_of_le {greatest a b : Nat} (h : a + b ≤ greatest) :
    add? greatest a b = some (a + b) := if_pos h

theorem part?_of_le {chars : List Char} {first last : Nat} (h : first ≤ last)
    (hlast : last ≤ chars.length) : part? chars first last = some ((chars.take last).drop first) :=
  if_pos ⟨h, hlast⟩

/-- Hands what the side before the match cannot use to the side behind it. -/
def spillBehind? (greatest start before behind : Nat) : Option (Nat × Nat) :=
  if start < before then do
    let surplus ← sub? before start
    let behind ← add? greatest behind surplus
    return (start, behind)
  else some (before, behind)

/-- Hands what the side behind the match cannot use to the side before it, as far as it has room. -/
def spillBefore? (greatest start room before behind : Nat) : Option (Nat × Nat) :=
  if room < behind then do
    let both ← add? greatest before behind
    let rest ← sub? both room
    return (min rest start, room)
  else some (before, behind)

/-- The bounds of a snippet, computed with machine words. -/
def snippetBounds? (greatest start stop length target : Nat) : Option (Nat × Nat) :=
  if length ≤ target then some (0, length)
  else do
    let size ← sub? stop start
    if target ≤ size then return (start, stop)
    else
      let spare ← sub? target size
      let behind ← sub? spare (spare / 2)
      let room ← sub? length stop
      let (before, behind) ← spillBehind? greatest start (spare / 2) behind
      let (before, behind) ← spillBefore? greatest start room before behind
      let first ← sub? start before
      let last ← add? greatest stop behind
      return (first, last)

theorem spillBehind?_eq {greatest start before behind : Nat} (h : before + behind ≤ greatest) :
    spillBehind? greatest start before behind =
      some (min before start, behind + (before - start)) := by
  unfold spillBehind?
  split
  · have hsum : behind + (before - start) ≤ greatest := by omega
    have hbefore : min before start = start := by omega
    rw [sub?_of_le (by omega), Option.bind_eq_bind, Option.bind_some, add?_of_le hsum, hbefore]
    rfl
  · have hbefore : min before start = before := by omega
    have hbehind : behind + (before - start) = behind := by omega
    rw [hbefore, hbehind]

theorem spillBefore?_eq {greatest start room before behind : Nat}
    (h : before + behind ≤ greatest) : spillBefore? greatest start room before behind =
      some (if room < behind then min (before + behind - room) start else before,
        min behind room) := by
  unfold spillBefore?
  split
  · have hbehind : min behind room = room := by omega
    rw [add?_of_le h, Option.bind_eq_bind, Option.bind_some, sub?_of_le (by omega), hbehind]
    rfl
  · have hbehind : min behind room = behind := by omega
    rw [hbehind]

/-- No number leaves its range, so machine words give the bounds. -/
theorem snippetBounds?_eq {greatest : Nat} (hmatch : start ≤ stop) (hstop : stop ≤ length)
    (hlength : length ≤ greatest) : snippetBounds? greatest start stop length target =
      some (snippetBounds start stop length target) := by
  rw [snippetBounds?, snippetBounds]
  split
  · rfl
  · rename_i hlong
    rw [sub?_of_le hmatch, Option.bind_eq_bind, Option.bind_some]
    split
    · rfl
    · rename_i hspare
      generalize hsize : target - (stop - start) = spare
      -- What the first side leaves goes to the other, whether it leaves anything or not.
      have hspill : (if start < spare / 2 then spare - spare / 2 + (spare / 2 - start)
          else spare - spare / 2) = spare - spare / 2 + (spare / 2 - start) := by
        split <;> omega
      have hhalf : spare / 2 ≤ spare := Nat.div_le_self spare 2
      have hboth : spare / 2 + (spare - spare / 2) ≤ greatest := by omega
      have htotal : min (spare / 2) start + (spare - spare / 2 + (spare / 2 - start)) = spare := by
        omega
      rw [sub?_of_le (by omega), Option.bind_eq_bind, Option.bind_some, hsize, sub?_of_le hhalf,
        Option.bind_some, sub?_of_le hstop, Option.bind_some, spillBehind?_eq hboth,
        Option.bind_some]
      dsimp only
      rw [hspill]
      have hbefore : min (spare / 2) start ≤ start := Nat.min_le_right _ _
      generalize spare - spare / 2 + (spare / 2 - start) = behind at htotal ⊢
      generalize min (spare / 2) start = before at hbefore htotal ⊢
      rw [spillBefore?_eq (by omega), Option.bind_some]
      have hfirst : (if length - stop < behind then min (before + behind - (length - stop)) start
          else before) ≤ start := by
        split <;> omega
      have hlast : stop + min behind (length - stop) ≤ greatest := by omega
      dsimp only
      rw [sub?_of_le hfirst, Option.bind_some, add?_of_le hlast]
      rfl

/-! ## The first place, with machine words -/

/-- Whether the fragment stands in a part of a text that is as long, letter by letter. -/
def sameLetters (part fragment : List Char) : Bool :=
  (part.zip fragment).all fun (own, wanted) => sameLetter own wanted

/-- The first of the given indices at which the fragment stands. -/
def firstAt? (greatest : Nat) (fragment chars : List Char) : List Nat → Option (Option Nat)
  | [] => some none
  | start :: rest => do
    let stop ← add? greatest start fragment.length
    let part ← part? chars start stop
    if sameLetters part fragment then return some start
    else firstAt? greatest fragment chars rest

/-- The first index at which the fragment stands, found by looking at every index from which it
could reach into the text. -/
def findLike? (greatest : Nat) (fragment chars : List Char) : Option (Option Nat) :=
  if fragment.isEmpty || chars.length < fragment.length then some none
  else do
    let last ← sub? chars.length fragment.length
    firstAt? greatest fragment chars (List.range (last + 1))

/-- The snippet, with machine words for all lengths and indices. -/
def snippet? (greatest : Nat) (text fragment : String) (target : Nat) : Option (Option String) := do
  let chars := text.toList
  let wanted := fragment.toList
  match ← findLike? greatest wanted chars with
  | none => return none
  | some start =>
    let stop ← add? greatest start wanted.length
    let (first, last) ← snippetBounds? greatest start stop chars.length target
    let part ← part? chars first last
    return some ((if 0 < first then ellipsis else "") ++ String.ofList part ++
      (if last < chars.length then ellipsis else ""))

theorem sameLetters_take {fragment chars : List Char} (h : fragment.length ≤ chars.length) :
    sameLetters (chars.take fragment.length) fragment = beginsLike fragment chars := by
  induction fragment generalizing chars with
  | nil => simp [sameLetters, beginsLike]
  | cons wanted fragment ih =>
    cases chars with
    | nil =>
      simp only [List.length_cons, List.length_nil] at h
      omega
    | cons own chars =>
      have hrest := ih (Nat.le_of_succ_le_succ h)
      rw [beginsLike, ← hrest]
      rfl

variable {greatest : Nat} {fragment chars : List Char}

/-- Looking at indices that reach no further than the text finds the first that fits. -/
theorem firstAt?_eq (hlength : chars.length ≤ greatest) {starts : List Nat}
    (hreach : ∀ start ∈ starts, start + fragment.length ≤ chars.length) :
    firstAt? greatest fragment chars starts =
      some (starts.find? fun start => beginsLike fragment (chars.drop start)) := by
  induction starts with
  | nil => rfl
  | cons start rest ih =>
    have hstop := hreach start List.mem_cons_self
    have hsum : start + fragment.length ≤ greatest := by omega
    have hroom : fragment.length ≤ (chars.drop start).length := by
      rw [List.length_drop]
      omega
    have hpart : (chars.take (start + fragment.length)).drop start =
        (chars.drop start).take fragment.length := by
      rw [List.drop_take, Nat.add_sub_cancel_left]
    have hrest := ih fun later hm => hreach later (List.mem_cons_of_mem _ hm)
    rw [firstAt?, add?_of_le hsum, Option.bind_eq_bind, Option.bind_some,
      part?_of_le (Nat.le_add_right _ _) hstop, Option.bind_eq_bind, Option.bind_some, hpart,
      sameLetters_take hroom, List.find?_cons, hrest]
    cases beginsLike fragment (chars.drop start) <;> rfl

/-- Machine words find the same first place. -/
theorem findLike?_eq (hlength : chars.length ≤ greatest) :
    findLike? greatest fragment chars = some (MediaGrid.findLike? fragment chars) := by
  unfold findLike?
  split
  · rename_i hnone
    rw [Bool.or_eq_true, List.isEmpty_iff, decide_eq_true_eq] at hnone
    refine congrArg some (findLike?_eq_none_iff.mpr ?_).symm
    refine hnone.imp_right fun hshort start hoccurs => ?_
    have hsome : fragment ≠ [] := by
      rintro rfl
      exact Nat.not_lt_zero _ hshort
    have hstop := hoccurs.stop_le hsome
    omega
  · rename_i hlong
    rw [Bool.or_eq_true, List.isEmpty_iff, decide_eq_true_eq, not_or, Nat.not_lt] at hlong
    obtain ⟨hsome, hfits⟩ := hlong
    have hreach : ∀ start ∈ List.range (chars.length - fragment.length + 1),
        start + fragment.length ≤ chars.length := by
      intro start hm
      have hlt := List.mem_range.mp hm
      omega
    rw [sub?_of_le hfits, Option.bind_eq_bind, Option.bind_some, firstAt?_eq hlength hreach]
    refine congrArg some (Option.ext fun start => ?_)
    rw [List.find?_range_eq_some, findLike?_eq_some_iff, beginsLike_drop_iff]
    simp only [Bool.not_eq_true', Bool.eq_false_iff, ne_eq, beginsLike_drop_iff]
    constructor
    · rintro ⟨hoccurs, -, hfirst⟩
      exact ⟨hsome, hoccurs, hfirst⟩
    · rintro ⟨-, hoccurs, hfirst⟩
      have hstop := hoccurs.stop_le hsome
      exact ⟨hoccurs, List.mem_range.mpr (by omega), hfirst⟩

/-- Machine words that can count the characters of the text give its snippet. -/
theorem snippet?_eq {text : String} (fragment : String) (target : Nat)
    (hlength : text.toList.length ≤ greatest) :
    snippet? greatest text fragment target = some (MediaGrid.snippet? text fragment target) := by
  unfold snippet? MediaGrid.snippet?
  dsimp only
  rw [findLike?_eq hlength, Option.bind_eq_bind, Option.bind_some]
  cases hfound : MediaGrid.findLike? fragment.toList text.toList with
  | none => rfl
  | some start =>
    obtain ⟨hsome, hoccurs, -⟩ := findLike?_eq_some_iff.mp hfound
    have hstop := hoccurs.stop_le hsome
    have hmatch : start ≤ start + fragment.toList.length := Nat.le_add_right _ _
    have hcovers := snippetBounds_covers hstop start target
    have hsum : start + fragment.toList.length ≤ greatest := by omega
    dsimp only
    rw [add?_of_le hsum, Option.bind_eq_bind, Option.bind_some,
      snippetBounds?_eq hmatch hstop hlength, Option.bind_eq_bind, Option.bind_some,
      part?_of_le (by omega) hcovers.2.2]
    rfl

end Word

/-! ## The snippet as a whole -/

/-- There is no snippet exactly when the fragment is empty or occurs nowhere in the text. Otherwise
it is a window around the first place where the fragment occurs, with an ellipsis on each side that
is cut. The window covers the match and is as wide as asked for, unless the text is shorter or the
match longer; where it is cut from a longer text, the room to spare is divided evenly as far as
there is text on both sides. Machine words compute it without leaving their range, as long as they
can count the characters of the text. -/
theorem snippet_windowed (text fragment : String) (target : Nat) :
    let chars := text.toList
    let wanted := fragment.toList
    let length := chars.length
    let size := wanted.length
    (snippet? text fragment target = none ↔
      fragment = "" ∨ ∀ start, ¬OccursAt wanted chars start) ∧
    (∀ start, fragment ≠ "" → OccursAt wanted chars start →
      (∀ earlier < start, ¬OccursAt wanted chars earlier) →
      ∃ first last, snippet? text fragment target = some (excerpt chars first last) ∧
        first ≤ start ∧ start + size ≤ last ∧ last ≤ length ∧
        last - first = min length (max size target) ∧
        (size < target → target < length →
          start - first = max (target - size - (length - start - size))
            (min ((target - size) / 2) start))) ∧
    ∀ greatest, length ≤ greatest →
      Word.snippet? greatest text fragment target = some (snippet? text fragment target) := by
  intro chars wanted length size
  have hempty : wanted = [] ↔ fragment = "" := String.toList_eq_nil_iff
  refine ⟨?_, fun start hsome hoccurs hfirst => ?_,
    fun greatest => Word.snippet?_eq fragment target⟩
  · rw [← hempty, ← findLike?_eq_none_iff]
    cases hfound : findLike? wanted chars with
    | none => simp only [snippet?, show findLike? fragment.toList text.toList = none from hfound,
        Option.bind_eq_bind, Option.bind_none]
    | some start => simp only [snippet?_of_first target hfound, reduceCtorEq]
  · have hfound := findLike?_eq_some_iff.mpr ⟨mt hempty.mp hsome, hoccurs, hfirst⟩
    have hstop : start + size ≤ length := hoccurs.stop_le (mt hempty.mp hsome)
    have hmatch : start ≤ start + size := Nat.le_add_right start size
    have hsize : start + size - start = size := Nat.add_sub_cancel_left start size
    have hbehind : length - (start + size) = length - start - size := by omega
    obtain ⟨hbefore, hbeyond, hinside⟩ :=
      snippetBounds_covers hstop start target
    have hwidth := snippetBounds_width hmatch hstop target
    rw [hsize] at hwidth
    refine ⟨_, _, snippet?_of_first target hfound, hbefore, hbeyond, hinside, hwidth,
      fun hspare hlong => ?_⟩
    have hroom := snippetBounds_before hmatch hstop (hsize.symm ▸ hspare) hlong
    rw [hsize, hbehind] at hroom
    exact hroom

example : snippet? "survey along the northern wall" "WALL" 10 = some "...thern wall" := by
  decide +kernel

end MediaGrid
