import MediaGrid.Search.Plan

/-!
# Scanning by single offers

Grouping disposes of a token at once. A scan makes one offer at a time: it keeps the index of the
token it offers, and how many kinds of predicate were tried in vain. A token that completes the
current predicate by being refused is offered again, to a new predicate. No token is offered more
than three times, so that a scan ends, and it ends with the predicates of the grouping. What the
predicates are is no part of it.
-/

namespace MediaGrid

/-- The kinds of predicate in the order in which they are tried. -/
def PredicateKind.order : List PredicateKind := [.date, .text]

/-- A scan between two offers. -/
structure Scan where
  /-- The index of the token that is offered next. -/
  cursor : Nat
  /-- How many kinds of predicate the token was offered to in vain. -/
  rank : Nat
  /-- The predicate that the token is offered to. -/
  current : Predicate
  /-- The complete predicates, in order. -/
  complete : List Predicate

namespace Scan

/-- The scan before the first offer. -/
def start : Scan := ⟨0, 0, .initial .date, []⟩

/-- Offers a token to the current predicate. Accepted, it is disposed of. Refused, it completes the
predicate, or it is offered to the next kind, or after the last kind it is dropped. -/
def offer (scan : Scan) (token : Token) : Scan :=
  let (accepted, current) := scan.current.offer token scan.cursor
  if accepted then { scan with cursor := scan.cursor + 1, rank := 0, current := current }
  else if current.isComplete then
    { scan with
      rank := 0
      current := .initial .date
      complete := scan.complete ++ [current] }
  else
    match PredicateKind.order[scan.rank + 1]? with
    | some kind => { scan with rank := scan.rank + 1, current := .initial kind }
    | none => { scan with cursor := scan.cursor + 1, rank := 0, current := .initial .date }

/-- The scan after so many offers, or at its end, when there is no token left to offer. -/
def run (tokens : List Token) : Nat → Scan → Scan
  | 0, scan => scan
  | offers + 1, scan =>
    match tokens[scan.cursor]? with
    | none => scan
    | some token => run tokens offers (scan.offer token)

variable {tokens : List Token}

/-- Offers can be made in two parts. -/
theorem run_add (first second : Nat) (scan : Scan) :
    run tokens (first + second) scan = run tokens second (run tokens first scan) := by
  induction first generalizing scan with
  | zero => rw [Nat.zero_add, run]
  | succ first ih =>
    rw [Nat.succ_add, run, run]
    cases htoken : tokens[scan.cursor]? with
    | none =>
      cases second with
      | zero => rfl
      | succ second => rw [run, htoken]
    | some token => exact ih _

/-- One more offer comes first. -/
theorem run_succ {scan : Scan} {token : Token} (h : tokens[scan.cursor]? = some token)
    (offers : Nat) : run tokens (offers + 1) scan = run tokens offers (scan.offer token) := by
  rw [run, h]

/-- A new predicate that refuses its first token is not complete. -/
theorem incomplete_of_refused {kind : PredicateKind} {refusing : Predicate} {token : Token}
    {position : Nat} (h : (Predicate.initial kind).offer token position = (false, refusing)) :
    refusing.isComplete = false := by
  cases kind with
  | date =>
    simp only [Predicate.initial, Predicate.offer] at h
    split at h <;> cases h
    rfl
  | text =>
    simp only [Predicate.initial, Predicate.offer, Bool.false_eq_true, if_false] at h
    split at h
    · split at h <;> cases h
      rfl
    · cases h
      rfl

/-- A new predicate of each kind is tried, dates before runs, within two offers. -/
theorem run_opened {cursor : Nat} {token : Token} (h : tokens[cursor]? = some token)
    (complete : List Predicate) : ∃ offers ≤ 2,
      run tokens offers ⟨cursor, 0, .initial .date, complete⟩ =
        ⟨cursor + 1, 0, (Grouping.opened? token cursor).getD (.initial .date), complete⟩ := by
  rcases hdate : (Predicate.initial .date).offer token cursor with ⟨_ | _, date⟩
  · have hnext : offer ⟨cursor, 0, .initial .date, complete⟩ token =
        ⟨cursor, 1, .initial .text, complete⟩ := by
      simp [offer, hdate, incomplete_of_refused hdate, PredicateKind.order]
    refine ⟨2, by omega, ?_⟩
    rw [run_succ h, hnext, run_succ h, run]
    rcases htext : (Predicate.initial .text).offer token cursor with ⟨_ | _, text⟩
    · simp [offer, Grouping.opened?, hdate, htext, incomplete_of_refused htext,
        PredicateKind.order]
    · simp [offer, Grouping.opened?, hdate, htext]
  · refine ⟨1, by omega, ?_⟩
    rw [run_succ h, run]
    simp [offer, Grouping.opened?, hdate]

end Scan

namespace Predicate

/-- A predicate as it stands between two tokens: a directive, or a run that has words and no end,
or a date predicate that was offered nothing yet. -/
def IsOpen : Predicate → Prop
  | .date _ => True
  | .text run => run.ended = false ∧ run.words ≠ []

/-- A predicate that accepts a token is open afterwards. -/
theorem isOpen_of_accepted {predicate accepting : Predicate} {token : Token} {position : Nat}
    (h : predicate.offer token position = (true, accepting)) : accepting.IsOpen := by
  cases predicate with
  | date found =>
    cases found with
    | some found => cases h
    | none =>
      simp only [offer] at h
      split at h <;> cases h
      trivial
  | text run =>
    simp only [offer] at h
    split at h
    · cases h
    · rename_i hended
      split at h
      · split at h <;> cases h
        exact ⟨Bool.eq_false_iff.mpr hended, List.append_ne_nil_of_right_ne_nil _ (by simp)⟩
      · cases h

/-- An open predicate that refuses a token is complete, unless it was offered nothing yet. -/
theorem complete_or_new_of_refused {predicate refusing : Predicate} {token : Token}
    {position : Nat} (hopen : predicate.IsOpen)
    (h : predicate.offer token position = (false, refusing)) :
    refusing.isComplete = true ∨ predicate = .initial .date ∧ refusing = .initial .date := by
  cases predicate with
  | date found =>
    cases found with
    | some found =>
      cases h
      exact Or.inl rfl
    | none =>
      simp only [offer] at h
      split at h <;> cases h
      exact Or.inr ⟨rfl, rfl⟩
  | text run =>
    obtain ⟨hended, hwords⟩ := hopen
    have hcomplete : (Predicate.text { run with ended := true }).isComplete = true := by
      simpa [isComplete] using hwords
    simp only [offer, hended, Bool.false_eq_true, if_false] at h
    split at h
    · split at h <;> cases h
      exact Or.inl hcomplete
    · cases h
      exact Or.inl hcomplete

end Predicate

namespace Grouping

/-- The grouping after tokens that stand from a position on. -/
def after (grouping : Grouping) (position : Nat) : List Token → Grouping
  | [] => grouping
  | token :: rest => (grouping.step token position).after (position + 1) rest

theorem foldl_step (tokens : List Token) (position : Nat) (grouping : Grouping) :
    (tokens.zipIdx position).foldl
      (fun grouping (token, position) => grouping.step token position) grouping =
      grouping.after position tokens := by
  induction tokens generalizing position grouping with
  | nil => rfl
  | cons token rest ih => exact ih (position + 1) (grouping.step token position)

/-- The predicates of tokens are those that grouping completes. -/
theorem predicatesOf_eq (tokens : List Token) :
    predicatesOf tokens = (start.after 0 tokens).complete :=
  congrArg Grouping.complete (foldl_step tokens 0 start)

/-- The current predicate is open between two tokens. -/
theorem isOpen_step (grouping : Grouping) (token : Token) (position : Nat) :
    (grouping.step token position).current.IsOpen := by
  rcases hoffer : grouping.current.offer token position with ⟨_ | _, current⟩
  · simp only [step, hoffer, Bool.false_eq_true, if_false]
    cases hopened : opened? token position with
    | none => trivial
    | some opened =>
      obtain ⟨kind, -, hkind⟩ := List.exists_of_findSome?_eq_some hopened
      dsimp only at hkind
      split at hkind
      · rename_i haccepted
        cases hkind
        exact Predicate.isOpen_of_accepted (Prod.ext haccepted rfl)
      · cases hkind
  · simp only [step, hoffer, if_true]
    exact Predicate.isOpen_of_accepted hoffer

end Grouping

namespace Scan

variable {tokens : List Token}

/-- A scan disposes of a token as the grouping does, within three offers. -/
theorem run_step {cursor : Nat} {token : Token} (h : tokens[cursor]? = some token)
    {grouping : Grouping} (hopen : grouping.current.IsOpen) : ∃ offers ≤ 3,
      run tokens offers ⟨cursor, 0, grouping.current, grouping.complete⟩ =
        ⟨cursor + 1, 0, (grouping.step token cursor).current,
          (grouping.step token cursor).complete⟩ := by
  rcases hoffer : grouping.current.offer token cursor with ⟨_ | _, current⟩
  · rcases Predicate.complete_or_new_of_refused hopen hoffer with hcomplete | ⟨hnew, rfl⟩
    · -- The token completes the predicate, and is offered again to new ones.
      obtain ⟨offers, hle, hrun⟩ := run_opened h (grouping.complete ++ [current])
      have hfirst : offer ⟨cursor, 0, grouping.current, grouping.complete⟩ token =
          ⟨cursor, 0, .initial .date, grouping.complete ++ [current]⟩ := by
        simp [offer, hoffer, hcomplete]
      refine ⟨offers + 1, by omega, ?_⟩
      rw [run_succ h, hfirst, hrun]
      simp [Grouping.step, hoffer, hcomplete]
    · obtain ⟨offers, hle, hrun⟩ := run_opened h grouping.complete
      have hincomplete : (Predicate.initial .date).isComplete = false := rfl
      refine ⟨offers, by omega, ?_⟩
      rw [hnew, hrun]
      simp [Grouping.step, hoffer, hincomplete]
  · refine ⟨1, by omega, ?_⟩
    rw [run_succ h, run]
    simp [offer, Grouping.step, hoffer]

/-- A scan disposes of all tokens as the grouping does. -/
theorem run_after (before rest : List Token) {grouping : Grouping}
    (hopen : grouping.current.IsOpen) : ∃ offers ≤ 3 * rest.length,
      run (before ++ rest) offers ⟨before.length, 0, grouping.current, grouping.complete⟩ =
        ⟨(before ++ rest).length, 0, (grouping.after before.length rest).current,
          (grouping.after before.length rest).complete⟩ := by
  induction rest generalizing before grouping with
  | nil => exact ⟨0, by omega, by rw [List.append_nil, run, Grouping.after]⟩
  | cons token rest ih =>
    have htoken : (before ++ token :: rest)[before.length]? = some token := by simp
    obtain ⟨first, hfirst, hrun⟩ := run_step htoken hopen
    obtain ⟨others, hothers, hrest⟩ := ih (before ++ [token])
      (grouping.isOpen_step token before.length)
    have hassoc : before ++ [token] ++ rest = before ++ token :: rest := by simp
    have hlength : (before ++ [token]).length = before.length + 1 := by simp
    rw [hassoc, hlength] at hrest
    refine ⟨first + others, ?_, ?_⟩
    · rw [List.length_cons]
      omega
    · rw [run_add, hrun, hrest, Grouping.after]

/-- A scan ends after at most three offers for each token, with the predicates of the tokens. -/
theorem run_ends (tokens : List Token) : ∃ offers ≤ 3 * tokens.length,
    (run tokens offers start).cursor = tokens.length ∧
      (run tokens offers start).complete = predicatesOf tokens := by
  have hopen : Grouping.start.current.IsOpen := trivial
  obtain ⟨offers, hle, hrun⟩ := run_after [] tokens hopen
  refine ⟨offers, hle, ?_⟩
  have hstart : start = ⟨0, 0, Grouping.start.current, Grouping.start.complete⟩ := rfl
  rw [List.nil_append, List.length_nil, ← hstart] at hrun
  rw [hrun, Grouping.predicatesOf_eq]
  exact ⟨rfl, rfl⟩

/-- Once all tokens were disposed of, no offer is made any more. -/
theorem run_of_ended {scan : Scan} (h : scan.cursor = tokens.length) (offers : Nat) :
    run tokens offers scan = scan := by
  cases offers with
  | zero => rw [run]
  | succ offers => rw [run, h, List.getElem?_eq_none (Nat.le_refl _)]

end Scan

end MediaGrid
