import Mathlib.Data.List.Basic
import MediaGrid.Proofs.Search.Grammar

/-!
# Tokens behind tokens

What tokens spell is spelled piece by piece where they are cut between two that do not belong to
one run: the second piece spells what it spells alone, at later indices. A list of tokens whose
last predicate is a run is what stands before the run, the run, and tokens that are dropped. Taking
the run out fuses nothing, since what stands before it ends no run. Two pieces that meet in plain
words spell one run across the cut, which is no part of it; only their directives are.
-/

namespace MediaGrid

namespace Predicate

/-- A predicate without the indices of its tokens. -/
def unplaced : Predicate → Predicate
  | .date found => .date (found.map fun read => { read with position := 0 })
  | .text run => .text { run with start := 0 }

/-- The condition and the day of a directive. -/
def directive? : Predicate → Option (Condition × Day)
  | .date found => found.map fun read => (read.condition, read.day)
  | .text _ => none

end Predicate

/-! ## Directives token by token -/

namespace Token

/-- The condition and the day of a token that is a directive. -/
def directive? (token : Token) : Option (Condition × Day) :=
  token.text? >>= readDirective?

/-- A plain word is no directive, wherever it stands. -/
theorem directive?_of_plain {token : Token} {text : String} (h : token.plain? = some text) :
    token.directive? = none := by
  have hnone := dateMatch?_of_plain h 0
  rwa [dateMatch?, Option.map_eq_none_iff] at hnone

/-- What a token that is no plain word spells has the directive that the token is. -/
theorem filterMap_closed (token : Token) (position : Nat) :
    (Predicate.date (token.dateMatch? position)).closed.filterMap Predicate.directive? =
      token.directive?.toList := by
  rw [dateMatch?, ← directive?]
  cases token.directive? <;> rfl

end Token

/-- The plain words at the head and what stands behind them are all the tokens. -/
theorem plainWords_append_drop (tokens : List Token) :
    (plainWords tokens).map .word ++ tokens.drop (plainWords tokens).length = tokens := by
  induction tokens with
  | nil => rfl
  | cons token rest ih =>
    cases hplain : token.plain? with
    | none =>
      rw [plainWords_other hplain]
      rfl
    | some text =>
      obtain ⟨rfl, -⟩ := Token.plain?_eq_some.mp hplain
      rw [plainWords_plain hplain, List.map_cons, List.length_cons, List.drop_succ_cons,
        List.cons_append, ih]

/-- The plain words at the head are no directives. -/
theorem filterMap_drop_plainWords (tokens : List Token) :
    (tokens.drop (plainWords tokens).length).filterMap Token.directive? =
      tokens.filterMap Token.directive? := by
  induction tokens with
  | nil => rfl
  | cons token rest ih =>
    cases hplain : token.plain? with
    | none =>
      rw [plainWords_other hplain]
      rfl
    | some text =>
      have hnone := Token.directive?_of_plain hplain
      rw [plainWords_plain hplain, List.length_cons, List.drop_succ_cons, ih,
        List.filterMap_cons_none hnone]

/-- The directives that are spelled are those among the tokens, in their order. -/
theorem filterMap_directive?_spelled (position : Nat) (tokens : List Token) :
    (spelled position tokens).filterMap Predicate.directive? =
      tokens.filterMap Token.directive? := by
  fun_induction spelled position tokens with
  | case1 position => rfl
  | case2 position token rest text hplain words ih =>
    have hnone := Token.directive?_of_plain hplain
    rw [List.filterMap_cons_none rfl, ih, filterMap_drop_plainWords,
      List.filterMap_cons_none hnone]
  | case3 position token rest hplain ih =>
    rw [List.filterMap_append, ih, Token.filterMap_closed]
    cases hread : token.directive? with
    | none => rw [List.filterMap_cons_none hread]; rfl
    | some read => rw [List.filterMap_cons_some hread]; rfl

/-! ## Where the tokens stand -/

/-- Tokens spell the same wherever they stand. -/
theorem map_unplaced_spelled (position other : Nat) (tokens : List Token) :
    (spelled position tokens).map Predicate.unplaced =
      (spelled other tokens).map Predicate.unplaced := by
  fun_induction spelled position tokens generalizing other with
  | case1 position => rw [spelled]
  | case2 position token rest text hplain words ih =>
    rw [spelled_plain hplain, List.map_cons, List.map_cons,
      ih (other + 1 + (plainWords rest).length)]
    rfl
  | case3 position token rest hplain ih =>
    have hhead : (Predicate.date (token.dateMatch? position)).closed.map Predicate.unplaced =
        (Predicate.date (token.dateMatch? other)).closed.map Predicate.unplaced := by
      rw [Token.dateMatch?, Token.dateMatch?]
      cases token.text? >>= readDirective? <;> rfl
    rw [spelled_other hplain, List.map_append, List.map_append, hhead, ih (other + 1)]

/-! ## Cutting between runs -/

theorem plainWords_append_other {token : Token} (h : token.plain? = none)
    (before rest : List Token) : plainWords (before ++ token :: rest) = plainWords before := by
  induction before with
  | nil => exact plainWords_other h rest
  | cons head before ih =>
    rw [List.cons_append]
    cases hplain : head.plain? with
    | none => rw [plainWords_other hplain, plainWords_other hplain]
    | some text => rw [plainWords_plain hplain, plainWords_plain hplain, ih]

/-- Tokens can be cut before one that is no plain word. -/
theorem spelled_append_other {token : Token} (h : token.plain? = none) (position : Nat)
    (before rest : List Token) : spelled position (before ++ token :: rest) =
      spelled position before ++ spelled (position + before.length) (token :: rest) := by
  fun_induction spelled position before with
  | case1 position => rw [List.nil_append, List.nil_append, List.length_nil, Nat.add_zero]
  | case2 position head before text hplain words ih =>
    have hfits : words.length ≤ before.length := plainWords_length_le before
    have hlength : position + 1 + words.length + (before.drop words.length).length =
        position + (head :: before).length := by
      rw [List.length_drop, List.length_cons]
      omega
    rw [List.cons_append, spelled_plain hplain, plainWords_append_other h,
      List.drop_append_of_le_length hfits, ih, hlength, List.cons_append]
  | case3 position head before hplain ih =>
    have hlength : position + 1 + before.length = position + (head :: before).length := by
      rw [List.length_cons]
      omega
    rw [List.cons_append, spelled_other hplain, ih, hlength, List.append_assoc]

/-- Tokens that leave no run open: there are none, or the last of them is no plain word. -/
def EndsNoRun (tokens : List Token) : Prop :=
  ∀ token, tokens.getLast? = some token → token.plain? = none

/-- Tokens can be cut where no run is open. -/
theorem spelled_append {before : List Token} (h : EndsNoRun before) (position : Nat)
    (rest : List Token) : spelled position (before ++ rest) =
      spelled position before ++ spelled (position + before.length) rest := by
  rcases List.eq_nil_or_concat' before with rfl | ⟨front, last, rfl⟩
  · rw [spelled, List.nil_append, List.nil_append, List.length_nil, Nat.add_zero]
  · have hlast : last.plain? = none := h last List.getLast?_concat
    have hlength : position + front.length + 1 = position + (front ++ [last]).length := by
      rw [List.length_append, List.length_singleton, Nat.add_assoc]
    rw [List.append_assoc, List.singleton_append, spelled_append_other hlast position front rest,
      spelled_other hlast, spelled_append_other hlast position front [], spelled_other hlast,
      hlength, spelled, List.append_nil, List.append_assoc]

/-! ## A run at the end -/

/-- Tokens that spell nothing are dropped, all of them. -/
theorem isDropped_of_spelled_eq_nil {position : Nat} {tokens : List Token}
    (h : spelled position tokens = []) : ∀ token ∈ tokens, token.IsDropped := by
  intro token hm
  refine Classical.byContradiction fun hkept => ?_
  obtain ⟨index, htoken⟩ := List.getElem?_of_mem hm
  obtain ⟨predicate, hspelled, -⟩ := exists_covers position tokens index token htoken hkept
  rw [h] at hspelled
  cases hspelled

/-- Dropped tokens spell nothing. -/
theorem spelled_of_isDropped {tokens : List Token} (h : ∀ token ∈ tokens, token.IsDropped)
    (position : Nat) : spelled position tokens = [] := by
  induction tokens generalizing position with
  | nil => rw [spelled]
  | cons token rest ih =>
    have hhead := (Token.isDropped_iff position).mp (h token List.mem_cons_self)
    have hrest := ih (fun other hm => h other (List.mem_cons_of_mem _ hm)) (position + 1)
    rw [spelled_other hhead.1, hhead.2, hrest]
    rfl

/-- Tokens whose last predicate is a run: what stands before it leaves no run open, and what stands
behind it is dropped. -/
structure LastRun (tokens : List Token) (run : TextRun) (before behind : List Token) : Prop where
  /-- The run stands between the two pieces. -/
  tokens_eq : tokens = before ++ (run.words.map .word ++ behind)
  /-- It begins where the first piece ends. -/
  start_eq : run.start = before.length
  /-- It has a word. -/
  words_ne_nil : run.words ≠ []
  /-- The first piece leaves no run open. -/
  endsNoRun : EndsNoRun before
  /-- The second piece spells nothing. -/
  dropped : ∀ token ∈ behind, token.IsDropped
  /-- The first piece spells the predicates before the run. -/
  spelled_eq : spelled 0 tokens = spelled 0 before ++ [.text run]

/-- The last of ordered predicates is not among those before it. -/
theorem eq_nil_of_getLast? {predicates : List Predicate} {first last : Nat}
    (hbehind : ∀ predicate ∈ predicates, ∀ begins ends,
      predicate.span? = some (begins, ends) → last ≤ begins) (hlt : first < last)
    {run : TextRun} (hspan : (Predicate.text run).span? = some (first, last))
    (h : (Predicate.text run :: predicates).getLast? = some (.text run)) : predicates = [] := by
  rcases List.eq_nil_or_concat' predicates with rfl | ⟨front, final, rfl⟩
  · rfl
  · rw [← List.cons_append, List.getLast?_concat, Option.some.injEq] at h
    have hle := hbehind final List.mem_concat_self first last (h ▸ hspan)
    omega

/-- Plain words at the head are spelled as one run. -/
theorem spelled_of_plainWords {tokens : List Token} (h : plainWords tokens ≠ []) (position : Nat) :
    spelled position tokens = .text ⟨plainWords tokens, position, true⟩ ::
      spelled (position + (plainWords tokens).length)
        (tokens.drop (plainWords tokens).length) := by
  cases tokens with
  | nil => exact absurd rfl h
  | cons token rest =>
    cases hplain : token.plain? with
    | none => exact absurd (plainWords_other hplain rest) h
    | some text =>
      have hlength : position + 1 + (plainWords rest).length =
          position + ((plainWords rest).length + 1) := by omega
      rw [spelled_plain hplain, plainWords_plain hplain, List.length_cons, List.drop_succ_cons,
        hlength]

/-- Tokens that are cut where no plain word stands before leave no run open. -/
theorem endsNoRun_take {tokens : List Token} {first : Nat} (hle : first ≤ tokens.length)
    (h : ∀ position text, position + 1 = first → ¬PlainAt tokens position text) :
    EndsNoRun (tokens.take first) := by
  intro token hlast
  rw [List.getLast?_eq_getElem?, List.length_take_of_le hle] at hlast
  cases first with
  | zero => cases hlast
  | succ position =>
    have hlt : position < position + 1 := Nat.lt_succ_self position
    rw [Nat.add_sub_cancel, List.getElem?_take_of_lt hlt] at hlast
    cases hplain : token.plain? with
    | none => rfl
    | some text => exact absurd (plainAt_iff.mpr ⟨token, hlast, hplain⟩) (h position text rfl)

/-- If the last predicate of tokens is a run, the tokens end with it and with what is dropped. -/
theorem exists_lastRun {tokens : List Token} {run : TextRun}
    (h : (spelled 0 tokens).getLast? = some (.text run)) :
    ∃ before behind, LastRun tokens run before behind := by
  have hm : Predicate.text run ∈ spelled 0 tokens := List.mem_of_getLast? h
  obtain ⟨first, -, hstands⟩ := (mem_spelled rfl
    fun before text hlast => absurd hlast (Nat.succ_ne_zero before)).mp hm
  have hlt := hstands.lt_length
  have hle := Nat.le_of_lt hlt
  cases hstands with
  | run hsome hwords hbefore hbehind =>
    rename_i words
    have hrun : words = plainWords (tokens.drop first) :=
      eq_plainWords (fun index text hindex => (plainAt_drop first).mpr (hwords index text hindex))
        fun text hnext => hbehind text ((plainAt_drop first).mp hnext)
    subst hrun
    have hends := endsNoRun_take hle hbefore
    have hlength := List.length_take_of_le hle
    have hspelled := spelled_append hends 0 (tokens.drop first)
    rw [List.take_append_drop, hlength, Nat.zero_add, spelled_of_plainWords hsome] at hspelled
    rw [hspelled, List.getLast?_append_cons] at h
    have hwidth : first < first + (plainWords (tokens.drop first)).length :=
      Nat.lt_add_of_pos_right (List.length_pos_iff.mpr hsome)
    have hspan := (Predicate.StandsAt.span?_eq (.run hsome hwords hbefore hbehind)).1
    have hnone := eq_nil_of_getLast? (fun predicate hlater begins ends hplace =>
      le_of_mem_spelled hlater hplace) hwidth hspan h
    exact ⟨tokens.take first, (tokens.drop first).drop (plainWords (tokens.drop first)).length,
      { tokens_eq := by rw [plainWords_append_drop, List.take_append_drop]
        start_eq := hlength.symm
        words_ne_nil := hsome
        endsNoRun := hends
        dropped := isDropped_of_spelled_eq_nil hnone
        spelled_eq := by rw [hspelled, hnone] }⟩

namespace LastRun

variable {tokens before behind : List Token} {run : TextRun}

/-- Without the run, the tokens leave no run open. -/
theorem endsNoRun_append (h : LastRun tokens run before behind) : EndsNoRun (before ++ behind) := by
  intro token hlast
  rcases List.eq_nil_or_concat' behind with rfl | ⟨front, last, rfl⟩
  · rw [List.append_nil] at hlast
    exact h.endsNoRun token hlast
  · rw [← List.append_assoc, List.getLast?_concat, Option.some.injEq] at hlast
    rw [← hlast]
    exact ((Token.isDropped_iff 0).mp (h.dropped last List.mem_concat_self)).1

/-- Without the run, the tokens spell the predicates before it. -/
theorem spelled_append (h : LastRun tokens run before behind) :
    spelled 0 (before ++ behind) = (spelled 0 tokens).dropLast := by
  have hnone := spelled_of_isDropped h.dropped (0 + before.length)
  rw [MediaGrid.spelled_append h.endsNoRun, hnone, h.spelled_eq, List.append_nil,
    List.dropLast_concat]

/-- What is put behind in place of the run spells what it spells alone. -/
theorem map_unplaced_append (h : LastRun tokens run before behind) (added : List Token) :
    (spelled 0 (before ++ behind ++ added)).map Predicate.unplaced =
      ((spelled 0 tokens).dropLast ++ spelled 0 added).map Predicate.unplaced := by
  rw [MediaGrid.spelled_append h.endsNoRun_append, h.spelled_append, List.map_append,
    List.map_append, map_unplaced_spelled _ 0 added]

end LastRun

end MediaGrid
