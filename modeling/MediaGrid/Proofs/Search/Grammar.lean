import Mathlib.Logic.ExistsUnique
import MediaGrid.Proofs.Search.Offers

/-!
# What tokens spell

A list of tokens that ends with a stop spells a predicate wherever it has a date directive, and
wherever a run of plain words begins that cannot be made longer on either side. The predicates of
the tokens are those, in the order in which they stand. Stops, and words with a colon that are no
directive, belong to no predicate and end a run; every other token belongs to exactly one. Which
words are directives is decided by their reading, which is no part of it. A run at the end that no
stop follows is not covered.
-/

namespace MediaGrid

/-! ## Kinds of tokens -/

namespace Token

/-- The text of a plain word, which has no colon. -/
def plain? : Token → Option String
  | .word text => if ':' ∈ text.toList then none else some text
  | .stop => none

/-- The directive that a token is, with its index. -/
def dateMatch? (token : Token) (position : Nat) : Option DateMatch :=
  (token.text? >>= readDirective?).map fun (condition, day) => ⟨condition, day, position⟩

/-- The tokens that belong to no predicate: stops, and words with a colon that are no
directive. -/
inductive IsDropped : Token → Prop
  /-- A stop. -/
  | stop : IsDropped .stop
  /-- A word with a colon that is no directive. -/
  | word (text : String) (hcolon : ':' ∈ text.toList) (hnone : readDirective? text = none) :
    IsDropped (.word text)

theorem plain?_eq_some {token : Token} {text : String} :
    token.plain? = some text ↔ token = .word text ∧ ':' ∉ text.toList := by
  cases token with
  | stop => simp [plain?]
  | word other =>
    simp only [plain?, Option.ite_none_left_eq_some, Option.some.injEq, word.injEq]
    constructor
    · rintro ⟨hcolon, rfl⟩
      exact ⟨rfl, hcolon⟩
    · rintro ⟨rfl, hcolon⟩
      exact ⟨hcolon, rfl⟩

theorem isDirectiveShaped_word (text : String) :
    (Token.word text).isDirectiveShaped = decide (':' ∈ text.toList) := by
  simp [isDirectiveShaped, List.any_beq']

/-- A text without a colon has no parts before and after it. -/
theorem splitColon?_eq_none {chars : List Char} (h : ':' ∉ chars) : splitColon? chars = none := by
  induction chars with
  | nil => rfl
  | cons c rest ih =>
    rw [List.mem_cons, not_or] at h
    rw [splitColon?, if_neg (Ne.symm h.1), ih h.2]
    rfl

/-- A plain word is no directive. -/
theorem dateMatch?_of_plain {token : Token} {text : String} (h : token.plain? = some text)
    (position : Nat) : token.dateMatch? position = none := by
  obtain ⟨rfl, hcolon⟩ := plain?_eq_some.mp h
  simp [dateMatch?, text?, readDirective?, splitColon?_eq_none hcolon]

/-- A token is dropped when it is neither a plain word nor a directive. -/
theorem isDropped_iff {token : Token} (position : Nat) :
    token.IsDropped ↔ token.plain? = none ∧ token.dateMatch? position = none := by
  constructor
  · rintro (- | ⟨text, hcolon, hnone⟩)
    · exact ⟨rfl, rfl⟩
    · simp [plain?, dateMatch?, text?, hcolon, hnone]
  · rintro ⟨hplain, hdate⟩
    cases token with
    | stop => exact .stop
    | word text =>
      simp only [plain?, ite_eq_left_iff, reduceCtorEq, imp_false, Decidable.not_not] at hplain
      have hnone : readDirective? text = none := by simpa [dateMatch?, text?] using hdate
      exact .word text hplain hnone

end Token

/-! ## What grouping does with a token -/

namespace Predicate

/-- What becomes of an open predicate when a stop follows. -/
def closed : Predicate → List Predicate
  | .date none => []
  | .date (some found) => [.date (some found)]
  | .text run => [.text { run with ended := true }]

end Predicate

namespace Grouping

variable {grouping : Grouping} {token : Token} {position : Nat}

/-- No run begins with a token that is no plain word. -/
theorem refused_of_other (hother : token.plain? = none) (position : Nat) :
    ((Predicate.initial .text).offer token position).1 = false := by
  cases token with
  | stop => rfl
  | word text =>
    simp only [Token.plain?, ite_eq_left_iff, reduceCtorEq, imp_false, Decidable.not_not]
      at hother
    simp [Predicate.initial, Predicate.offer, Token.isDirectiveShaped_word, hother]

/-- A token that is no plain word opens a directive at most. -/
theorem opened?_other (hother : token.plain? = none) (position : Nat) :
    (opened? token position).getD (.initial .date) = .date (token.dateMatch? position) := by
  have htext := refused_of_other hother position
  have hdate : (Predicate.initial .date).offer token position =
      ((token.dateMatch? position).isSome, .date (token.dateMatch? position)) := by
    simp only [Predicate.initial, Predicate.offer, Token.dateMatch?]
    cases token.text? >>= readDirective? <;> rfl
  have hnew : Predicate.initial .date = .date none := rfl
  cases hfound : token.dateMatch? position with
  | none => simp [← hnew, opened?, hdate, hfound, htext]
  | some found => simp [opened?, hdate, hfound]

/-- A plain word opens a run. -/
theorem opened?_plain {text : String} (hplain : token.plain? = some text) (position : Nat) :
    opened? token position = some (.text ⟨[text], position, false⟩) := by
  have hdate : (Predicate.initial .date).offer token position = (false, .date none) := by
    have hnone := Token.dateMatch?_of_plain hplain position
    rw [Token.dateMatch?, Option.map_eq_none_iff] at hnone
    simp [Predicate.initial, Predicate.offer, hnone]
  obtain ⟨rfl, hcolon⟩ := Token.plain?_eq_some.mp hplain
  have htext : (Predicate.initial .text).offer (.word text) position =
      (true, .text ⟨[text], position, false⟩) := by
    simp [Predicate.initial, Predicate.offer, Token.isDirectiveShaped_word, hcolon]
  simp [opened?, hdate, htext]

/-- A token that is no plain word closes the open predicate. -/
theorem step_other (hopen : grouping.current.IsOpen) (hother : token.plain? = none) :
    grouping.step token position =
      ⟨.date (token.dateMatch? position), grouping.complete ++ grouping.current.closed⟩ := by
  obtain ⟨current, complete⟩ := grouping
  have hopened := opened?_other hother position
  cases current with
  | date found =>
    cases found with
    | some found =>
      simp [step, Predicate.offer, hopened, Predicate.isComplete, Predicate.closed]
    | none =>
      cases hread : token.text? >>= readDirective? with
      | none =>
        rw [step]
        simp only [Predicate.offer, hread]
        simp [hopened, Predicate.isComplete, Predicate.closed]
      | some read =>
        rw [step]
        simp only [Predicate.offer, hread]
        simp [Token.dateMatch?, hread, Predicate.closed]
  | text run =>
    obtain ⟨hended, hwords⟩ := hopen
    have hrefused : (Predicate.text run).offer token position =
        (false, .text { run with ended := true }) := by
      cases token with
      | stop => simp [Predicate.offer, hended]
      | word text =>
        simp only [Token.plain?, ite_eq_left_iff, reduceCtorEq, imp_false, Decidable.not_not]
          at hother
        simp [Predicate.offer, hended, Token.isDirectiveShaped_word, hother]
    simp [step, hrefused, hopened, Predicate.isComplete, hwords, Predicate.closed]

/-- A plain word opens a run after a directive, or at the start. -/
theorem step_plain {found : Option DateMatch} {complete : List Predicate} {text : String}
    (hplain : token.plain? = some text) :
    step ⟨.date found, complete⟩ token position =
      ⟨.text ⟨[text], position, false⟩, complete ++ (Predicate.date found).closed⟩ := by
  have hopened := opened?_plain hplain position
  cases found with
  | some found => simp [step, Predicate.offer, hopened, Predicate.isComplete, Predicate.closed]
  | none =>
    have hnone := Token.dateMatch?_of_plain hplain position
    rw [Token.dateMatch?, Option.map_eq_none_iff] at hnone
    rw [step]
    simp only [Predicate.offer, hnone]
    simp [hopened, Predicate.isComplete, Predicate.closed]

/-- A plain word makes an open run longer. -/
theorem step_longer {words : List String} {first : Nat} {complete : List Predicate}
    {text : String} (hwords : words ≠ []) (hplain : token.plain? = some text) :
    step ⟨.text ⟨words, first, false⟩, complete⟩ token position =
      ⟨.text ⟨words ++ [text], first, false⟩, complete⟩ := by
  obtain ⟨rfl, hcolon⟩ := Token.plain?_eq_some.mp hplain
  simp [step, Predicate.offer, Token.isDirectiveShaped_word, hcolon, hwords]

end Grouping

/-! ## Reading the predicates off the tokens -/

/-- The plain words at the head of a list of tokens. -/
def plainWords : List Token → List String
  | [] => []
  | token :: rest =>
    match token.plain? with
    | some text => text :: plainWords rest
    | none => []

theorem plainWords_plain {token : Token} {text : String} (h : token.plain? = some text)
    (rest : List Token) : plainWords (token :: rest) = text :: plainWords rest := by
  rw [plainWords, h]

theorem plainWords_other {token : Token} (h : token.plain? = none) (rest : List Token) :
    plainWords (token :: rest) = [] := by
  rw [plainWords, h]

/-- The predicates that tokens spell, which stand from a position on. -/
def spelled (position : Nat) : List Token → List Predicate
  | [] => []
  | token :: rest =>
    match token.plain? with
    | some text =>
      let words := plainWords rest
      .text ⟨text :: words, position, true⟩ ::
        spelled (position + 1 + words.length) (rest.drop words.length)
    | none => (Predicate.date (token.dateMatch? position)).closed ++ spelled (position + 1) rest
termination_by tokens => tokens.length
decreasing_by
  all_goals simp only [List.length_drop, List.length_cons]; omega

theorem spelled_plain {token : Token} {text : String} (h : token.plain? = some text)
    (position : Nat) (rest : List Token) :
    spelled position (token :: rest) = .text ⟨text :: plainWords rest, position, true⟩ ::
      spelled (position + 1 + (plainWords rest).length) (rest.drop (plainWords rest).length) := by
  rw [spelled, h]

theorem spelled_other {token : Token} (h : token.plain? = none) (position : Nat)
    (rest : List Token) : spelled position (token :: rest) =
      (Predicate.date (token.dateMatch? position)).closed ++ spelled (position + 1) rest := by
  rw [spelled, h]

/-- With a stop behind them, tokens complete the predicates that they spell. An open run takes the
plain words at their head. -/
theorem complete_after (tokens : List Token) (position : Nat) (complete : List Predicate) :
    (∀ found, (Grouping.after ⟨.date found, complete⟩ position (tokens ++ [.stop])).complete =
      complete ++ (Predicate.date found).closed ++ spelled position tokens) ∧
    ∀ words first, words ≠ [] →
      (Grouping.after ⟨.text ⟨words, first, false⟩, complete⟩ position
        (tokens ++ [.stop])).complete =
        complete ++ [.text ⟨words ++ plainWords tokens, first, true⟩] ++
          spelled (position + (plainWords tokens).length)
            (tokens.drop (plainWords tokens).length) := by
  induction tokens generalizing position complete with
  | nil =>
    have hstop : Token.stop.plain? = none := rfl
    refine ⟨fun found => ?_, fun words first hwords => ?_⟩
    · have hopen : (Predicate.date found).IsOpen := trivial
      rw [List.nil_append, Grouping.after, Grouping.step_other hopen hstop]
      simp [Grouping.after, spelled]
    · have hopen : (Predicate.text ⟨words, first, false⟩).IsOpen := ⟨rfl, hwords⟩
      rw [List.nil_append, Grouping.after, Grouping.step_other hopen hstop]
      simp [Grouping.after, spelled, plainWords, Predicate.closed]
  | cons token rest ih =>
    cases hplain : token.plain? with
    | none =>
      refine ⟨fun found => ?_, fun words first hwords => ?_⟩
      · have hopen : (Predicate.date found).IsOpen := trivial
        rw [List.cons_append, Grouping.after, Grouping.step_other hopen hplain, (ih _ _).1,
          spelled_other hplain]
        simp only [List.append_assoc]
      · have hopen : (Predicate.text ⟨words, first, false⟩).IsOpen := ⟨rfl, hwords⟩
        rw [List.cons_append, Grouping.after, Grouping.step_other hopen hplain, (ih _ _).1,
          plainWords_other hplain, List.length_nil, List.drop_zero, List.append_nil,
          Nat.add_zero position, spelled_other hplain]
        simp only [List.append_assoc]
        rfl
    | some text =>
      refine ⟨fun found => ?_, fun words first hwords => ?_⟩
      · rw [List.cons_append, Grouping.after, Grouping.step_plain hplain,
          (ih _ _).2 _ _ (List.cons_ne_nil _ _), spelled_plain hplain]
        simp only [List.append_assoc, List.singleton_append]
      · rw [List.cons_append, Grouping.after, Grouping.step_longer hwords hplain,
          (ih _ _).2 _ _ (List.append_ne_nil_of_right_ne_nil _ (List.cons_ne_nil _ _)),
          plainWords_plain hplain, List.length_cons, List.drop_succ_cons,
          List.append_assoc words, Nat.add_right_comm, Nat.add_assoc]
        rfl

theorem plainWords_concat_stop (tokens : List Token) :
    plainWords (tokens ++ [.stop]) = plainWords tokens := by
  induction tokens with
  | nil => exact plainWords_other rfl []
  | cons token rest ih =>
    rw [List.cons_append]
    cases hplain : token.plain? with
    | none => rw [plainWords_other hplain, plainWords_other hplain]
    | some text => rw [plainWords_plain hplain, plainWords_plain hplain, ih]

theorem plainWords_length_le (tokens : List Token) :
    (plainWords tokens).length ≤ tokens.length := by
  induction tokens with
  | nil => exact Nat.le_refl _
  | cons token rest ih =>
    cases hplain : token.plain? with
    | none =>
      rw [plainWords_other hplain]
      exact Nat.zero_le _
    | some text =>
      rw [plainWords_plain hplain]
      exact Nat.succ_le_succ ih

/-- A stop at the end spells nothing. -/
theorem spelled_concat_stop (position : Nat) (tokens : List Token) :
    spelled position (tokens ++ [.stop]) = spelled position tokens := by
  fun_induction spelled position tokens with
  | case1 position => rw [List.nil_append, spelled_other rfl, spelled]; rfl
  | case2 position token rest text hplain words ih =>
    rw [List.cons_append, spelled_plain hplain, plainWords_concat_stop,
      List.drop_append_of_le_length (plainWords_length_le rest), ih]
  | case3 position token rest hplain ih =>
    rw [List.cons_append, spelled_other hplain, ih]

/-- The predicates of tokens that end with a stop are those that they spell. -/
theorem predicatesOf_concat_stop (tokens : List Token) :
    predicatesOf (tokens ++ [.stop]) = spelled 0 (tokens ++ [.stop]) := by
  rw [Grouping.predicatesOf_eq, Grouping.start, Predicate.initial, (complete_after tokens 0 []).1,
    spelled_concat_stop]
  rfl

/-! ## Where predicates stand -/

/-- A plain word stands at an index. -/
def PlainAt (tokens : List Token) (position : Nat) (text : String) : Prop :=
  tokens[position]? = some (.word text) ∧ ':' ∉ text.toList

namespace Predicate

/-- A predicate stands at an index of the tokens: a word there is a directive, or there begins a
run of plain words with no plain word before it or behind it. -/
inductive StandsAt (tokens : List Token) : Nat → Predicate → Prop
  /-- A date directive. -/
  | date {position : Nat} {text : String} {condition : Condition} {day : Day}
    (htoken : tokens[position]? = some (.word text))
    (hread : readDirective? text = some (condition, day)) :
    StandsAt tokens position (.date (some ⟨condition, day, position⟩))
  /-- A run that cannot be made longer. -/
  | run {first : Nat} {words : List String} (hsome : words ≠ [])
    (hwords : ∀ index text, words[index]? = some text → PlainAt tokens (first + index) text)
    (hbefore : ∀ position text, position + 1 = first → ¬PlainAt tokens position text)
    (hbehind : ∀ text, ¬PlainAt tokens (first + words.length) text) :
    StandsAt tokens first (.text ⟨words, first, true⟩)

/-- How many tokens a predicate takes. -/
def width : Predicate → Nat
  | .date _ => 1
  | .text run => run.words.length

/-- A predicate takes the token at an index. -/
def Covers (predicate : Predicate) (position : Nat) : Prop :=
  ∃ first last, predicate.span? = some (first, last) ∧ first ≤ position ∧ position < last

/-- A predicate ends before another one begins. -/
def Precedes (earlier later : Predicate) : Prop :=
  ∀ first last first' last', earlier.span? = some (first, last) →
    later.span? = some (first', last') → last ≤ first'

end Predicate

section

variable {tokens : List Token} {position : Nat} {text : String}

theorem plainAt_iff : PlainAt tokens position text ↔
    ∃ token, tokens[position]? = some token ∧ token.plain? = some text := by
  constructor
  · rintro ⟨htoken, hcolon⟩
    exact ⟨_, htoken, Token.plain?_eq_some.mpr ⟨rfl, hcolon⟩⟩
  · rintro ⟨token, htoken, hplain⟩
    obtain ⟨rfl, hcolon⟩ := Token.plain?_eq_some.mp hplain
    exact ⟨htoken, hcolon⟩

theorem plainAt_drop (first : Nat) :
    PlainAt (tokens.drop first) position text ↔ PlainAt tokens (first + position) text := by
  rw [PlainAt, List.getElem?_drop, PlainAt]

theorem plainAt_cons_succ (token : Token) :
    PlainAt (token :: tokens) (position + 1) text ↔ PlainAt tokens position text := by
  rw [PlainAt, List.getElem?_cons_succ, PlainAt]

/-- The plain words at the head stand at the first indices. -/
theorem plainAt_plainWords (h : (plainWords tokens)[position]? = some text) :
    PlainAt tokens position text := by
  induction tokens generalizing position with
  | nil => simp [plainWords] at h
  | cons token rest ih =>
    cases hplain : token.plain? with
    | none => simp [plainWords_other hplain] at h
    | some head =>
      rw [plainWords_plain hplain] at h
      cases position with
      | zero =>
        rw [List.getElem?_cons_zero, Option.some.injEq] at h
        exact plainAt_iff.mpr ⟨token, rfl, h ▸ hplain⟩
      | succ position => exact (plainAt_cons_succ token).mpr (ih h)

/-- Behind the plain words at the head there is none. -/
theorem not_plainAt_length (tokens : List Token) (text : String) :
    ¬PlainAt tokens (plainWords tokens).length text := by
  induction tokens with
  | nil => rintro ⟨htoken, -⟩; cases htoken
  | cons token rest ih =>
    cases hplain : token.plain? with
    | none =>
      rw [plainWords_other hplain]
      intro h
      obtain ⟨other, htoken, hother⟩ := plainAt_iff.mp h
      cases htoken
      rw [hplain] at hother
      cases hother
    | some head =>
      rw [plainWords_plain hplain, List.length_cons, plainAt_cons_succ]
      exact ih

/-- Plain words with none behind them are all plain words at the head. -/
theorem eq_plainWords {words : List String}
    (hwords : ∀ index text, words[index]? = some text → PlainAt tokens index text)
    (hbehind : ∀ text, ¬PlainAt tokens words.length text) : words = plainWords tokens := by
  induction words generalizing tokens with
  | nil =>
    cases tokens with
    | nil => rfl
    | cons token rest =>
      cases hplain : token.plain? with
      | none => exact (plainWords_other hplain rest).symm
      | some head => exact absurd (plainAt_iff.mpr ⟨token, rfl, hplain⟩) (hbehind head)
  | cons word words ih =>
    obtain ⟨token, htoken, hplain⟩ := plainAt_iff.mp (hwords 0 word rfl)
    cases tokens with
    | nil => cases htoken
    | cons head rest =>
      cases htoken
      rw [plainWords_plain hplain]
      congr 1
      refine ih (fun index text h => ?_) fun text => ?_
      · exact (plainAt_cons_succ token).mp (hwords (index + 1) text h)
      · rw [← plainAt_cons_succ token]
        exact hbehind text

end

namespace Predicate

variable {tokens : List Token} {predicate : Predicate} {position : Nat}

/-- A predicate takes the tokens from where it stands on. -/
theorem StandsAt.span?_eq (h : predicate.StandsAt tokens position) :
    predicate.span? = some (position, position + predicate.width) ∧ 0 < predicate.width := by
  cases h with
  | date htoken hread => exact ⟨rfl, Nat.one_pos⟩
  | run hsome hwords hbefore hbehind =>
    have hlength := List.length_pos_iff.mpr hsome
    refine ⟨?_, hlength⟩
    simp [span?, width, hsome]

/-- There is a token where a predicate stands. -/
theorem StandsAt.lt_length (h : predicate.StandsAt tokens position) :
    position < tokens.length := by
  cases h with
  | date htoken hread => exact (List.getElem?_eq_some_iff.mp htoken).1
  | run hsome hwords hbefore hbehind =>
    rename_i words
    obtain ⟨text, rest, rfl⟩ := List.exists_cons_of_ne_nil hsome
    obtain ⟨htoken, -⟩ := hwords 0 text rfl
    exact (List.getElem?_eq_some_iff.mp htoken).1

/-- Where a plain word stands there can only stand the run of all plain words from there on. -/
theorem StandsAt.of_plain {text : String} (h : predicate.StandsAt tokens position)
    (hplain : PlainAt tokens position text) :
    predicate = .text ⟨plainWords (tokens.drop position), position, true⟩ := by
  obtain ⟨token, htoken, hplain⟩ := plainAt_iff.mp hplain
  cases h with
  | date hword hread =>
    have hnone := Token.dateMatch?_of_plain hplain position
    rw [htoken, Option.some.injEq] at hword
    rw [hword, Token.dateMatch?, Token.text?, Option.bind_eq_bind, Option.bind_some, hread]
      at hnone
    cases hnone
  | run hsome hwords hbefore hbehind =>
    rename_i words
    have hsame : words = plainWords (tokens.drop position) :=
      eq_plainWords (fun index text h => (plainAt_drop position).mpr (hwords index text h))
        fun text h => hbehind text ((plainAt_drop position).mp h)
    rw [← hsame]

/-- No run begins behind a plain word. -/
theorem StandsAt.not_plainAt (h : predicate.StandsAt tokens (position + 1)) {text : String}
    (hplain : PlainAt tokens (position + 1) text) (other : String) :
    ¬PlainAt tokens position other := by
  obtain rfl := h.of_plain hplain
  cases h with
  | run hsome hwords hbefore hbehind => exact hbefore position other rfl

/-- A run of plain words stands where it begins. -/
theorem standsAt_run {text : String} (hplain : PlainAt tokens position text)
    (hbefore : ∀ before other, before + 1 = position → ¬PlainAt tokens before other) :
    (Predicate.text ⟨plainWords (tokens.drop position), position, true⟩).StandsAt tokens
      position := by
  refine .run (fun hnil => ?_) (fun index word hword => ?_) hbefore fun other h => ?_
  · have hnot := not_plainAt_length (tokens.drop position) text
    rw [hnil, List.length_nil, plainAt_drop, Nat.add_zero] at hnot
    exact hnot hplain
  · exact (plainAt_drop position).mp (plainAt_plainWords hword)
  · exact not_plainAt_length _ other ((plainAt_drop position).mpr h)

/-- Within a run nothing stands: a plain word comes before every word of it but the first. -/
theorem not_standsAt_within {first : Nat} (hlt : position < first)
    (hwithin : first < position + (plainWords (tokens.drop position)).length) :
    ¬predicate.StandsAt tokens first := by
  have hinside : ∀ index < (plainWords (tokens.drop position)).length,
      ∃ text, PlainAt tokens (position + index) text := fun index hindex =>
    ⟨_, (plainAt_drop position).mp (plainAt_plainWords (List.getElem?_eq_getElem hindex))⟩
  obtain ⟨word, hword⟩ := hinside (first - position) (by omega)
  obtain ⟨other, hother⟩ := hinside (first - position - 1) (by omega)
  have hhere : position + (first - position) = first - 1 + 1 := by omega
  have hprevious : position + (first - position - 1) = first - 1 := by omega
  have hfirst : first = first - 1 + 1 := by omega
  rw [hhere] at hword
  rw [hprevious] at hother
  rw [hfirst]
  exact fun hstands => hstands.not_plainAt hword other hother

/-- Where a token stands that is no plain word there can only stand its directive. -/
theorem standsAt_other {token : Token} (htoken : tokens[position]? = some token)
    (hother : token.plain? = none) :
    predicate.StandsAt tokens position ↔
      predicate ∈ (Predicate.date (token.dateMatch? position)).closed := by
  constructor
  · intro h
    cases h with
    | date hword hread =>
      rw [htoken, Option.some.injEq] at hword
      simp [hword, Token.dateMatch?, Token.text?, hread, closed]
    | run hsome hwords hbefore hbehind =>
      rename_i words
      obtain ⟨text, rest, rfl⟩ := List.exists_cons_of_ne_nil hsome
      obtain ⟨other, hsame, hplain⟩ := plainAt_iff.mp (hwords 0 text rfl)
      rw [Nat.add_zero, htoken, Option.some.injEq] at hsame
      rw [← hsame, hother] at hplain
      cases hplain
  · intro h
    cases hfound : token.dateMatch? position with
    | none =>
      rw [hfound, closed] at h
      cases h
    | some found =>
      rw [hfound, closed, List.mem_singleton] at h
      obtain ⟨⟨condition, day⟩, hread, rfl⟩ := Option.map_eq_some_iff.mp hfound
      obtain ⟨text, hword, hread⟩ := Option.bind_eq_some_iff.mp hread
      cases token with
      | stop => cases hword
      | word other =>
        cases hword
        rw [h]
        exact .date htoken hread

end Predicate

/-- The first of the tokens from an index on, and those behind it. -/
theorem getElem?_of_drop {tokens rest : List Token} {position : Nat} {token : Token}
    (h : tokens.drop position = token :: rest) :
    tokens[position]? = some token ∧ tokens.drop (position + 1) = rest := by
  constructor
  · rw [← Nat.add_zero position, ← List.getElem?_drop, h, List.getElem?_cons_zero]
  · rw [← List.drop_drop, h, List.drop_one, List.tail_cons]

/-- The predicates that are spelled from a position on are those that stand there. No run that
began before reaches it. -/
theorem mem_spelled {tokens rest : List Token} {position : Nat}
    (hrest : tokens.drop position = rest)
    (hbefore : ∀ before text, before + 1 = position → PlainAt tokens before text →
      ∀ other, ¬PlainAt tokens position other) {predicate : Predicate} :
    predicate ∈ spelled position rest ↔
      ∃ first, position ≤ first ∧ predicate.StandsAt tokens first := by
  fun_induction spelled position rest with
  | case1 position =>
    have hlength := List.drop_eq_nil_iff.mp hrest
    refine ⟨fun hm => absurd hm List.not_mem_nil, fun ⟨first, hle, hstands⟩ => ?_⟩
    have hlt := hstands.lt_length
    omega
  | case2 position token rest text hplain words ih =>
    obtain ⟨htoken, hnext⟩ := getElem?_of_drop hrest
    have hplainAt : PlainAt tokens position text := plainAt_iff.mpr ⟨token, htoken, hplain⟩
    have hhead : plainWords (tokens.drop position) = text :: words := by
      rw [hrest, plainWords_plain hplain]
    have hlength : (plainWords (tokens.drop position)).length = words.length + 1 := by
      rw [hhead, List.length_cons]
    have hrun := Predicate.standsAt_run hplainAt fun before other hlast h =>
      hbefore before other hlast h text hplainAt
    have hbehind : ∀ other, ¬PlainAt tokens (position + 1 + words.length) other := by
      intro other h
      have hnot := not_plainAt_length (tokens.drop position) other
      rw [hlength, plainAt_drop, Nat.add_comm words.length, ← Nat.add_assoc] at hnot
      exact hnot h
    have hlater : tokens.drop (position + 1 + words.length) = rest.drop words.length := by
      rw [← List.drop_drop, hnext]
    rw [List.mem_cons, ih hlater fun before text _ _ => hbehind, ← hhead]
    constructor
    · rintro (rfl | ⟨first, hle, hstands⟩)
      · exact ⟨position, Nat.le_refl position, hrun⟩
      · exact ⟨first, by omega, hstands⟩
    · rintro ⟨first, hle, hstands⟩
      rcases Nat.eq_or_lt_of_le hle with rfl | hlt
      · exact Or.inl (hstands.of_plain hplainAt)
      · refine Or.inr ⟨first, Nat.le_of_not_lt fun hwithin => ?_, hstands⟩
        exact Predicate.not_standsAt_within hlt (by omega) hstands
  | case3 position token rest hplain ih =>
    obtain ⟨htoken, hnext⟩ := getElem?_of_drop hrest
    have hnot : ∀ text, ¬PlainAt tokens position text := by
      intro text h
      obtain ⟨other, hother, hsome⟩ := plainAt_iff.mp h
      cases htoken.symm.trans hother
      rw [hplain] at hsome
      cases hsome
    have hcut : ∀ before text, before + 1 = position + 1 → PlainAt tokens before text →
        ∀ other, ¬PlainAt tokens (position + 1) other := by
      intro before text hlast h
      rw [Nat.succ.inj hlast] at h
      exact absurd h (hnot text)
    rw [List.mem_append, ih hnext hcut, ← Predicate.standsAt_other htoken hplain]
    constructor
    · rintro (hstands | ⟨first, hle, hstands⟩)
      · exact ⟨position, Nat.le_refl position, hstands⟩
      · exact ⟨first, by omega, hstands⟩
    · rintro ⟨first, hle, hstands⟩
      rcases Nat.eq_or_lt_of_le hle with rfl | hlt
      · exact Or.inl hstands
      · exact Or.inr ⟨first, hlt, hstands⟩

/-! ## The places of the predicates -/

namespace Predicate

/-- A run takes as many tokens as it has words. -/
theorem span?_run (text : String) (words : List String) (first : Nat) (ended : Bool) :
    (Predicate.text ⟨text :: words, first, ended⟩).span? =
      some (first, first + (words.length + 1)) := rfl

/-- Predicates of which each ends before the next begins take no token twice. -/
theorem eq_of_covers {predicates : List Predicate} (h : predicates.Pairwise Precedes)
    {one other : Predicate} (hone : one ∈ predicates) (hother : other ∈ predicates)
    {position : Nat} (hcovers : one.Covers position) (hcovers' : other.Covers position) :
    one = other := by
  obtain ⟨first, last, hspan, hle, hlt⟩ := hcovers
  obtain ⟨first', last', hspan', hle', hlt'⟩ := hcovers'
  induction predicates with
  | nil => cases hone
  | cons head rest ih =>
    obtain ⟨hhead, hrest⟩ := List.pairwise_cons.mp h
    rcases List.mem_cons.mp hone with rfl | hin
    · rcases List.mem_cons.mp hother with rfl | hin'
      · rfl
      · have hends := hhead other hin' first last first' last' hspan hspan'
        omega
    · rcases List.mem_cons.mp hother with rfl | hin'
      · have hends := hhead one hin first' last' first last hspan' hspan
        omega
      · exact ih hrest hin hin'

/-- A predicate takes no token that is dropped. -/
theorem StandsAt.not_dropped {tokens : List Token} {predicate : Predicate} {first position : Nat}
    (h : predicate.StandsAt tokens first) (hcovers : predicate.Covers position) {token : Token}
    (htoken : tokens[position]? = some token) : ¬token.IsDropped := by
  obtain ⟨begins, ends, hspan, hle, hlt⟩ := hcovers
  rw [h.span?_eq.1, Option.some.injEq, Prod.mk.injEq] at hspan
  obtain ⟨rfl, rfl⟩ := hspan
  rw [Token.isDropped_iff position]
  rintro ⟨hplain, hdate⟩
  cases h with
  | date hword hread =>
    have hsame : position = first := by
      rw [width] at hlt
      omega
    rw [hsame, hword, Option.some.injEq] at htoken
    rw [← htoken, Token.dateMatch?, Token.text?, Option.bind_eq_bind, Option.bind_some, hread]
      at hdate
    cases hdate
  | run hsome hwords hbefore hbehind =>
    rename_i words
    have hwithin : position < first + words.length := hlt
    have hindex : position - first < words.length := by omega
    have hword := hwords (position - first) _ (List.getElem?_eq_getElem hindex)
    rw [Nat.add_sub_cancel' hle] at hword
    obtain ⟨other, hother, hsome⟩ := plainAt_iff.mp hword
    cases htoken.symm.trans hother
    rw [hplain] at hsome
    cases hsome

end Predicate

/-- What is spelled from a position on begins there or later. -/
theorem le_of_mem_spelled {tokens : List Token} {position : Nat} {predicate : Predicate}
    (hm : predicate ∈ spelled position tokens) {first last : Nat}
    (hspan : predicate.span? = some (first, last)) : position ≤ first := by
  fun_induction spelled position tokens with
  | case1 position => cases hm
  | case2 position token rest text hplain words ih =>
    rcases List.mem_cons.mp hm with rfl | hm
    · rw [Predicate.span?_run, Option.some.injEq, Prod.mk.injEq] at hspan
      omega
    · have hle := ih hm
      omega
  | case3 position token rest hplain ih =>
    rcases List.mem_append.mp hm with hm | hm
    · cases hfound : token.dateMatch? position with
      | none =>
        rw [hfound, Predicate.closed] at hm
        cases hm
      | some found =>
        obtain ⟨read, -, rfl⟩ := Option.map_eq_some_iff.mp hfound
        rw [hfound, Predicate.closed, List.mem_singleton] at hm
        rw [hm] at hspan
        cases hspan
        exact Nat.le_refl position
    · have hle := ih hm
      omega

/-- The predicates are spelled in the order in which they stand. -/
theorem pairwise_spelled (position : Nat) (tokens : List Token) :
    (spelled position tokens).Pairwise Predicate.Precedes := by
  fun_induction spelled position tokens with
  | case1 position => exact .nil
  | case2 position token rest text hplain words ih =>
    refine List.pairwise_cons.mpr ⟨fun later hm first last first' last' hspan hspan' => ?_, ih⟩
    have hle := le_of_mem_spelled hm hspan'
    rw [Predicate.span?_run, Option.some.injEq, Prod.mk.injEq] at hspan
    omega
  | case3 position token rest hplain ih =>
    cases hfound : token.dateMatch? position with
    | none => exact ih
    | some found =>
      obtain ⟨read, -, rfl⟩ := Option.map_eq_some_iff.mp hfound
      refine List.pairwise_cons.mpr ⟨fun later hm first last first' last' hspan hspan' => ?_, ih⟩
      have hle := le_of_mem_spelled hm hspan'
      cases hspan
      exact hle

/-- Every token that is not dropped belongs to a predicate. -/
theorem exists_covers (position : Nat) (tokens : List Token) : ∀ index token,
    tokens[index]? = some token → ¬token.IsDropped →
      ∃ predicate ∈ spelled position tokens, predicate.Covers (position + index) := by
  fun_induction spelled position tokens with
  | case1 position => exact fun index token htoken => nomatch htoken
  | case2 position head rest text hplain words ih =>
    intro index token htoken hkept
    by_cases hin : index ≤ words.length
    · have hlast : position + index < position + (words.length + 1) := by omega
      exact ⟨_, List.mem_cons_self, position, _, Predicate.span?_run text words position true,
        Nat.le_add_right position index, hlast⟩
    · -- The token stands behind the run.
      obtain ⟨behind, rfl⟩ := Nat.exists_eq_add_of_le' (Nat.lt_of_not_le hin)
      have hlater : (rest.drop words.length)[behind]? = some token := by
        rw [List.getElem?_drop, Nat.add_comm, ← htoken]
        exact (List.getElem?_cons_succ (a := head)).symm
      obtain ⟨predicate, hm, hcovers⟩ := ih behind token hlater hkept
      have hsame : position + 1 + words.length + behind =
          position + (behind + (words.length + 1)) := by omega
      exact ⟨predicate, List.mem_cons_of_mem _ hm, hsame ▸ hcovers⟩
  | case3 position head rest hplain ih =>
    intro index token htoken hkept
    cases index with
    | zero =>
      cases htoken
      rw [Token.isDropped_iff position, not_and] at hkept
      obtain ⟨found, hfound⟩ := Option.ne_none_iff_exists'.mp (hkept hplain)
      obtain ⟨read, -, rfl⟩ := Option.map_eq_some_iff.mp hfound
      have hm : .date (some ⟨read.1, read.2, position⟩) ∈
          (Predicate.date (head.dateMatch? position)).closed := by
        rw [hfound]
        exact List.mem_singleton_self _
      exact ⟨_, List.mem_append_left _ hm, position, position + 1, rfl, Nat.le_refl _,
        Nat.lt_succ_self _⟩
    | succ index =>
      obtain ⟨predicate, hm, hcovers⟩ := ih index token htoken hkept
      rw [Nat.add_right_comm] at hcovers
      exact ⟨predicate, List.mem_append_right _ hm, hcovers⟩

/-- Scanning recognises what the tokens spell, and nothing else. For any tokens with a stop behind
them, a scan ends after at most three offers for each token, and it ends with the predicates of the
tokens. Those are the directives that stand among the tokens and the runs of plain words that
cannot be made longer, each with the indices of its tokens, in increasing order. A token is either
dropped, and then it belongs to no predicate, or it belongs to exactly one. -/
theorem predicates_spelled (body : List Token) :
    let tokens := body ++ [.stop]
    let predicates := predicatesOf tokens
    (∃ offers ≤ 3 * tokens.length, ∀ more,
      (Scan.run tokens (offers + more) .start).cursor = tokens.length ∧
        (Scan.run tokens (offers + more) .start).complete = predicates) ∧
    (∀ predicate, predicate ∈ predicates ↔
      ∃ position, predicate.StandsAt tokens position) ∧
    (∀ (predicate : Predicate) position, predicate.StandsAt tokens position →
      predicate.span? = some (position, position + predicate.width) ∧ 0 < predicate.width) ∧
    predicates.Pairwise Predicate.Precedes ∧
    ∀ position token, tokens[position]? = some token →
      (token.IsDropped ∧ ∀ predicate ∈ predicates, ¬predicate.Covers position) ∨
      (¬token.IsDropped ∧ ∃! predicate, predicate ∈ predicates ∧ predicate.Covers position) := by
  intro tokens predicates
  have hspelled : predicates = spelled 0 tokens := predicatesOf_concat_stop body
  have hmem : ∀ predicate, predicate ∈ predicates ↔
      ∃ position, predicate.StandsAt tokens position := by
    intro predicate
    have hm : predicate ∈ spelled 0 tokens ↔
        ∃ first, 0 ≤ first ∧ predicate.StandsAt tokens first :=
      mem_spelled rfl fun before text hlast => absurd hlast (Nat.succ_ne_zero before)
    simpa only [hspelled, Nat.zero_le, true_and] using hm
  have hordered : predicates.Pairwise Predicate.Precedes := hspelled ▸ pairwise_spelled 0 tokens
  refine ⟨?_, hmem, fun predicate position hstands => hstands.span?_eq, hordered,
    fun position token htoken => ?_⟩
  · obtain ⟨offers, hle, hcursor, hcomplete⟩ := Scan.run_ends tokens
    refine ⟨offers, hle, fun more => ?_⟩
    rw [Scan.run_add, Scan.run_of_ended hcursor]
    exact ⟨hcursor, hcomplete⟩
  · by_cases hdropped : token.IsDropped
    · refine Or.inl ⟨hdropped, fun predicate hm hcovers => ?_⟩
      obtain ⟨first, hstands⟩ := (hmem predicate).mp hm
      exact hstands.not_dropped hcovers htoken hdropped
    · obtain ⟨predicate, hm, hcovers⟩ := exists_covers 0 tokens position token htoken hdropped
      rw [Nat.zero_add] at hcovers
      rw [← hspelled] at hm
      refine Or.inr ⟨hdropped, predicate, ⟨hm, hcovers⟩, fun other hother => ?_⟩
      exact Predicate.eq_of_covers hordered hother.1 hm hother.2 hcovers

end MediaGrid
