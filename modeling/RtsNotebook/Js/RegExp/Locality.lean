import RtsNotebook.Js.RegExp.Progress

/-!
# Matching within lines

A pattern without `^`, `$` and back references whose characters are never a line
feed does not see past one.  So it matches within a piece of a text that stands
between line feeds as it does in the piece alone.
-/

namespace RtsNotebook.Js.RegExp

def lineFeed : UInt16 := unit '\n'

/-- The pattern does not see past a line feed. -/
def Node.isLocal (canonicalize : Option (UInt16 → UInt16)) : Node → Bool
  | empty => true
  | set characters =>
      !characters.holds { text := [], canonicalize := canonicalize } lineFeed
  | assertion kind => kind = .wordBoundary || kind = .notWordBoundary
  | seq first second =>
      first.isLocal canonicalize && second.isLocal canonicalize
  | alt first second =>
      first.isLocal canonicalize && second.isLocal canonicalize
  | group _ body => body.isLocal canonicalize
  | look _ _ body => body.isLocal canonicalize
  | repeated _ _ _ body => body.isLocal canonicalize
  | backReference _ => false

/-- What is before a piece ends with a line feed, and what is behind it begins
with one, if there is anything. -/
structure Bounded (before behind : JsString) : Prop where
  ends : before = [] ∨ ∃ rest, before = rest ++ [lineFeed]
  begins : behind = [] ∨ ∃ rest, behind = lineFeed :: rest

/-- A range that is seen from an earlier index. -/
def shiftRange (offset : Nat) (range : Nat × Nat) : Nat × Nat :=
  (offset + range.1, offset + range.2)

/-- A state within a piece, seen from the whole text. -/
def MatchState.shift (offset : Nat) (state : MatchState) : MatchState where
  index := offset + state.index
  captures := state.captures.map fun captured =>
    captured.map (shiftRange offset)

section

variable {canonicalize : Option (UInt16 → UInt16)}
  {before piece behind : JsString} {direction : Direction} {node : Node}
  {state : MatchState} {index : Nat}

theorem shift_capture (offset group entered : Nat) (state : MatchState) :
    (state.capture group entered).shift offset =
      (state.shift offset).capture group (offset + entered) := by
  simp only [MatchState.capture, MatchState.shift, List.map_set,
    Option.map_some, shiftRange, Nat.add_min_add_left, Nat.add_max_add_left]

theorem shift_forget (offset : Nat) (state : MatchState) (groups : List Nat) :
    (state.forget groups).shift offset =
      (state.shift offset).forget groups := by
  have folded (captures : List (Option (Nat × Nat))) :
      (groups.foldl (fun captures group => captures.set group none)
        captures).map (fun captured => captured.map (shiftRange offset)) =
      groups.foldl (fun captures group => captures.set group none)
        (captures.map fun captured => captured.map (shiftRange offset)) := by
    induction groups generalizing captures with
    | nil => rfl
    | cons group rest inductionHypothesis =>
        rw [List.foldl_cons, List.foldl_cons, inductionHypothesis,
          List.map_set, Option.map_none]
  simp only [MatchState.forget, MatchState.shift, folded]

/-! ### Characters -/

/-- The code unit at an index of a piece; behind it there is a line feed or
nothing. -/
theorem getElem?_within (bounded : Bounded before behind)
    (inPiece : index ≤ piece.length) :
    (before ++ piece ++ behind)[before.length + index]? = piece[index]? ∨
      (piece[index]? = none ∧
        (before ++ piece ++ behind)[before.length + index]? =
          some lineFeed) := by
  rw [List.append_assoc, List.getElem?_append_right (Nat.le_add_right _ _),
    Nat.add_sub_cancel_left]
  rcases Nat.lt_or_eq_of_le inPiece with below | rfl
  · exact Or.inl (List.getElem?_append_left below)
  · have ended : piece[piece.length]? = none :=
      List.getElem?_eq_none (Nat.le_refl _)
    rw [List.getElem?_append_right (Nat.le_refl _), Nat.sub_self, ended]
    rcases bounded.begins with rfl | ⟨rest, rfl⟩
    · exact Or.inl rfl
    · exact Or.inr ⟨rfl, rfl⟩

/-- Before a piece there is a line feed or nothing. -/
theorem getElem?_before (bounded : Bounded before behind) {last : Nat}
    (isLast : before.length = last + 1) :
    (before ++ piece ++ behind)[last]? = some lineFeed := by
  rcases bounded.ends with rfl | ⟨rest, rfl⟩
  · cases isLast
  · rw [List.length_append, List.length_singleton] at isLast
    obtain rfl : rest.length = last := by omega
    simp

/-- The next code unit within a piece; beyond it there is a line feed or
nothing. -/
theorem next?_within (bounded : Bounded before behind)
    (inPiece : index ≤ piece.length) :
    Input.next?
        { text := before ++ piece ++ behind, canonicalize := canonicalize }
        (before.length + index) direction =
      (Input.next? { text := piece, canonicalize := canonicalize } index
        direction).map (fun output => (output.1, before.length + output.2)) ∨
    (Input.next? { text := piece, canonicalize := canonicalize } index
        direction = none ∧
      ∃ other, Input.next?
        { text := before ++ piece ++ behind, canonicalize := canonicalize }
        (before.length + index) direction = some (lineFeed, other)) := by
  cases direction with
  | forward =>
      simp only [Input.next?, Option.map_map]
      rcases getElem?_within bounded inPiece with same | ⟨ended, isFeed⟩
      · rw [same]
        exact Or.inl rfl
      · rw [ended, isFeed]
        exact Or.inr ⟨rfl, _, rfl⟩
  | backward =>
      cases index with
      | zero =>
          cases length : before.length with
          | zero => exact Or.inl rfl
          | succ last =>
              refine Or.inr ⟨rfl, last, ?_⟩
              simp only [Input.next?, getElem?_before bounded length,
                Option.map_some]
      | succ last =>
          rw [← Nat.add_assoc]
          simp only [Input.next?, Option.map_map]
          rcases getElem?_within bounded (Nat.le_of_succ_le inPiece) with
            same | ⟨ended, _⟩
          · rw [same]
            exact Or.inl rfl
          · rw [List.getElem?_eq_none_iff] at ended
            omega

/-! ### Word boundaries -/

theorem wordAt_within (bounded : Bounded before behind)
    (inPiece : index ≤ piece.length) :
    wordAt (before ++ piece ++ behind) (before.length + index) =
      wordAt piece index := by
  rw [wordAt, wordAt]
  rcases getElem?_within bounded inPiece with same | ⟨ended, isFeed⟩
  · rw [same]
  · rw [ended, isFeed]
    decide

theorem wordBefore_within (bounded : Bounded before behind)
    (inPiece : index ≤ piece.length) :
    wordBefore (before ++ piece ++ behind) (before.length + index) =
      wordBefore piece index := by
  cases index with
  | zero =>
      have noWord : wordBefore piece 0 = false := rfl
      rw [noWord]
      cases length : before.length with
      | zero => rfl
      | succ last =>
          have isFeed : (before ++ piece ++ behind)[last]? = some lineFeed :=
            getElem?_before bounded length
          rw [wordBefore, Nat.add_zero, Nat.add_sub_cancel, wordAt, isFeed]
          rfl
  | succ last =>
      have word := wordAt_within bounded (Nat.le_of_succ_le inPiece)
      rw [wordBefore, wordBefore, ← Nat.add_assoc, Nat.add_sub_cancel,
        Nat.add_sub_cancel, word]
      simp

theorem isBoundary_within (bounded : Bounded before behind)
    (inPiece : index ≤ piece.length) :
    isBoundary (before ++ piece ++ behind) (before.length + index) =
      isBoundary piece index := by
  rw [isBoundary, isBoundary, wordAt_within bounded inPiece,
    wordBefore_within bounded inPiece]

/-! ### Repetitions -/

/-- A round in the whole text is the one in the piece, seen from there. -/
def Shifted (offset length : Nat)
    (whole round : MatchState → List MatchState) : Prop :=
  ∀ state : MatchState, state.index ≤ length →
    whole (state.shift offset) = (round state).map (MatchState.shift offset)

section

variable {offset length fuel min : Nat} {max : Option Nat} {greedy : Bool}
  {whole round : MatchState → List MatchState}

theorem Shifted.flatMap {wholeNext next : MatchState → List MatchState}
    (shifted : Shifted offset length whole round)
    (shiftedNext : Shifted offset length wholeNext next)
    (moves : Moves length direction round) :
    Shifted offset length (fun state => (whole state).flatMap wholeNext)
      (fun state => (round state).flatMap next) := by
  intro state inPiece
  simp only [shifted state inPiece, List.flatMap_map, List.map_flatMap]
  refine List.flatMap_congr fun middle isMiddle => ?_
  exact shiftedNext middle (moves state middle inPiece isMiddle).1

theorem shifted_repeatFreely (shifted : Shifted offset length whole round)
    (moves : Moves length direction round) :
    Shifted offset length (repeatFreely whole greedy fuel max)
      (repeatFreely round greedy fuel max) := by
  induction fuel generalizing max with
  | zero => exact fun state _ => rfl
  | succ fuel inductionHypothesis =>
      intro state inPiece
      have more : (whole (state.shift offset)).flatMap (fun next =>
            if next.index = (state.shift offset).index then
              []
            else
              repeatFreely whole greedy fuel (max.map (· - 1)) next) =
          ((round state).flatMap fun next =>
            if next.index = state.index then
              []
            else
              repeatFreely round greedy fuel (max.map (· - 1)) next).map
                (MatchState.shift offset) := by
        rw [shifted state inPiece, List.flatMap_map, List.map_flatMap]
        refine List.flatMap_congr fun next isNext => ?_
        have inPieceNext := (moves state next inPiece isNext).1
        have sameIndex : (next.shift offset).index =
            (state.shift offset).index ↔ next.index = state.index := by
          simp only [MatchState.shift]
          omega
        by_cases same : next.index = state.index
        · rw [if_pos (sameIndex.mpr same), if_pos same]
          rfl
        · rw [if_neg (mt sameIndex.mp same), if_neg same]
          exact inductionHypothesis next inPieceNext
      rw [repeatFreely, repeatFreely, more]
      by_cases ended : max = some 0
      · rw [if_pos ended, if_pos ended]
        rfl
      · rw [if_neg ended, if_neg ended]
        cases greedy with
        | true => simp
        | false => simp

/-- More fuel than a piece has code units changes nothing. -/
theorem repeatFreely_of_le (moves : Moves length direction round)
    (inPiece : state.index ≤ length) (enough : length ≤ fuel) :
    repeatFreely round greedy fuel max state =
      repeatFreely round greedy length max state := by
  obtain ⟨extra, rfl⟩ := Nat.exists_eq_add_of_le enough
  clear enough
  induction extra with
  | zero => rfl
  | succ extra inductionHypothesis =>
      have left : direction.left length state.index ≤ length + extra := by
        cases direction with
        | forward =>
            exact Nat.le_trans (Nat.sub_le _ _) (Nat.le_add_right _ _)
        | backward => exact Nat.le_trans inPiece (Nat.le_add_right _ _)
      rw [← Nat.add_assoc, repeatFreely_succ moves max inPiece left,
        inductionHypothesis]

theorem shifted_repeatMatcher (shifted : Shifted offset length whole round)
    (moves : Moves length direction round) (enough : length ≤ fuel) :
    Shifted offset length (repeatMatcher whole greedy fuel min max)
      (repeatMatcher round greedy length min max) := by
  induction min generalizing max with
  | zero =>
      intro state inPiece
      rw [repeatMatcher, repeatMatcher,
        shifted_repeatFreely shifted moves state inPiece,
        repeatFreely_of_le moves inPiece enough]
  | succ min inductionHypothesis =>
      exact shifted.flatMap inductionHypothesis moves

end

/-! ### Matchers -/

/-- A set that does not hold a line feed, in a piece. -/
theorem shifted_set {characters : CharSet}
    (bounded : Bounded before behind)
    (isLocal : (Node.set characters).isLocal canonicalize = true) :
    Shifted before.length piece.length
      ((Node.set characters).matches
        { text := before ++ piece ++ behind, canonicalize := canonicalize }
        direction)
      ((Node.set characters).matches
        { text := piece, canonicalize := canonicalize } direction) := by
  intro state inPiece
  -- What a set holds does not depend on the text.
  have held (text : JsString) (codeUnit : UInt16) :
      characters.holds { text := text, canonicalize := canonicalize }
          codeUnit =
        characters.holds { text := [], canonicalize := canonicalize }
          codeUnit := rfl
  have noFeed : characters.holds
      { text := [], canonicalize := canonicalize } lineFeed = false := by
    simpa [Node.isLocal] using isLocal
  rw [Node.matches, Node.matches]
  have sameIndex : (state.shift before.length).index =
      before.length + state.index := rfl
  rw [sameIndex]
  rcases @next?_within canonicalize before piece behind direction state.index
      bounded inPiece with same | ⟨ended, other, isFeed⟩
  · rw [same]
    cases Input.next? { text := piece, canonicalize := canonicalize }
        state.index direction with
    | none => rfl
    | some output =>
        simp only [Option.map_some, held]
        split
        · rfl
        · rfl
  · rw [isFeed, ended]
    simp only [held, noFeed, Bool.false_eq_true, if_false, List.map_nil]

theorem Node.moves_within (node : Node) (direction : Direction) :
    Moves piece.length direction
      (node.matches { text := piece, canonicalize := canonicalize }
        direction) :=
  @Node.moves { text := piece, canonicalize := canonicalize } node direction

/-- A local pattern matches in a piece of a text as in the piece alone. -/
theorem Node.shifted (bounded : Bounded before behind)
    (isLocal : node.isLocal canonicalize = true) (direction : Direction) :
    Shifted before.length piece.length
      (node.matches
        { text := before ++ piece ++ behind, canonicalize := canonicalize }
        direction)
      (node.matches { text := piece, canonicalize := canonicalize }
        direction) := by
  induction node generalizing direction with
  | empty => exact fun state _ => rfl
  | set characters => exact shifted_set bounded isLocal
  | assertion kind =>
      intro state inPiece
      have sameAssertion : kind.holds (before ++ piece ++ behind)
          (before.length + state.index) = kind.holds piece state.index := by
        cases kind with
        | inputStart => cases isLocal
        | inputEnd => cases isLocal
        | wordBoundary => exact isBoundary_within bounded inPiece
        | notWordBoundary =>
            exact congrArg Bool.not (isBoundary_within bounded inPiece)
      have sameIndex : (state.shift before.length).index =
          before.length + state.index := rfl
      rw [Node.matches, Node.matches, sameIndex, sameAssertion]
      split
      · rfl
      · rfl
  | seq first second shiftedFirst shiftedSecond =>
      obtain ⟨firstLocal, secondLocal⟩ := Bool.and_eq_true_iff.mp isLocal
      cases direction with
      | forward =>
          exact (shiftedFirst firstLocal .forward).flatMap
            (shiftedSecond secondLocal .forward)
            (Node.moves_within first .forward)
      | backward =>
          exact (shiftedSecond secondLocal .backward).flatMap
            (shiftedFirst firstLocal .backward)
            (Node.moves_within second .backward)
  | alt first second shiftedFirst shiftedSecond =>
      obtain ⟨firstLocal, secondLocal⟩ := Bool.and_eq_true_iff.mp isLocal
      intro state inPiece
      rw [Node.matches, Node.matches,
        shiftedFirst firstLocal direction state inPiece,
        shiftedSecond secondLocal direction state inPiece, List.map_append]
  | group index body shiftedBody =>
      intro state inPiece
      rw [Node.matches, Node.matches,
        shiftedBody isLocal direction state inPiece, List.map_map,
        List.map_map]
      refine List.map_congr_left fun next _ => ?_
      exact (shift_capture before.length index state.index next).symm
  | look lookBehind negative body shiftedBody =>
      intro state inPiece
      rw [Node.matches, Node.matches, shiftedBody isLocal _ state inPiece]
      cases body.matches { text := piece, canonicalize := canonicalize }
          (if lookBehind then .backward else .forward) state with
      | nil =>
          cases negative with
          | true => rfl
          | false => rfl
      | cons found others =>
          cases negative with
          | true => rfl
          | false => rfl
  | repeated min max greedy body shiftedBody =>
      have round : Shifted before.length piece.length
          (fun state => body.matches
            { text := before ++ piece ++ behind, canonicalize := canonicalize }
            direction (state.forget body.groups))
          (fun state => body.matches
            { text := piece, canonicalize := canonicalize } direction
            (state.forget body.groups)) := by
        intro state inPiece
        have moved := shiftedBody isLocal direction
          (state.forget body.groups) inPiece
        rw [shift_forget] at moved
        exact moved
      have moves : Moves piece.length direction fun state =>
          body.matches { text := piece, canonicalize := canonicalize }
            direction (state.forget body.groups) :=
        fun state next inPiece isNext =>
          Node.moves_within body direction (state.forget body.groups) next
            inPiece isNext
      refine shifted_repeatMatcher round moves ?_
      simp only [List.length_append]
      omega
  | backReference group => cases isLocal

end

/-! ### Searching -/

/-- The expression does not see past a line feed. -/
def Expression.IsLocal (regex : Expression) : Prop :=
  regex.pattern.node.isLocal regex.canonicalize = true

section

variable {regex : Expression} {before piece behind : JsString}

/-- A local expression matches in a piece of a text as in the piece alone. -/
theorem Expression.matchAt_within (isLocal : regex.IsLocal)
    (bounded : Bounded before behind) {start : Nat}
    (inPiece : start ≤ piece.length) :
    regex.matchAt (before ++ piece ++ behind) (before.length + start) =
      (regex.matchAt piece start).map fun finish =>
        before.length + finish := by
  have shifted := Node.shifted bounded isLocal .forward
    { index := start
      captures := List.replicate regex.pattern.groups none } inPiece
  rw [MatchState.shift, List.map_replicate, Option.map_none] at shifted
  rw [matchAt, matchAt, input, input, shifted, List.head?_map, Option.map_map,
    Option.map_map]
  rfl

end

end RtsNotebook.Js.RegExp
