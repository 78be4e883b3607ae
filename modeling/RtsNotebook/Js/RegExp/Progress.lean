import RtsNotebook.Js.RegExp.Matcher

/-!
# The indices of a match

A matcher moves in its direction and stays within the text.  So a repetition
takes no more rounds than the text has code units, and a match begins and ends
within the text.
-/

namespace RtsNotebook.Js.RegExp

/-- The second index is not behind the first one, seen in the direction. -/
def Direction.Precedes : Direction → Nat → Nat → Prop
  | forward, first, second => first ≤ second
  | backward, first, second => second ≤ first

/-- The code units of a text that are left in a direction. -/
def Direction.left (length : Nat) : Direction → Nat → Nat
  | forward, index => length - index
  | backward, index => index

section

variable {direction : Direction} {input : Input} {length : Nat}
  {state next : MatchState} {node : Node} {greedy : Bool}
  {round : MatchState → List MatchState}

theorem Direction.Precedes.refl (index : Nat) :
    direction.Precedes index index := by
  cases direction with
  | forward => exact Nat.le_refl index
  | backward => exact Nat.le_refl index

theorem Direction.Precedes.trans {first second third : Nat}
    (before : direction.Precedes first second)
    (behind : direction.Precedes second third) :
    direction.Precedes first third := by
  cases direction with
  | forward => exact Nat.le_trans before behind
  | backward => exact Nat.le_trans behind before

/-- A later index within the text leaves less. -/
theorem Direction.left_lt {first second : Nat}
    (moves : direction.Precedes first second) (different : second ≠ first)
    (inText : second ≤ length) :
    direction.left length second < direction.left length first := by
  cases direction with
  | forward =>
      have before : first ≤ second := moves
      simp only [left]
      omega
  | backward => exact Nat.lt_of_le_of_ne moves different

/-- The states stay within a text and move in a direction. -/
def Moves (length : Nat) (direction : Direction)
    (round : MatchState → List MatchState) : Prop :=
  ∀ state next, state.index ≤ length → next ∈ round state →
    next.index ≤ length ∧ direction.Precedes state.index next.index

/-- One matcher after the other. -/
theorem Moves.flatMap {following : MatchState → List MatchState}
    (moves : Moves length direction round)
    (moveOn : Moves length direction following) :
    Moves length direction fun state => (round state).flatMap following := by
  intro state next inText isNext
  obtain ⟨middle, isMiddle, isNext⟩ := List.mem_flatMap.mp isNext
  obtain ⟨middleInText, before⟩ := moves state middle inText isMiddle
  obtain ⟨nextInText, behind⟩ := moveOn middle next middleInText isNext
  exact ⟨nextInText, before.trans behind⟩

theorem moves_repeatFreely (moves : Moves length direction round)
    (fuel : Nat) (max : Option Nat) :
    Moves length direction (repeatFreely round greedy fuel max) := by
  induction fuel generalizing max with
  | zero =>
      intro state next inText isNext
      rw [repeatFreely, List.mem_singleton] at isNext
      rw [isNext]
      exact ⟨inText, .refl _⟩
  | succ fuel inductionHypothesis =>
      intro state next inText isNext
      have stays : next = state →
          next.index ≤ length ∧ direction.Precedes state.index next.index := by
        rintro rfl
        exact ⟨inText, .refl _⟩
      have goesOn : next ∈ ((round state).flatMap fun middle =>
          if middle.index = state.index then
            []
          else
            repeatFreely round greedy fuel (max.map (· - 1)) middle) →
          next.index ≤ length ∧ direction.Precedes state.index next.index := by
        intro isMore
        obtain ⟨middle, isMiddle, isNext⟩ := List.mem_flatMap.mp isMore
        obtain ⟨middleInText, before⟩ := moves state middle inText isMiddle
        by_cases same : middle.index = state.index
        · rw [if_pos same] at isNext
          cases isNext
        · rw [if_neg same] at isNext
          obtain ⟨nextInText, behind⟩ :=
            inductionHypothesis _ middle next middleInText isNext
          exact ⟨nextInText, before.trans behind⟩
      rw [repeatFreely] at isNext
      by_cases ends : max = some 0
      · rw [if_pos ends, List.mem_singleton] at isNext
        exact stays isNext
      · rw [if_neg ends] at isNext
        cases greedy with
        | true =>
            rcases List.mem_append.mp isNext with isMore | isState
            · exact goesOn isMore
            · exact stays (List.mem_singleton.mp isState)
        | false =>
            rcases List.mem_cons.mp isNext with isState | isMore
            · exact stays isState
            · exact goesOn isMore

theorem moves_repeatMatcher (moves : Moves length direction round)
    (fuel min : Nat) (max : Option Nat) :
    Moves length direction (repeatMatcher round greedy fuel min max) := by
  induction min generalizing max with
  | zero => exact moves_repeatFreely moves fuel max
  | succ min inductionHypothesis => exact moves.flatMap (inductionHypothesis _)

/-- One more round than there are code units left changes nothing. -/
theorem repeatFreely_succ (moves : Moves length direction round)
    {fuel : Nat} (max : Option Nat) (inText : state.index ≤ length)
    (enough : direction.left length state.index ≤ fuel) :
    repeatFreely round greedy (fuel + 1) max state =
      repeatFreely round greedy fuel max state := by
  induction fuel generalizing max state with
  | zero =>
      have noRound : (round state).flatMap (fun next =>
          if next.index = state.index then
            []
          else
            repeatFreely round greedy 0 (max.map (· - 1)) next) = [] := by
        refine List.flatMap_eq_nil_iff.mpr fun next isNext => ?_
        obtain ⟨nextInText, before⟩ := moves state next inText isNext
        refine if_pos (by_contra fun different => ?_)
        have less := Direction.left_lt before different nextInText
        omega
      conv_lhs => rw [repeatFreely, noRound]
      simp only [List.nil_append, ite_self]
      rfl
  | succ fuel inductionHypothesis =>
      have sameRounds : (round state).flatMap (fun next =>
          if next.index = state.index then
            []
          else
            repeatFreely round greedy (fuel + 1) (max.map (· - 1)) next) =
          (round state).flatMap fun next =>
            if next.index = state.index then
              []
            else
              repeatFreely round greedy fuel (max.map (· - 1)) next := by
        refine List.flatMap_congr fun next isNext => ?_
        by_cases same : next.index = state.index
        · rw [if_pos same, if_pos same]
        · obtain ⟨nextInText, before⟩ := moves state next inText isNext
          have less := Direction.left_lt before same nextInText
          rw [if_neg same, if_neg same]
          exact inductionHypothesis _ nextInText (by omega)
      rw [repeatFreely, sameRounds]
      rfl

/-- The clauses of `RepeatMatcher` for a repetition without required rounds. -/
theorem repeatFreely_unfold (moves : Moves length direction round)
    (max : Option Nat) (inText : state.index ≤ length) :
    repeatFreely round greedy length max state =
      if max = some 0 then
        [state]
      else
        let more := (round state).flatMap fun next =>
          if next.index = state.index then
            []
          else
            repeatFreely round greedy length (max.map (· - 1)) next
        if greedy then more ++ [state] else state :: more := by
  have enough : direction.left length state.index ≤ length := by
    cases direction with
    | forward => exact Nat.sub_le _ _
    | backward => exact inText
  rw [← repeatFreely_succ moves max inText enough]
  rfl

/-! ### Matchers -/

theorem next?_moves {index : Nat} {output : UInt16 × Nat}
    (isNext : input.next? index direction = some output) :
    output.2 ≤ input.text.length ∧ direction.Precedes index output.2 := by
  cases direction with
  | forward =>
      obtain ⟨codeUnit, present, rfl⟩ := Option.map_eq_some_iff.mp isNext
      obtain ⟨below, _⟩ := List.getElem?_eq_some_iff.mp present
      exact ⟨below, Nat.le_succ index⟩
  | backward =>
      cases index with
      | zero => cases isNext
      | succ before =>
          obtain ⟨codeUnit, present, rfl⟩ := Option.map_eq_some_iff.mp isNext
          obtain ⟨below, _⟩ := List.getElem?_eq_some_iff.mp present
          exact ⟨Nat.le_of_lt below, Nat.le_succ before⟩

theorem add_length_le_of_hasAt {captured : JsString} {index : Nat}
    (inText : index ≤ input.text.length)
    (found : input.hasAt captured index = true) :
    index + captured.length ≤ input.text.length := by
  unfold Input.hasAt at found
  rw [Bool.and_eq_true, decide_eq_true_eq, List.length_take,
    List.length_drop] at found
  have sameLength := found.1
  omega

theorem moves_backReferenceMatcher (group : Nat) :
    Moves input.text.length direction
      (backReferenceMatcher input group direction) := by
  intro state next inText isNext
  unfold backReferenceMatcher at isNext
  split at isNext
  · rw [List.mem_singleton.mp isNext]
    exact ⟨inText, .refl _⟩
  · next first last isCaptured =>
      dsimp only at isNext
      generalize (input.text.drop first).take (last - first) = captured
        at isNext
      cases direction with
      | forward =>
          by_cases found : input.hasAt captured state.index = true
          · rw [if_pos found] at isNext
            rw [List.mem_singleton.mp isNext]
            exact ⟨add_length_le_of_hasAt inText found, Nat.le_add_right _ _⟩
          · rw [if_neg found] at isNext
            cases isNext
      | backward =>
          dsimp only at isNext
          split at isNext
          · rw [List.mem_singleton.mp isNext]
            exact ⟨Nat.le_trans (Nat.sub_le _ _) inText, Nat.sub_le _ _⟩
          · cases isNext

/-- Every matcher stays within the text and moves in its direction. -/
theorem Node.moves (node : Node) (direction : Direction) :
    Moves input.text.length direction (node.matches input direction) := by
  induction node generalizing direction with
  | empty =>
      intro state next inText isNext
      rw [List.mem_singleton.mp isNext]
      exact ⟨inText, .refl _⟩
  | set characters =>
      intro state next inText isNext
      rw [Node.matches] at isNext
      cases isRead : input.next? state.index direction with
      | none =>
          rw [isRead] at isNext
          cases isNext
      | some output =>
          rw [isRead] at isNext
          by_cases held : characters.holds input output.1 = true
          · simp only [if_pos held, List.mem_singleton] at isNext
            rw [isNext]
            exact next?_moves isRead
          · simp only [if_neg held, List.not_mem_nil] at isNext
  | assertion kind =>
      intro state next inText isNext
      rw [Node.matches] at isNext
      by_cases held : kind.holds input.text state.index = true
      · rw [if_pos held, List.mem_singleton] at isNext
        rw [isNext]
        exact ⟨inText, .refl _⟩
      · rw [if_neg held] at isNext
        cases isNext
  | seq first second moveFirst moveSecond =>
      cases direction with
      | forward => exact (moveFirst .forward).flatMap (moveSecond .forward)
      | backward => exact (moveSecond .backward).flatMap (moveFirst .backward)
  | alt first second moveFirst moveSecond =>
      intro state next inText isNext
      rw [Node.matches] at isNext
      rcases List.mem_append.mp isNext with isNext | isNext
      · exact moveFirst direction state next inText isNext
      · exact moveSecond direction state next inText isNext
  | group index body moveBody =>
      intro state next inText isNext
      obtain ⟨found, isFound, rfl⟩ := List.mem_map.mp isNext
      exact moveBody direction state found inText isFound
  | look behind negative body moveBody =>
      intro state next inText isNext
      have sameIndex : next.index = state.index := by
        rw [Node.matches] at isNext
        split at isNext
        · cases negative with
          | true =>
              rw [List.mem_singleton.mp isNext]
          | false => cases isNext
        · cases negative with
          | true => cases isNext
          | false =>
              rw [List.mem_singleton.mp isNext]
      rw [sameIndex]
      exact ⟨inText, .refl _⟩
  | repeated min max greedy body moveBody =>
      have moveRound : Moves input.text.length direction fun state =>
          body.matches input direction (state.forget body.groups) :=
        fun state next inText isNext =>
          moveBody direction (state.forget body.groups) next inText isNext
      exact moves_repeatMatcher moveRound _ min max
  | backReference group => exact moves_backReferenceMatcher group

end

/-! ### Searching -/

section

variable {regex : Expression} {text : JsString}
  {lastIndex start finish : Nat}

theorem Expression.matchAt_bounds (inText : start ≤ text.length)
    (isMatch : regex.matchAt text start = some finish) :
    start ≤ finish ∧ finish ≤ text.length := by
  obtain ⟨state, isFirst, rfl⟩ := Option.map_eq_some_iff.mp isMatch
  have isState := List.mem_of_mem_head? (Option.mem_def.mpr isFirst)
  obtain ⟨stateInText, before⟩ :=
    Node.moves regex.pattern.node .forward _ state inText isState
  exact ⟨before, stateInText⟩

/-- The first index of a range where something is found. -/
theorem findSome?_range'_eq_some {Value : Type*} {find : Nat → Option Value}
    {first count : Nat} {value : Value} :
    (List.range' first count).findSome? find = some value ↔
      ∃ index, first ≤ index ∧ index < first + count ∧
        find index = some value ∧
          ∀ before, first ≤ before → before < index → find before = none := by
  induction count generalizing first with
  | zero =>
      simp only [List.range'_zero, List.findSome?_nil, reduceCtorEq, false_iff]
      rintro ⟨index, atLeast, below, _⟩
      omega
  | succ count inductionHypothesis =>
      rw [List.range'_succ, List.findSome?_cons]
      cases found : find first with
      | some other =>
          constructor
          · intro isValue
            refine ⟨first, Nat.le_refl _, by omega, found.trans isValue, ?_⟩
            intro before atLeast below
            omega
          · rintro ⟨index, atLeast, _, isValue, isFirst⟩
            rcases Nat.eq_or_lt_of_le atLeast with rfl | later
            · exact found.symm.trans isValue
            · rw [isFirst first (Nat.le_refl _) later] at found
              cases found
      | none =>
          rw [inductionHypothesis]
          constructor
          · rintro ⟨index, atLeast, below, isValue, isFirst⟩
            refine ⟨index, by omega, by omega, isValue, ?_⟩
            intro before fromFirst below
            rcases Nat.eq_or_lt_of_le fromFirst with rfl | later
            · exact found
            · exact isFirst before later below
          · rintro ⟨index, atLeast, below, isValue, isFirst⟩
            have different : index ≠ first := by
              rintro rfl
              rw [found] at isValue
              cases isValue
            exact ⟨index, by omega, by omega, isValue, fun before fromNext =>
              isFirst before (by omega)⟩

/-- `exec` finds the first index at or behind `lastIndex` where the expression
matches. -/
theorem Expression.exec_eq_some :
    regex.exec text lastIndex = some (start, finish) ↔
      lastIndex ≤ start ∧ start ≤ text.length ∧
        regex.matchAt text start = some finish ∧
          ∀ before, lastIndex ≤ before → before < start →
            regex.matchAt text before = none := by
  unfold exec
  rw [findSome?_range'_eq_some]
  simp only [Option.map_eq_some_iff, Prod.mk.injEq, Option.map_eq_none_iff]
  constructor
  · rintro ⟨index, atLeast, below, ⟨_, isMatch, rfl, rfl⟩, isFirst⟩
    exact ⟨atLeast, by omega, isMatch, isFirst⟩
  · rintro ⟨atLeast, inText, isMatch, isFirst⟩
    exact ⟨start, atLeast, by omega, ⟨finish, isMatch, rfl, rfl⟩, isFirst⟩

theorem Expression.exec_eq_none :
    regex.exec text lastIndex = none ↔
      ∀ index, lastIndex ≤ index → index ≤ text.length →
        regex.matchAt text index = none := by
  unfold exec
  simp only [List.findSome?_eq_none_iff, List.mem_range'_1,
    Option.map_eq_none_iff]
  constructor
  · intro absent index atLeast inText
    exact absent index ⟨atLeast, by omega⟩
  · rintro absent index ⟨atLeast, below⟩
    exact absent index atLeast (by omega)

/-- A match lies behind `lastIndex` and within the text. -/
theorem Expression.exec_bounds
    (isMatch : regex.exec text lastIndex = some (start, finish)) :
    lastIndex ≤ start ∧ start ≤ finish ∧ finish ≤ text.length := by
  obtain ⟨atLeast, inText, isMatch, _⟩ := exec_eq_some.mp isMatch
  exact ⟨atLeast, matchAt_bounds inText isMatch⟩

end

end RtsNotebook.Js.RegExp
