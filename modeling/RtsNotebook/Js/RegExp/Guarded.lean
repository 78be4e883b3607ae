import RtsNotebook.Js.RegExp.Continued
import RtsNotebook.Js.RegExp.Progress

/-!
# Boundaries around a pattern

Putting `\b` in front of a pattern and behind it adds the assertion to its first
alternative and to its last one.  The alternatives between them get none.
-/

namespace RtsNotebook.Js.RegExp

open RtsNotebook.Library

section

variable {names : List (JsString × Nat)} {level : Level} {state : ParseState}
  {tokens : List Token} {token : Token} {node : Node}

def boundary : Token :=
  .assertion .wordBoundary

def boundaryNode : Node :=
  .assertion .wordBoundary

/-! ### Tokens -/

/-- The tokens of a pattern between two boundaries. -/
theorem tokensWith_guarded {rules : Rules} {pattern : JsString}
    (isTokens : tokensWith rules pattern = some tokens) :
    tokensWith rules (js "\\b" ++ pattern ++ js "\\b") =
      some (boundary :: (tokens ++ [boundary])) := by
  have edge : js "\\b" = [unit '\\', unit 'b'] := by decide +kernel
  have last : Scanner.all (nextToken rules) 2 (unit '\\' :: [unit 'b']) =
      some [boundary] := by
    rfl
  have behind := Scanner.all_append stays_nextToken isTokens last
  have first : nextToken rules (unit '\\' :: unit 'b' ::
      (pattern ++ unit '\\' :: [unit 'b'])) =
        some (boundary, pattern ++ unit '\\' :: [unit 'b']) := by
    rfl
  rw [← @all_nextToken _ (pattern.length + 2 + 2)]
  · rw [edge]
    change Scanner.all (nextToken rules) (pattern.length + 3 + 1)
      (unit '\\' :: unit 'b' :: (pattern ++ unit '\\' :: [unit 'b'])) = _
    rw [Scanner.all, first, Option.bind_some,
      Scanner.all_of_le (Nat.le_add_right _ 1) behind]
    rfl
  · rw [edge]
    simp only [List.length_append, List.length_cons, List.length_nil]
    omega

theorem captureNames_guarded :
    captureNames (boundary :: (tokens ++ [boundary])) = captureNames tokens := by
  have noGroup : captureNames [boundary] = [] := rfl
  have split : captureNames (tokens ++ [boundary]) =
      captureNames tokens ++ captureNames [boundary] :=
    List.filterMap_append
  change captureNames (tokens ++ [boundary]) = _
  rw [split, noGroup, List.append_nil]

theorem tokensOf_guarded {identifierName : JsString → Option JsString}
    {pattern : JsString}
    (isTokens : tokensOf identifierName pattern = some tokens) :
    tokensOf identifierName (js "\\b" ++ pattern ++ js "\\b") =
      some (boundary :: (tokens ++ [boundary])) := by
  unfold tokensOf at isTokens ⊢
  obtain ⟨counted, isCounted, isTokens⟩ := Option.bind_eq_some_iff.mp isTokens
  rw [tokensWith_guarded isCounted]
  simp only [Option.bind_eq_bind, Option.bind_some, captureNames_guarded]
  exact tokensWith_guarded isTokens

/-! ### Parsing -/

/-- Add the boundary in front of the first alternative, which is the last one of
the list. -/
def guardBranches : List (List Node) → List (List Node)
  | [] => []
  | [first] => [first ++ [boundaryNode]]
  | branch :: others => branch :: guardBranches others

def Level.guardFirst (level : Level) : Level where
  settled :=
    if level.earlier = [] then level.settled ++ [boundaryNode]
    else level.settled
  pending := level.pending
  earlier := guardBranches level.earlier

/-- The outermost group gets the boundary. -/
def guardOuter : List (GroupKind × Level) → List (GroupKind × Level)
  | [] => []
  | [(kind, level)] => [(kind, level.guardFirst)]
  | entry :: others => entry :: guardOuter others

def ParseState.guardFirst (state : ParseState) : ParseState where
  level := if state.outer = [] then state.level.guardFirst else state.level
  outer := guardOuter state.outer
  captures := state.captures

theorem Level.terms_guardFirst :
    level.guardFirst.terms =
      if level.earlier = [] then level.terms ++ [boundaryNode]
      else level.terms := by
  unfold terms guardFirst
  by_cases only : level.earlier = []
  · simp only [if_pos only, List.append_assoc]
  · simp only [if_neg only]

theorem Level.guardFirst_settle :
    (level.settle node).guardFirst = level.guardFirst.settle node := by
  rw [settle, settle, terms_guardFirst, guardFirst, guardFirst]
  by_cases only : level.earlier = []
  · simp only [if_pos only, List.cons_append]
  · simp only [if_neg only]

theorem Level.guardFirst_push :
    (level.push node).guardFirst = level.guardFirst.push node := by
  rw [push, push, terms_guardFirst, guardFirst, guardFirst]

theorem Level.guardFirst_bar :
    level.bar.guardFirst = level.guardFirst.bar := by
  rw [bar, bar, terms_guardFirst, guardFirst, guardFirst]
  cases level.earlier with
  | nil => simp [guardBranches]
  | cons branch others => simp [guardBranches]

theorem Level.guardFirst_quantify? (min : Nat) (max : Option Nat)
    (greedy : Bool) :
    level.guardFirst.quantify? min max greedy =
      (level.quantify? min max greedy).map Level.guardFirst := by
  obtain ⟨settled, pending, earlier⟩ := level
  cases pending with
  | none => rfl
  | some node =>
      simp only [quantify?, guardFirst]
      by_cases inOrder : (max.all fun most => min ≤ most) = true
      · rw [if_pos inOrder, if_pos inOrder, Option.map_some, guardFirst]
        by_cases only : earlier = []
        · simp only [if_pos only, List.cons_append]
        · simp only [if_neg only]
      · rw [if_neg inOrder, if_neg inOrder, Option.map_none]

theorem Level.guardFirst_read? :
    level.guardFirst.read? names token =
      (level.read? names token).map Level.guardFirst := by
  cases token with
  | bar => simp only [read?, Option.map_some, guardFirst_bar]
  | opening opening => rfl
  | close => rfl
  | quantifier min max greedy => exact guardFirst_quantify? min max greedy
  | assertion assertion => simp only [read?, Option.map_some, guardFirst_settle]
  | set set => simp only [read?, Option.map_some, guardFirst_push]
  | backReference index => simp only [read?, Option.map_some, guardFirst_push]
  | namedReference name =>
      simp only [read?]
      cases names.lookup name with
      | none => rfl
      | some index => simp only [Option.map_some, guardFirst_push]

theorem GroupKind.close_guardFirst (kind : GroupKind) :
    kind.close node level.guardFirst = (kind.close node level).guardFirst := by
  cases kind with
  | capturing index => exact Level.guardFirst_push.symm
  | plain => exact Level.guardFirst_push.symm
  | look behind negative =>
      cases behind with
      | false => exact Level.guardFirst_push.symm
      | true => exact Level.guardFirst_settle.symm

/-- A token is read in the same way behind a boundary. -/
theorem ParseState.guardFirst_read? :
    state.guardFirst.read? names token =
      (state.read? names token).map ParseState.guardFirst := by
  obtain ⟨level, outer, captures⟩ := state
  cases token with
  | opening opening =>
      cases outer with
      | nil => rfl
      | cons entry others => rfl
  | close =>
      cases outer with
      | nil => rfl
      | cons entry others =>
          cases others with
          | nil =>
              simp [guardFirst, guardOuter, read?, GroupKind.close_guardFirst]
          | cons second others => simp [guardFirst, guardOuter, read?]
  | _ =>
      cases outer with
      | nil =>
          simp only [read?, guardFirst, if_true, Level.guardFirst_read?,
            Option.map_map]
          rfl
      | cons entry others =>
          simp only [read?, guardFirst, reduceCtorEq, if_false, Option.map_map]
          rfl

theorem ParseState.foldlM_guardFirst :
    tokens.foldlM (ParseState.read? names) state.guardFirst =
      (tokens.foldlM (ParseState.read? names) state).map
        ParseState.guardFirst := by
  induction tokens generalizing state with
  | nil => rfl
  | cons token rest inductionHypothesis =>
      rw [List.foldlM_cons, List.foldlM_cons, guardFirst_read?]
      cases state.read? names token with
      | none => rfl
      | some next => exact inductionHypothesis

/-- The pattern between two boundaries has a boundary in front of its first
alternative and one behind its last one. -/
theorem parseTokens?_guarded {groups : Nat}
    (parsed : parseTokens? tokens = some (level, groups)) :
    parseTokens? (boundary :: (tokens ++ [boundary])) =
      some (level.guardFirst.settle boundaryNode, groups) := by
  unfold parseTokens? at parsed
  obtain ⟨_, distinct, parsed⟩ := Option.bind_eq_some_iff.mp parsed
  obtain ⟨⟨read, outer, captures⟩, isRead, parsed⟩ :=
    Option.bind_eq_some_iff.mp parsed
  obtain ⟨_, closed, parsed⟩ := Option.bind_eq_some_iff.mp parsed
  have isClosed : outer = [] := by
    by_contra notClosed
    simp [guard, notClosed] at closed
  cases parsed
  subst isClosed
  have sameNames : groupNames (boundary :: (tokens ++ [boundary])) =
      groupNames tokens := by
    rw [groupNames, captureNames_guarded, groupNames]
  have guarded := @ParseState.foldlM_guardFirst (groupNames tokens) .start tokens
  rw [isRead] at guarded
  have readAll : (boundary :: (tokens ++ [boundary])).foldlM
      (ParseState.read? (groupNames tokens)) .start =
        some ⟨read.guardFirst.settle boundaryNode, [], captures⟩ := by
    rw [List.foldlM_cons]
    change (tokens ++ [boundary]).foldlM
      (ParseState.read? (groupNames tokens)) ParseState.start.guardFirst = _
    rw [List.foldlM_append, guarded]
    rfl
  unfold parseTokens?
  rw [sameNames]
  simp only [Option.bind_eq_bind, readAll, Option.bind_some]
  rw [distinct]
  rfl

/-! ### Alternatives -/

/-- The terms of an alternative, from the last one back, with a boundary at some
of its ends. -/
def guardTerms (first last : Bool) (terms : List Node) : List Node :=
  (if last then [boundaryNode] else []) ++
    (terms ++ if first then [boundaryNode] else [])

/-- The terms of each alternative, in the order of the alternatives. -/
def Level.branches (level : Level) : List (List Node) :=
  (level.terms :: level.earlier).reverse

theorem guardBranches_concat (others : List (List Node)) (first : List Node) :
    guardBranches (others ++ [first]) = others ++ [first ++ [boundaryNode]] := by
  induction others with
  | nil => rfl
  | cons branch others inductionHypothesis =>
      cases others with
      | nil => rfl
      | cons second others =>
          rw [List.cons_append, List.cons_append, guardBranches]
          · rw [← List.cons_append, inductionHypothesis]
            rfl
          · simp

/-- The alternatives between the first one and the last one stay as they are. -/
theorem map_guardTerms (first last : List Node) (middle : List (List Node)) :
    (first :: (middle ++ [last])).zipIdx.map (fun entry =>
        guardTerms (entry.2 = 0)
          (entry.2 + 1 = (first :: (middle ++ [last])).length) entry.1) =
      guardTerms true false first ::
        (middle ++ [guardTerms false true last]) := by
  have inside : (middle.zipIdx 1).map (fun entry =>
      guardTerms (entry.2 = 0) (entry.2 + 1 = middle.length + 2) entry.1) =
        middle := by
    conv_rhs => rw [← List.zipIdx_map_fst 1 middle]
    refine List.map_congr_left fun entry isEntry => ?_
    have above := List.le_snd_of_mem_zipIdx isEntry
    have below := List.snd_lt_of_mem_zipIdx isEntry
    rw [guardTerms, decide_eq_false (by omega), decide_eq_false (by omega)]
    exact List.append_nil _
  have isCount : (first :: (middle ++ [last])).length = middle.length + 2 := by
    simp
  rw [isCount, List.zipIdx_cons, List.map_cons, List.zipIdx_append,
    List.map_append, inside]
  have isLast : 1 + middle.length = middle.length + 1 := Nat.add_comm _ _
  simp [isLast]

/-- Which alternatives have a boundary at which end. -/
theorem Level.branches_guarded (level : Level) :
    (level.guardFirst.settle boundaryNode).branches =
      level.branches.zipIdx.map fun entry =>
        guardTerms (entry.2 = 0) (entry.2 + 1 = level.branches.length)
          entry.1 := by
  obtain ⟨settled, pending, earlier⟩ := level
  rcases List.eq_nil_or_concat earlier with rfl | ⟨others, first, rfl⟩
  · simp [branches, settle, guardTerms, guardFirst, guardBranches, terms]
  · have isBranches : (Level.mk settled pending (others.concat first)).branches =
        first :: (others.reverse ++
          [(Level.mk settled pending (others.concat first)).terms]) := by
      simp [branches]
    rw [isBranches, map_guardTerms]
    simp [branches, settle, guardFirst, guardTerms, List.concat_eq_append,
      guardBranches_concat, terms]

/-! ### Matching -/

variable {input : Input} {before : MatchState}

/-- The states behind some terms and a rest, put together. -/
theorem matches_foldl_seq (terms : List Node) (rest : Node) :
    (terms.foldl (fun rest term => .seq term rest) rest).matches input .forward
        before =
      ((Level.branch terms).matches input .forward before).flatMap
        (rest.matches input .forward) := by
  induction terms generalizing rest with
  | nil => simp [Level.branch, Node.matches]
  | cons term others inductionHypothesis =>
      rw [Level.branch, List.foldl_cons, List.foldl_cons, inductionHypothesis,
        inductionHypothesis (.seq term .empty), List.flatMap_assoc]
      refine List.flatMap_congr fun after _ => ?_
      simp [Node.matches]

/-- A boundary at an end of an alternative leaves the states at boundaries. -/
theorem matches_guardTerms (first last : Bool) (terms : List Node) :
    (Level.branch (guardTerms first last terms)).matches input .forward before =
      if first = true ∧ isBoundary input.text before.index = false then
        []
      else
        ((Level.branch terms).matches input .forward before).filter fun after =>
          !last || isBoundary input.text after.index := by
  have front : (Level.branch (terms ++ if first then [boundaryNode] else
      [])).matches input .forward before =
        if first = true ∧ isBoundary input.text before.index = false then
          []
        else
          (Level.branch terms).matches input .forward before := by
    cases first with
    | false => simp
    | true =>
        rw [if_pos rfl, Level.branch, List.foldl_append]
        change (Node.seq boundaryNode (Level.branch terms)).matches input
          .forward before = _
        cases bounded : isBoundary input.text before.index with
        | true =>
            simp [Node.matches, boundaryNode, Assertion.holds, bounded]
        | false =>
            simp [Node.matches, boundaryNode, Assertion.holds, bounded]
  have behind : ∀ after, (Level.branch (if last then [boundaryNode] else
      [])).matches input .forward after =
        if (!last || isBoundary input.text after.index) = true then [after]
        else [] := by
    intro after
    cases last with
    | false => simp [Level.branch, Node.matches]
    | true =>
        simp [Level.branch, Node.matches, boundaryNode, Assertion.holds]
        rfl
  have filtered : ∀ states : List MatchState, states.flatMap
      ((Level.branch (if last then [boundaryNode] else [])).matches input
        .forward) = states.filter fun after =>
          !last || isBoundary input.text after.index := by
    intro states
    induction states with
    | nil => rfl
    | cons after others inductionHypothesis =>
        rw [List.flatMap_cons, behind, inductionHypothesis, List.filter_cons]
        split_ifs
        · rfl
        · rfl
  rw [guardTerms, Level.branch, List.foldl_append, matches_foldl_seq]
  change List.flatMap ((Level.branch (if last then [boundaryNode] else
    [])).matches input .forward) _ = _
  rw [filtered, front]
  split_ifs
  · rfl
  · rfl

/-- A choice tries its alternatives one after the other. -/
theorem matches_choice {alternatives : List Node} (nonempty : alternatives ≠ [])
    (direction : Direction) :
    (Node.choice alternatives).matches input direction before =
      alternatives.flatMap fun node => node.matches input direction before := by
  induction alternatives with
  | nil => exact absurd rfl nonempty
  | cons first others inductionHypothesis =>
      cases others with
      | nil => simp [Node.choice]
      | cons second others =>
          rw [Node.choice, Node.matches, inductionHypothesis (by simp)]
          · rfl
          · simp

/-- The states behind an alternative of so many, when there is a boundary in
front of the first one and one behind the last one. -/
def guardedMatches (input : Input) (count : Nat) (before : MatchState)
    (entry : Node × Nat) : List MatchState :=
  if entry.2 = 0 ∧ isBoundary input.text before.index = false then
    []
  else
    (entry.1.matches input .forward before).filter fun after =>
      !decide (entry.2 + 1 = count) || isBoundary input.text after.index

theorem Level.alternatives_eq (level : Level) :
    level.alternatives = level.branches.map branch := by
  rw [alternatives, branches, List.map_reverse]

theorem Level.matches_guarded (level : Level) :
    (level.guardFirst.settle boundaryNode).node.matches input .forward before =
      level.alternatives.zipIdx.flatMap
        (guardedMatches input level.alternatives.length before) := by
  have nonempty : (level.guardFirst.settle boundaryNode).alternatives ≠ [] := by
    simp [alternatives]
  rw [node, matches_choice nonempty, alternatives_eq, branches_guarded,
    alternatives_eq, List.zipIdx_map, List.length_map, List.map_map,
    List.flatMap_map, List.flatMap_map]
  refine List.flatMap_congr fun entry _ => ?_
  rw [Function.comp_apply, matches_guardTerms, guardedMatches]
  simp only [decide_eq_true_eq]
  rfl

/-- A valid pattern between two boundaries is valid, and each of its
alternatives has the boundaries of its place. -/
theorem parsePattern_guarded {identifierName : JsString → Option JsString}
    {text : JsString} {pattern : Pattern}
    (parsed : parsePattern identifierName text = some pattern) :
    ∃ guarded, parsePattern identifierName
        (js "\\b" ++ text ++ js "\\b") = some guarded ∧
      guarded.groups = pattern.groups ∧
      ∀ input before, guarded.node.matches input .forward before =
        pattern.alternatives.zipIdx.flatMap
          (guardedMatches input pattern.alternatives.length before) := by
  unfold parsePattern at parsed
  obtain ⟨tokens, isTokens, parsed⟩ := Option.bind_eq_some_iff.mp parsed
  obtain ⟨⟨level, groups⟩, isLevel, parsed⟩ := Option.bind_eq_some_iff.mp parsed
  cases parsed
  refine ⟨⟨(level.guardFirst.settle boundaryNode).alternatives, groups⟩, ?_, rfl,
    fun input before => level.matches_guarded⟩
  simp only [parsePattern, tokensOf_guarded isTokens, Option.bind_eq_bind,
    Option.bind_some, parseTokens?_guarded isLevel]
  rfl

/-! ### The alternative that supplies a match -/

/-- The place of the alternative that supplies the match at an index, and the end
of the match: the first alternative that goes on. -/
def supplier (input : Input) (alternatives : List Node)
    (before : MatchState) : Option (Nat × Nat) :=
  alternatives.zipIdx.findSome? fun entry =>
    ((guardedMatches input alternatives.length before entry).head?).map
      fun after => (entry.2, after.index)

/-- The first alternative is used at a boundary only, and the last one up to a
boundary. -/
theorem supplier_bounds {alternatives : List Node} {place finish : Nat}
    (supplied : supplier input alternatives before = some (place, finish)) :
    place < alternatives.length ∧
      (place = 0 → isBoundary input.text before.index = true) ∧
        (place + 1 = alternatives.length →
          isBoundary input.text finish = true) := by
  obtain ⟨entry, isEntry, isFirst⟩ := List.exists_of_findSome?_eq_some supplied
  obtain ⟨after, isHead, same⟩ := Option.map_eq_some_iff.mp isFirst
  cases same
  have isState := List.mem_of_mem_head? (Option.mem_def.mpr isHead)
  have below := List.snd_lt_of_mem_zipIdx isEntry
  unfold guardedMatches at isState
  by_cases refused : entry.2 = 0 ∧ isBoundary input.text before.index = false
  · rw [if_pos refused] at isState
    cases isState
  · rw [if_neg refused, List.mem_filter] at isState
    refine ⟨below, fun isFirst => ?_, fun isLast => ?_⟩
    · by_contra notBoundary
      exact refused ⟨isFirst, Bool.eq_false_iff.mpr notBoundary⟩
    · have bounded := isState.2
      rw [decide_eq_true isLast] at bounded
      exact bounded

theorem head?_guardedMatches (alternatives : List Node) :
    ((alternatives.zipIdx.flatMap
        (guardedMatches input alternatives.length before)).head?).map
          MatchState.index =
      (supplier input alternatives before).map Prod.snd := by
  rw [List.head?_flatMap, supplier, List.map_findSome?, List.map_findSome?]
  congr 1
  funext entry
  rw [Function.comp_apply, Function.comp_apply, Option.map_map]
  rfl

end

end RtsNotebook.Js.RegExp
