import RtsNotebook.Js.RegExp.Progress

/-!
# Literal patterns

A pattern of single characters matches exactly where the text goes on with them.
-/

namespace RtsNotebook.Js.RegExp

open RtsNotebook.Library

/-- The tokens of a text that stands for itself. -/
def literalTokens (literal : JsString) : List Token :=
  literal.map fun codeUnit => .set (.single codeUnit)

/-- The characters of a text one after the other. -/
def literalNode (literal : JsString) : Node :=
  literal.foldr (fun codeUnit rest => .seq (.set (.single codeUnit)) rest) .empty

def literalPattern (literal : JsString) : Pattern where
  alternatives := [literalNode literal]
  groups := 0

section

variable {literal : JsString} {names : List (JsString × Nat)} {level : Level}
  {outer : List (GroupKind × Level)} {captures : Nat}

theorem captureNames_literalTokens (literal : JsString) :
    captureNames (literalTokens literal) = [] := by
  rw [captureNames, literalTokens, List.filterMap_map]
  exact List.filterMap_eq_nil_iff.mpr fun _ _ => rfl

/-- The tokens become the terms of the current alternative. -/
theorem foldlM_literalTokens :
    ∃ read : Level,
      (literalTokens literal).foldlM (ParseState.read? names)
          ⟨level, outer, captures⟩ = some ⟨read, outer, captures⟩ ∧
        read.terms = (literal.map fun codeUnit =>
          Node.set (.single codeUnit)).reverse ++ level.terms ∧
        read.earlier = level.earlier := by
  induction literal generalizing level with
  | nil => exact ⟨level, rfl, rfl, rfl⟩
  | cons codeUnit rest inductionHypothesis =>
      obtain ⟨read, isRead, terms, earlier⟩ := @inductionHypothesis
        (level.push (.set (.single codeUnit)))
      refine ⟨read, isRead, ?_, earlier⟩
      rw [terms, List.map_cons, List.reverse_cons, List.append_assoc]
      rfl

/-- The pattern of a text that stands for itself. -/
theorem parseTokens?_literalTokens :
    (parseTokens? (literalTokens literal)).map (fun output =>
        Pattern.mk output.1.alternatives output.2) =
      some (literalPattern literal) := by
  have noNames : groupNames (literalTokens literal) = [] := by
    rw [groupNames, captureNames_literalTokens]
    rfl
  obtain ⟨read, isRead, terms, earlier⟩ :=
    @foldlM_literalTokens literal [] .start [] 0
  have isBranch : Level.branch read.terms = literalNode literal := by
    rw [terms, Level.branch, show Level.start.terms = [] from rfl,
      List.append_nil, List.foldl_reverse, List.foldr_map]
    rfl
  have isOnly : read.alternatives = [literalNode literal] := by
    rw [Level.alternatives, earlier, ← isBranch]
    rfl
  unfold parseTokens?
  rw [noNames]
  simp only [List.map_nil, List.nodup_nil, guard_true, ParseState.start, isRead]
  rw [literalPattern, ← isOnly]
  rfl

end

/-! ### Matching -/

section

variable {literal text : JsString} {start : Nat} {state : MatchState}

theorem holds_single (codeUnit other : UInt16) :
    (CharSet.single codeUnit).holds { text := text, canonicalize := none }
      other = decide (other = codeUnit) := by
  have within : codeUnit ≤ other ∧ other ≤ codeUnit ↔ other = codeUnit := by
    constructor
    · exact fun both => UInt16.le_antisymm both.2 both.1
    · rintro rfl
      exact ⟨UInt16.le_refl _, UInt16.le_refl _⟩
  simp [CharSet.holds, CharSet.single, ClassItem.holds, within]

/-- A literal matches where the text goes on with it. -/
theorem matches_literalNode :
    (literalNode literal).matches { text := text, canonicalize := none }
        .forward state =
      if literal <+: text.drop state.index then
        [{ state with index := state.index + literal.length }]
      else
        [] := by
  induction literal generalizing state with
  | nil => simp [literalNode, Node.matches]
  | cons codeUnit rest inductionHypothesis =>
      have unfolded : literalNode (codeUnit :: rest) =
          .seq (.set (.single codeUnit)) (literalNode rest) := rfl
      rw [unfolded, Node.matches, Node.matches]
      cases present : text[state.index]? with
      | none =>
          have behind : text.length ≤ state.index :=
            List.getElem?_eq_none_iff.mp present
          rw [List.drop_eq_nil_of_le behind]
          simp [Input.next?, present]
      | some other =>
          obtain ⟨below, isOther⟩ := List.getElem?_eq_some_iff.mp present
          have stands : codeUnit :: rest <+: text.drop state.index ↔
              codeUnit = other ∧ rest <+: text.drop (state.index + 1) := by
            rw [List.drop_eq_getElem_cons below, isOther, List.cons_prefix_cons]
          simp only [Input.next?, present, Option.map_some, holds_single,
            decide_eq_true_eq, stands]
          by_cases same : other = codeUnit
          · rw [if_pos same, List.flatMap_singleton, inductionHypothesis]
            simp only [same, true_and, List.length_cons, Nat.add_assoc,
              Nat.add_comm rest.length 1]
          · rw [if_neg same, if_neg fun both => same both.1.symm,
              List.flatMap_nil]

/-- The expression of a literal matches where the text goes on with it. -/
theorem matchAt_literal :
    Expression.matchAt
        { pattern := literalPattern literal, canonicalize := none } text start =
      if literal <+: text.drop start then some (start + literal.length)
      else none := by
  have isNode : (literalPattern literal).node = literalNode literal := rfl
  rw [Expression.matchAt, isNode, Expression.input, matches_literalNode]
  by_cases stands : literal <+: text.drop start
  · rw [if_pos stands, if_pos stands]
    rfl
  · rw [if_neg stands, if_neg stands]
    rfl

end

end RtsNotebook.Js.RegExp
