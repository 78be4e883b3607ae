import RtsNotebook.LlmClient.CellEnvelope
import RtsNotebook.Notebook.DirectiveLines
import RtsNotebook.Python.Utf16

/-!
# The body of an agent cell

The body that the command line takes from the text of a cell, beside the one
that the extension finds after the directive.  Both are trimmed texts of whole
lines, by two notions of white space and of the end of a line.  Bodies that
are not the same differ in what no trimming takes off, or at their margins.
-/

namespace RtsNotebook.Dispatch

open RtsNotebook.Js RtsNotebook.Library
open RtsNotebook.LlmClient (agentBody)
open RtsNotebook.Python (PyString py strip utf16 unifyBreak isSpaceUnit
  isLineBreak isLineBreakUnit unifyBreakUnit)
open RtsNotebook.Notebook.CellDirective

/-! ### The body on the command line -/

/-- What stands after the first line of a text for the command line. -/
def afterFirstLine (text : PyString) : PyString :=
  afterBreak 0x0D 0x0A isLineBreak text

/-- The body that the command line takes from a part of a text. -/
def bodyFrom (text part : PyString) : PyString :=
  let body := (strip (foldReturns 0x0D 0x0A part)).map unifyBreak
  if body = [] then strip text else body

/-- The first line of a text is the directive for the command line. -/
def StartsAgent (text : PyString) : Prop :=
  (py "@@agent").isPrefixOf
    (strip (text.takeWhile fun codePoint => !isLineBreak codePoint)) = true

theorem agentBody_of_startsAgent {text : PyString}
    (starts : StartsAgent text) :
    agentBody text = bodyFrom text (afterFirstLine text) := by
  have nonempty : text ≠ [] := by
    rintro rfl
    have never : ¬(py "@@agent").isPrefixOf (strip []) = true := by decide
    exact never starts
  have linesEq := Python.splitLinesFrom_eq [] text (Or.inr nonempty)
  rw [List.reverse_nil, List.nil_append] at linesEq
  unfold StartsAgent at starts
  unfold agentBody Python.splitLines bodyFrom afterFirstLine
  rw [linesEq]
  simp only [starts, if_true]
  rw [Python.strip_joinLines_splitLines]

theorem agentBody_of_not_startsAgent {text : PyString}
    (starts : ¬StartsAgent text) :
    agentBody text = bodyFrom text text := by
  unfold bodyFrom
  rw [← Python.strip_joinLines_splitLines]
  unfold agentBody
  cases linesEq : Python.splitLines text with
  | nil => rfl
  | cons first rest =>
      have nonempty : text ≠ [] := by
        rintro rfl
        cases linesEq
      have firstEq := Python.splitLinesFrom_eq [] text (Or.inr nonempty)
      rw [← Python.splitLines, linesEq, List.reverse_nil,
        List.nil_append] at firstEq
      injection firstEq with firstEq _
      have notFirst : ¬(py "@@agent").isPrefixOf (strip first) = true := by
        rw [firstEq]
        exact starts
      simp only [if_neg notFirst]

/-! ### What no trimming takes off -/

/-- A code unit that is no white space for the command line. -/
def visible (codeUnit : UInt16) : Bool :=
  !isSpaceUnit codeUnit

theorem visible_newline : visible newline = false := by
  decide

theorem countP_strip (text : PyString) :
    (utf16 (strip text)).countP visible = (utf16 text).countP visible := by
  rw [Python.utf16_strip]
  exact countP_trimBy (fun codeUnit isSpace => by simp [visible, isSpace])
    (utf16 text)

theorem visible_unifyBreakUnit (codeUnit : UInt16) :
    visible (unifyBreakUnit codeUnit) = visible codeUnit := by
  unfold unifyBreakUnit
  split
  · rename_i breaks
    rw [visible_newline, visible,
      Python.isSpaceUnit_of_isLineBreakUnit breaks]
    rfl
  · rfl

theorem countP_bodyFrom (text part : PyString) :
    (utf16 (bodyFrom text part)).countP visible =
        (utf16 text).countP visible ∨
      (utf16 (bodyFrom text part)).countP visible =
        (utf16 part).countP visible := by
  unfold bodyFrom
  dsimp only
  split
  · exact Or.inl (countP_strip text)
  · right
    rw [Python.utf16_map_unifyBreak, List.countP_map]
    have sameVisible : visible ∘ unifyBreakUnit = visible :=
      funext visible_unifyBreakUnit
    rw [sameVisible, countP_strip, Python.utf16_foldReturns,
      countP_foldReturns (by decide)]

theorem countP_join (lines : List JsString) :
    (join [newline] lines).countP visible =
      lines.flatten.countP visible := by
  induction lines with
  | nil => rfl
  | cons first rest inductionHypothesis =>
      by_cases empty : rest = []
      · subst empty
        rw [join, List.flatten_singleton]
      · rw [join_cons _ _ empty, List.countP_append, List.countP_append,
          List.countP_singleton, visible_newline, inductionHypothesis,
          List.flatten_cons, List.countP_append, if_neg Bool.false_ne_true,
          Nat.add_zero]

theorem countP_splitLines (text : JsString) :
    text.countP visible = (splitLines text).flatten.countP visible := by
  rw [← countP_join, join_splitLines, countP_foldReturns (by decide)]

/-- A text whose head is a directive shows more than what follows the
head. -/
theorem countP_rest_lt {text head tail : JsString} {restLines : List JsString}
    (found : fromHead text = head :: restLines)
    (headEq : head = js "@@agent" ++ tail) :
    (join [newline] restLines).countP visible < text.countP visible := by
  obtain ⟨_, blanks, split, _⟩ := fromHead_eq_cons found
  have shown : 0 < head.countP visible := by
    rw [List.countP_pos_iff, headEq]
    exact ⟨unit '@', by simp [js, unitsOfChar, unit], by decide⟩
  rw [countP_splitLines text, split, countP_join, List.flatten_append,
    List.flatten_cons, List.countP_append, List.countP_append]
  omega

/-! ### Where the bodies are the same -/

/-- What the command line leaves of the first line of the extension. -/
def leftOfHead (text : JsString) : JsString :=
  afterBreak carriageReturn newline isLineBreakUnit
    (text.takeWhile fun codeUnit => codeUnit ≠ newline)

/-- A head and the text below it, of which both sides take the same part: the
directive stands on the first line, nothing but white space on the rest of
what the command line would take for further lines of the head, and the body
between margins that are white space for both. -/
structure SharedBody (text head : JsString) (restLines : List JsString)
    (before body after : JsString) : Prop where
  first : splitLines text = head :: restLines
  notBlank : trim head ≠ []
  headEnds : ∀ codeUnit ∈ leftOfHead text, isSpaceUnit codeUnit = true
  below : join [newline] restLines = before ++ body ++ after
  margins : ∀ codeUnit ∈ before ++ after,
    isWhiteSpace codeUnit = true ∧ isSpaceUnit codeUnit = true
  bare : Bare isWhiteSpace body
  bareSpace : Bare isSpaceUnit body
  breaks : ∀ codeUnit ∈ body,
    isLineBreakUnit codeUnit = true → codeUnit = newline

def KeepsBody (text : JsString) : Prop :=
  ∃ head restLines before body after,
    SharedBody text head restLines before body after

theorem unifyBreakUnit_eq_self_iff (codeUnit : UInt16) :
    unifyBreakUnit codeUnit = codeUnit ↔
      (isLineBreakUnit codeUnit = true → codeUnit = newline) := by
  unfold unifyBreakUnit
  split
  · rename_i breaks
    exact ⟨fun same _ => same.symm, fun isNewline => (isNewline breaks).symm⟩
  · rename_i noBreak
    exact ⟨fun _ breaks => absurd breaks noBreak, fun _ => rfl⟩

/-- The two ways to trim a text give the same body if and only if it stands
between common margins. -/
theorem trim_eq_map_iff (text : JsString) :
    trim text = (trimBy isSpaceUnit text).map unifyBreakUnit ↔
      ∃ before body after, text = before ++ body ++ after ∧
        (∀ codeUnit ∈ before ++ after,
          isWhiteSpace codeUnit = true ∧ isSpaceUnit codeUnit = true) ∧
        Bare isWhiteSpace body ∧ Bare isSpaceUnit body ∧
        ∀ codeUnit ∈ body,
          isLineBreakUnit codeUnit = true → codeUnit = newline := by
  simp only [← unifyBreakUnit_eq_self_iff]
  refine trimBy_eq_map_trimBy_iff (fun codeUnit notSpace => ?_)
    fun codeUnit => ?_
  · rw [unifyBreakUnit_eq_self_iff]
    intro breaks
    rw [Python.isSpaceUnit_of_isLineBreakUnit breaks] at notSpace
    cases notSpace
  · rw [unifyBreakUnit_eq_self_iff]
    intro breaks
    unfold unifyBreakUnit at breaks ⊢
    split
    · rfl
    · rename_i noBreak
      rw [if_neg noBreak] at breaks
      exact absurd breaks noBreak

/-! ### The first line -/

theorem takeWhile_line {line rest : JsString} (noNewline : newline ∉ line) :
    (line ++ newline :: rest).takeWhile (fun codeUnit => codeUnit ≠ newline) =
      line := by
  rw [List.takeWhile_append_of_pos, List.takeWhile_cons_of_neg (by simp),
    List.append_nil]
  intro codeUnit member
  rw [decide_eq_true_eq]
  rintro rfl
  exact noNewline member

/-- A directive on the first line of the command line stands there for the
extension too. -/
theorem notBlank_of_startsAgent {text : PyString} {first : JsString}
    {others : List JsString} (split : splitLines (utf16 text) = first :: others)
    (more : others ≠ []) (starts : StartsAgent text) : trim first ≠ [] := by
  obtain ⟨line, tail, rest, unitsEq, _, lineEq, tailIsReturn, _⟩ :=
    splitLinesFrom_eq_cons split more
  rw [List.reverse_nil, List.nil_append] at lineEq
  have inStripped : 0x40 ∈ strip
      (text.takeWhile fun codePoint => !isLineBreak codePoint) :=
    (List.isPrefixOf_iff_prefix.mp starts).mem (by decide)
  have inFirst : unit '@' ∈
      (utf16 text).takeWhile fun codeUnit => !isLineBreakUnit codeUnit := by
    rw [← Python.utf16_firstLine]
    exact List.mem_flatMap.mpr
      ⟨0x40, (trimBy_sublist _ _).mem inStripped, List.mem_singleton.mpr rfl⟩
  have inLine : unit '@' ∈ line := by
    rw [unitsEq, takeWhile_append_newline (by decide)] at inFirst
    exact (List.takeWhile_prefix _).mem inFirst
  intro blank
  rw [lineEq, List.mem_append] at inLine
  rcases inLine with inHead | inTail
  · have white := trimBy_eq_nil_iff.mp blank _ inHead
    exact absurd white (by decide)
  · exact absurd (tailIsReturn _ inTail) (by decide)

theorem startsAgent_of_head {text : PyString} {head tail : JsString}
    {others : List JsString} (split : splitLines (utf16 text) = head :: others)
    (more : others ≠ []) (headEq : head = js "@@agent" ++ tail) :
    StartsAgent text := by
  obtain ⟨line, returns, rest, unitsEq, _, lineEq, _, _⟩ :=
    splitLinesFrom_eq_cons split more
  rw [List.reverse_nil, List.nil_append, headEq, List.append_assoc] at lineEq
  have firstLine : (utf16 text).takeWhile
      (fun codeUnit => !isLineBreakUnit codeUnit) =
        js "@@agent" ++ (tail ++ returns).takeWhile
          fun codeUnit => !isLineBreakUnit codeUnit := by
    have noBreak : (js "@@agent").all fun codeUnit =>
        !isLineBreakUnit codeUnit := by decide
    rw [unitsEq, takeWhile_append_newline (by decide), lineEq,
      List.takeWhile_append_of_pos (List.all_eq_true.mp noBreak)]
  have kept : js "@@agent" <+: trimBy isSpaceUnit (js "@@agent" ++
      (tail ++ returns).takeWhile fun codeUnit => !isLineBreakUnit codeUnit) :=
    prefix_trimBy (bare_of_ends (by decide) (by decide)) (by decide) _
  rw [← firstLine, ← Python.utf16_firstLine, ← Python.utf16_strip] at kept
  exact List.isPrefixOf_iff_prefix.mpr
    (Python.prefix_of_utf16_prefix (by decide) kept)

/-! ### Below the first line -/

section

variable {text : PyString} {head : JsString} {restLines : List JsString}

theorem utf16_afterFirstLine
    (split : splitLines (utf16 text) = head :: restLines)
    (more : restLines ≠ []) :
    ∃ rest, join [newline] restLines =
        foldReturns carriageReturn newline rest ∧
      (utf16 (afterFirstLine text) = rest ∧ leftOfHead (utf16 text) = [] ∨
        utf16 (afterFirstLine text) =
          leftOfHead (utf16 text) ++ newline :: rest) := by
  obtain ⟨line, _, rest, unitsEq, noNewline, _, _, rfl⟩ :=
    splitLinesFrom_eq_cons split more
  refine ⟨rest, join_splitLines rest, ?_⟩
  rw [afterFirstLine, Python.utf16_afterBreak, leftOfHead, unitsEq,
    takeWhile_line noNewline]
  exact afterBreak_append (by decide) (by decide) noNewline rest

theorem countP_afterFirstLine
    (split : splitLines (utf16 text) = head :: restLines)
    (more : restLines ≠ []) :
    (utf16 (afterFirstLine text)).countP visible =
      (leftOfHead (utf16 text)).countP visible +
        (join [newline] restLines).countP visible := by
  obtain ⟨rest, joined, ⟨afterEq, leftEq⟩ | afterEq⟩ :=
    utf16_afterFirstLine split more
  · rw [afterEq, leftEq, joined, countP_foldReturns (by decide),
      List.countP_nil, Nat.zero_add]
  · rw [afterEq, joined, countP_foldReturns (by decide), List.countP_append,
      List.countP_cons_of_neg (by simp [visible_newline])]

theorem trimBy_afterFirstLine
    (split : splitLines (utf16 text) = head :: restLines)
    (more : restLines ≠ [])
    (headEnds : ∀ codeUnit ∈ leftOfHead (utf16 text),
      isSpaceUnit codeUnit = true) :
    trimBy isSpaceUnit (foldReturns carriageReturn newline
        (utf16 (afterFirstLine text))) =
      trimBy isSpaceUnit (join [newline] restLines) := by
  obtain ⟨rest, joined, ⟨afterEq, _⟩ | afterEq⟩ :=
    utf16_afterFirstLine split more
  · rw [afterEq, joined]
  · rw [afterEq, joined, foldReturns_append_newline (by decide)]
    refine trimBy_append_left fun codeUnit member => ?_
    rcases List.mem_append.mp ((foldReturns_sublist _ _ _).mem member)
      with inLeft | isNewline
    · exact headEnds codeUnit inLeft
    · rw [List.mem_singleton.mp isNewline]
      decide

end

theorem utf16_bodyFrom (text part : PyString) :
    utf16 (bodyFrom text part) =
      if (trimBy isSpaceUnit (foldReturns carriageReturn newline
          (utf16 part))).map unifyBreakUnit = [] then
        utf16 (strip text)
      else
        (trimBy isSpaceUnit (foldReturns carriageReturn newline
          (utf16 part))).map unifyBreakUnit := by
  have encoded : (trimBy isSpaceUnit (foldReturns carriageReturn newline
      (utf16 part))).map unifyBreakUnit =
        utf16 ((strip (foldReturns 0x0D 0x0A part)).map unifyBreak) := by
    rw [Python.utf16_map_unifyBreak, Python.utf16_strip,
      Python.utf16_foldReturns]
  rw [encoded]
  simp only [Python.utf16_eq_nil_iff]
  unfold bodyFrom
  dsimp only
  split <;> rfl

/-! ### Both directions -/

section

variable {text : PyString} {head tail body : JsString}
  {restLines : List JsString}

theorem sameBody_of_keepsBody
    (found : fromHead (utf16 text) = head :: restLines)
    (headEq : head = js "@@agent" ++ tail)
    (bodyEq : body = trim (join [newline] restLines)) (nonempty : body ≠ [])
    (keeps : KeepsBody (utf16 text)) : utf16 (agentBody text) = body := by
  obtain ⟨_, _, before, _, after, shared⟩ := keeps
  have sameHead := fromHead_of_head shared.first shared.notBlank
  rw [found] at sameHead
  injection sameHead with headSame restSame
  subst headSame restSame
  have more : restLines ≠ [] := by
    rintro rfl
    exact nonempty bodyEq
  have trimmed := (trim_eq_map_iff (join [newline] restLines)).mpr
    ⟨before, _, after, shared.below, shared.margins, shared.bare,
      shared.bareSpace, shared.breaks⟩
  rw [agentBody_of_startsAgent (startsAgent_of_head shared.first more headEq),
    utf16_bodyFrom, trimBy_afterFirstLine shared.first more shared.headEnds,
    ← trimmed, ← bodyEq, if_neg nonempty]

theorem keepsBody_of_sameBody
    (found : fromHead (utf16 text) = head :: restLines)
    (headEq : head = js "@@agent" ++ tail)
    (bodyEq : body = trim (join [newline] restLines)) (nonempty : body ≠ [])
    (same : utf16 (agentBody text) = body) : KeepsBody (utf16 text) := by
  have less := countP_rest_lt found headEq
  have atMost : body.countP visible ≤
      (join [newline] restLines).countP visible := by
    rw [bodyEq]
    exact (trimBy_sublist _ _).countP_le
  -- The whole text shows too much.
  have notWhole : ∀ part, agentBody text = bodyFrom text part →
      (utf16 (agentBody text)).countP visible = (utf16 part).countP visible ∧
        (utf16 part).countP visible < (utf16 text).countP visible := by
    intro part partEq
    have counted := countP_bodyFrom text part
    rw [← partEq, same] at counted
    rw [same]
    omega
  have starts : StartsAgent text := by
    by_contra starts
    exact absurd (notWhole text (agentBody_of_not_startsAgent starts)).2
      (Nat.lt_irrefl _)
  obtain ⟨notBlank, blanks, split, allBlank⟩ := fromHead_eq_cons found
  have noBlanks : blanks = [] := by
    cases blanks with
    | nil => rfl
    | cons first others =>
        exact absurd (allBlank first List.mem_cons_self)
          (notBlank_of_startsAgent split (by simp) starts)
  rw [noBlanks, List.nil_append] at split
  have more : restLines ≠ [] := by
    rintro rfl
    exact nonempty bodyEq
  have partEq := agentBody_of_startsAgent starts
  obtain ⟨counted, _⟩ := notWhole _ partEq
  rw [same, countP_afterFirstLine split more] at counted
  have headEnds : ∀ codeUnit ∈ leftOfHead (utf16 text),
      isSpaceUnit codeUnit = true := by
    have noneShown : (leftOfHead (utf16 text)).countP visible = 0 := by
      omega
    intro codeUnit member
    simpa [visible] using List.countP_eq_zero.mp noneShown codeUnit member
  rw [partEq, utf16_bodyFrom, trimBy_afterFirstLine split more headEnds]
    at same
  split at same
  · have whole := countP_strip text
    rw [same] at whole
    omega
  · rw [bodyEq] at same
    obtain ⟨before, core, after, below, margins, bare, bareSpace, breaks⟩ :=
      (trim_eq_map_iff _).mp same.symm
    exact ⟨head, restLines, before, core, after, split, notBlank, headEnds,
      below, margins, bare, bareSpace, breaks⟩

end

end RtsNotebook.Dispatch
