import RtsNotebook.Js.RegExp.Lexer

/-!
# Patterns that go on with a backslash

The tokens of a pattern stay as they are when the pattern goes on with a
backslash, as no token of a pattern that can be read waits for one.
-/

namespace RtsNotebook.Js.RegExp

open RtsNotebook.Library RtsNotebook.Library.Scanner

section

variable {rules : Rules} {Value : Type}

/-- The reader stops at a backslash. -/
abbrev Stops (reader : Reader Value) : Prop :=
  StopsAt (unit '\\') reader

/-- The reader reads the same where the text goes on with a backslash. -/
abbrev Stays (reader : Reader Value) : Prop :=
  Extends (unit '\\') reader

/-! ### Numbers and quantifiers -/

theorem stops_decimal : Stops decimal :=
  (stopsAt_someRun (by decide)).bind fun _ => stopsAt_pure _

theorem stops_bracesEnd (min : Nat) : Stops (bracesEnd min) :=
  (stopsAt_expect (by decide)).bind fun _ =>
    (stops_decimal.bind fun _ =>
      (stopsAt_expect (by decide)).bind fun _ => stopsAt_pure _).orElse
        ((stopsAt_expect (by decide)).bind fun _ => stopsAt_pure _)

theorem stops_braces : Stops braces :=
  stops_decimal.bind fun min =>
    ((stopsAt_expect (by decide)).bind fun _ => stopsAt_pure _).orElse
      (stops_bracesEnd min)

theorem stops_quantifierEnd (min : Nat) (max : Option Nat) :
    Stops (quantifierEnd min max) :=
  ((stopsAt_expect (by decide)).bind fun _ => stopsAt_pure _).orElse
    (stopsAt_pure _)

theorem stops_brace : Stops brace :=
  (stops_braces.bind fun bounds =>
    stops_quantifierEnd bounds.1 bounds.2).orElse (stopsAt_pure _)

/-! ### Escapes -/

theorem stops_hexDigits (count : Nat) : Stops (hexDigits count) := by
  induction count with
  | zero => exact stopsAt_pure _
  | succ count inductionHypothesis =>
      exact (stopsAt_satisfying (by decide)).bind fun _ =>
        inductionHypothesis.bind fun _ => stopsAt_pure _

theorem stops_hexEscape (letter : UInt16) (count : Nat) :
    Stops (hexEscape letter count) :=
  ((stops_hexDigits count).bind fun _ => stopsAt_pure _).orElse (stopsAt_pure _)

theorem stops_octalDigits (count : Nat) : Stops (octalDigits count) := by
  induction count with
  | zero => exact stopsAt_pure _
  | succ count inductionHypothesis =>
      exact ((stopsAt_satisfying (by decide)).bind fun _ =>
        inductionHypothesis.bind fun _ => stopsAt_pure _).orElse
          (stopsAt_pure _)

theorem stops_octalEscape (first : UInt16) : Stops (octalEscape first) :=
  (stops_octalDigits _).bind fun _ => stopsAt_pure _

theorem stops_characterEscape (codeUnit : UInt16) :
    Stops (characterEscape rules codeUnit) := by
  unfold characterEscape
  split
  · exact stopsAt_pure _
  · exact (stops_octalEscape _).ite ((stops_hexEscape _ _).ite
      ((stops_hexEscape _ _).ite (stopsAt_failure.ite (stopsAt_pure _))))

theorem stops_controlOr {letters : UInt16 → Bool}
    (refuses : letters (unit '\\') = false) : Stops (controlOr letters) :=
  ((stopsAt_expect (by decide)).bind fun _ =>
    (stopsAt_satisfying refuses).bind fun _ => stopsAt_pure _).orElse
      (stopsAt_pure _)

theorem stays_groupName : Stays (groupName rules) := by
  refine extends_upTo.bind fun text => ?_
  split
  · exact extends_pure _
  · exact stopsAt_failure.extends

/-! ### Character classes -/

theorem stays_classAtomEscape : Stays (classAtomEscape rules) := by
  refine (stopsAt_aheadIs (by decide)).extends.bind fun _ => .ite ?_ ?_
  · exact ((stops_controlOr (by decide)).bind fun _ => stopsAt_pure _).extends
  · refine extends_next.bind fun codeUnit => (extends_pure _).ite ?_
    split
    · exact extends_pure _
    · exact ((stops_characterEscape codeUnit).bind
        fun _ => stopsAt_pure _).extends

theorem stays_classAtom : Stays (classAtom rules) :=
  extends_next.bind fun _ => stays_classAtomEscape.ite (extends_pure _)

theorem stops_rangeOrUnion (first last : ClassAtom) :
    Stops (rangeOrUnion first last) := by
  unfold rangeOrUnion
  split
  · exact (stopsAt_pure _).ite stopsAt_failure
  · exact stopsAt_pure _

theorem stays_classRange : Stays (classRange rules) := by
  refine stays_classAtom.bind fun first =>
    (stopsAt_accepts (by decide)).extends.bind fun _ =>
      Extends.ite ?_ (extends_pure _)
  refine (stopsAt_aheadIs (by decide)).extends.bind fun _ =>
    (extends_pure _).ite ?_
  exact stays_classAtom.bind fun last => (stops_rangeOrUnion first last).extends

theorem stays_characterClass : Stays (characterClass rules) :=
  (stopsAt_accepts (by decide)).extends.bind fun _ =>
    (extends_manyUpTo stays_classRange (by decide)).bind fun _ => extends_pure _

/-! ### Tokens -/

theorem stops_decimalEscape : Stops (decimalEscape rules) :=
  (stopsAt_satisfying (by decide)).bind fun _ =>
    (stopsAt_run (by decide)).bind fun _ => (stopsAt_pure _).ite stopsAt_failure

theorem stays_otherEscape : Stays (otherEscape rules) := by
  refine (stopsAt_aheadIs (by decide)).extends.bind fun _ => .ite ?_ ?_
  · exact ((stops_controlOr (by decide)).bind fun _ => stopsAt_pure _).extends
  · refine extends_next.bind fun codeUnit =>
      (extends_pure _).ite ((extends_pure _).ite (.ite ?_ ?_))
    · exact (stopsAt_expect (by decide)).extends.bind fun _ =>
        stays_groupName.bind fun _ => extends_pure _
    · split
      · exact extends_pure _
      · exact ((stops_characterEscape codeUnit).bind
          fun _ => stopsAt_pure _).extends

theorem stays_escape : Stays (escape rules) :=
  stops_decimalEscape.orElse_extends stays_otherEscape

theorem stays_groupOpening : Stays (groupOpening rules) := by
  refine (stopsAt_accepts (by decide)).extends.bind fun _ =>
    Extends.ite ?_ (extends_pure _)
  refine extends_next.bind fun kind => (extends_pure _).ite
    ((extends_pure _).ite ((extends_pure _).ite
      (Extends.ite ?_ stopsAt_failure.extends)))
  refine (stopsAt_accepts (by decide)).extends.bind fun _ =>
    (extends_pure _).ite ?_
  refine (stopsAt_accepts (by decide)).extends.bind fun _ =>
    (extends_pure _).ite ?_
  exact stays_groupName.bind fun _ => extends_pure _

theorem stays_tokenFrom (codeUnit : UInt16) :
    Stays (tokenFrom rules codeUnit) := by
  have opening : Stays (groupOpening rules >>= fun opening =>
      pure (Token.opening opening)) :=
    stays_groupOpening.bind fun _ => extends_pure _
  have characters : Stays (characterClass rules >>= fun set =>
      pure (Token.set set)) :=
    stays_characterClass.bind fun _ => extends_pure _
  have quantifier : ∀ min max, Stays (quantifierEnd min max) :=
    fun min max => (stops_quantifierEnd min max).extends
  exact (extends_pure _).ite (opening.ite ((extends_pure _).ite
    ((quantifier _ _).ite ((quantifier _ _).ite ((quantifier _ _).ite
      (stops_brace.extends.ite ((extends_pure _).ite ((extends_pure _).ite
        ((extends_pure _).ite (characters.ite (stays_escape.ite
          (extends_pure _))))))))))))

/-- The tokens of a pattern do not depend on the fuel. -/
theorem all_nextToken {fuel : Nat} {pattern : JsString}
    (enough : pattern.length ≤ fuel) :
    Scanner.all (nextToken rules) fuel pattern = tokensWith rules pattern :=
  all_next_eq_of_le (fun codeUnit => (stays_tokenFrom codeUnit).shortens) enough
    (Nat.le_refl _)

theorem stays_nextToken : Stays (nextToken rules) :=
  extends_next.bind stays_tokenFrom

end

end RtsNotebook.Js.RegExp
