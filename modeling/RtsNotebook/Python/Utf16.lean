import RtsNotebook.Js.Text
import RtsNotebook.Python.Lines

/-!
# A text in both languages

The UTF-16 code units of a Python string.  Code points above the white space
become units above the white space, so that stripping and the ends of lines
are the same on the code points and on the units.
-/

namespace RtsNotebook.Python

open RtsNotebook.Library RtsNotebook.Js

/-- The code units of a code point; the first remainder changes none. -/
def unitsOf (codePoint : Nat) : JsString :=
  if codePoint < 0x10000 then
    [UInt16.ofNat codePoint]
  else
    [UInt16.ofNat (0xD800 + (codePoint - 0x10000) / 0x400 % 0x400),
      UInt16.ofNat (0xDC00 + (codePoint - 0x10000) % 0x400)]

/-- The string of the other language that is the same text. -/
def utf16 (text : PyString) : JsString :=
  text.flatMap unitsOf

/-- `str.isspace` of one code unit. -/
def isSpaceUnit (codeUnit : UInt16) : Bool :=
  isSpace codeUnit.toNat

/-- Whether a code unit ends a line for `splitlines`. -/
def isLineBreakUnit (codeUnit : UInt16) : Bool :=
  isLineBreak codeUnit.toNat

def unifyBreakUnit (codeUnit : UInt16) : UInt16 :=
  if isLineBreakUnit codeUnit then newline else codeUnit

/-! ### Code units -/

theorem utf16_cons (codePoint : Nat) (text : PyString) :
    utf16 (codePoint :: text) = unitsOf codePoint ++ utf16 text :=
  List.flatMap_cons

theorem unitsOf_ne_nil (codePoint : Nat) : unitsOf codePoint ≠ [] := by
  unfold unitsOf
  split <;> exact List.cons_ne_nil _ _

theorem utf16_eq_nil_iff {text : PyString} : utf16 text = [] ↔ text = [] := by
  cases text with
  | nil => simp [utf16]
  | cons codePoint text => simp [utf16_cons, unitsOf_ne_nil]

/-- A unit is its code point, or both are above the white space. -/
theorem toNat_of_mem_unitsOf {codePoint : Nat} {codeUnit : UInt16}
    (member : codeUnit ∈ unitsOf codePoint) :
    codeUnit.toNat = codePoint ∨
      0x3000 < codeUnit.toNat ∧ 0x3000 < codePoint := by
  unfold unitsOf at member
  split at member
  · rename_i isPlain
    rw [List.mem_singleton.mp member, UInt16.toNat_ofNat']
    omega
  · simp only [List.mem_cons, List.not_mem_nil, or_false] at member
    rcases member with rfl | rfl
    · rw [UInt16.toNat_ofNat']
      omega
    · rw [UInt16.toNat_ofNat']
      omega

theorem unitsOf_of_le {codePoint : Nat} (low : codePoint ≤ 0x3000) :
    unitsOf codePoint = [UInt16.ofNat codePoint] :=
  if_pos (by omega)

/-- What is constant above the white space holds of units as of their code
points. -/
theorem codesAs_unitsOf (holds : Nat → Bool) (beyond : Bool)
    (constant : ∀ codePoint, 0x3000 < codePoint → holds codePoint = beyond) :
    CodesAs unitsOf (fun codeUnit => holds codeUnit.toNat) holds where
  nonempty := unitsOf_ne_nil
  same := by
    intro codePoint codeUnit member
    rcases toNat_of_mem_unitsOf member with same | ⟨unitHigh, high⟩
    · rw [same]
    · rw [constant _ unitHigh, constant _ high]

theorem isSpace_of_high {codePoint : Nat} (high : 0x3000 < codePoint) :
    isSpace codePoint = false := by
  unfold isSpace
  rw [decide_eq_false_iff_not]
  simp only [List.mem_cons, List.not_mem_nil, or_false]
  omega

theorem isLineBreak_of_high {codePoint : Nat} (high : 0x3000 < codePoint) :
    isLineBreak codePoint = false := by
  unfold isLineBreak
  rw [decide_eq_false_iff_not]
  simp only [List.mem_cons, List.not_mem_nil, or_false]
  omega

theorem isSpaceUnit_of_isLineBreakUnit {codeUnit : UInt16}
    (breaks : isLineBreakUnit codeUnit = true) :
    isSpaceUnit codeUnit = true :=
  isSpace_of_isLineBreak breaks

/-- The beginnings of a text in low code points are those of its units. -/
theorem prefix_of_utf16_prefix
    {literal text : PyString} (low : ∀ codePoint ∈ literal, codePoint ≤ 0x3000)
    (isPrefix : utf16 literal <+: utf16 text) : literal <+: text := by
  induction literal generalizing text with
  | nil => exact List.nil_prefix
  | cons codePoint literal inductionHypothesis =>
      have lowHead := low codePoint List.mem_cons_self
      rw [utf16_cons, unitsOf_of_le lowHead, List.singleton_append] at isPrefix
      cases text with
      | nil => exact absurd (List.prefix_nil.mp isPrefix) (List.cons_ne_nil _ _)
      | cons other text =>
          have isMember : UInt16.ofNat codePoint ∈ unitsOf other := by
            obtain ⟨first, rest, unitsEq⟩ :=
              List.exists_cons_of_ne_nil (unitsOf_ne_nil other)
            rw [utf16_cons, unitsEq, List.cons_append,
              List.cons_prefix_cons] at isPrefix
            rw [unitsEq, isPrefix.1]
            exact List.mem_cons_self
          have same : other = codePoint := by
            rcases toNat_of_mem_unitsOf isMember with same | ⟨high, _⟩
            · rw [UInt16.toNat_ofNat', Nat.mod_eq_of_lt (by omega)] at same
              exact same.symm
            · rw [UInt16.toNat_ofNat', Nat.mod_eq_of_lt (by omega)] at high
              omega
          subst same
          rw [utf16_cons, unitsOf_of_le lowHead, List.singleton_append,
            List.cons_prefix_cons] at isPrefix
          rw [List.cons_prefix_cons]
          exact ⟨rfl, inductionHypothesis
            (fun codePoint member => low codePoint (List.mem_cons_of_mem _ member))
            isPrefix.2⟩

/-! ### What commutes with the encoding -/

theorem utf16_strip (text : PyString) :
    utf16 (strip text) = trimBy isSpaceUnit (utf16 text) :=
  ((codesAs_unitsOf isSpace false fun _ => isSpace_of_high).trimBy text).symm

private theorem codesAs_noBreak :
    CodesAs unitsOf (fun codeUnit => !isLineBreakUnit codeUnit)
      (fun codePoint => !isLineBreak codePoint) :=
  codesAs_unitsOf (fun codePoint => !isLineBreak codePoint) true
    fun codePoint high => by
      rw [isLineBreak_of_high high]
      rfl

theorem utf16_firstLine (text : PyString) :
    utf16 (text.takeWhile fun codePoint => !isLineBreak codePoint) =
      (utf16 text).takeWhile fun codeUnit => !isLineBreakUnit codeUnit :=
  (codesAs_noBreak.takeWhile text).symm

theorem utf16_map_unifyBreak (text : PyString) :
    utf16 (text.map unifyBreak) = (utf16 text).map unifyBreakUnit := by
  induction text with
  | nil => rfl
  | cons codePoint text inductionHypothesis =>
      rw [List.map_cons, utf16_cons, utf16_cons, List.map_append,
        inductionHypothesis]
      congr 1
      cases breaks : isLineBreak codePoint with
      | true =>
          have low : codePoint ≤ 0x3000 := by
            by_contra high
            rw [isLineBreak_of_high (by omega)] at breaks
            cases breaks
          have sameUnit : isLineBreakUnit (UInt16.ofNat codePoint) = true := by
            rw [isLineBreakUnit, UInt16.toNat_ofNat',
              Nat.mod_eq_of_lt (by omega), breaks]
          rw [unifyBreak, breaks, if_pos rfl, unitsOf_of_le low,
            List.map_singleton, unifyBreakUnit, sameUnit, if_pos rfl]
          rfl
      | false =>
          rw [unifyBreak, breaks, if_neg Bool.false_ne_true]
          symm
          refine (List.map_congr_left fun codeUnit member => ?_).trans
            (List.map_id _)
          have noBreak := (codesAs_noBreak.same codePoint codeUnit member)
          rw [breaks, Bool.not_eq_eq_eq_not, Bool.not_not] at noBreak
          rw [unifyBreakUnit, noBreak, if_neg Bool.false_ne_true]
          rfl

theorem head?_utf16_eq_newline_iff (text : PyString) :
    (utf16 text).head? = some newline ↔ text.head? = some 0x0A := by
  cases text with
  | nil => simp [utf16]
  | cons codePoint text =>
      have isHead : (utf16 (codePoint :: text)).head? =
          (unitsOf codePoint).head? := by
        rw [utf16_cons]
        exact List.head?_append_of_ne_nil _ (unitsOf_ne_nil codePoint)
      rw [isHead, List.head?_cons, Option.some.injEq]
      constructor
      · intro isNewline
        have member : newline ∈ unitsOf codePoint :=
          List.mem_of_mem_head? isNewline
        rcases toNat_of_mem_unitsOf member with same | ⟨high, _⟩
        · exact same.symm
        · exact absurd high (by decide)
      · rintro rfl
        rfl

theorem utf16_foldReturns (text : PyString) :
    utf16 (foldReturns 0x0D 0x0A text) =
      foldReturns carriageReturn newline (utf16 text) := by
  induction text with
  | nil => rfl
  | cons codePoint text inductionHypothesis =>
      by_cases isReturn : codePoint = 0x0D
      · subst isReturn
        have encoded : utf16 (0x0D :: text) = carriageReturn :: utf16 text :=
          rfl
        rw [foldReturns, encoded, foldReturns]
        simp only [true_and, head?_utf16_eq_newline_iff]
        split
        · exact inductionHypothesis
        · rw [utf16_cons, inductionHypothesis]
          rfl
      · have noReturn : carriageReturn ∉ unitsOf codePoint := by
          intro member
          rcases toNat_of_mem_unitsOf member with same | ⟨high, _⟩
          · exact isReturn same.symm
          · exact absurd high (by decide)
        rw [foldReturns, if_neg fun both => isReturn both.1, utf16_cons,
          utf16_cons, foldReturns_append_of_noReturn noReturn,
          inductionHypothesis]

theorem utf16_afterBreak (text : PyString) :
    utf16 (afterBreak 0x0D 0x0A isLineBreak text) =
      afterBreak carriageReturn newline isLineBreakUnit (utf16 text) := by
  unfold afterBreak
  have dropped : ((utf16 text).dropWhile fun codeUnit =>
      !isLineBreakUnit codeUnit) =
        utf16 (text.dropWhile fun codePoint => !isLineBreak codePoint) :=
    codesAs_noBreak.dropWhile text
  rw [dropped]
  cases found : text.dropWhile fun codePoint => !isLineBreak codePoint with
  | nil => rfl
  | cons first rest =>
      have breaks : isLineBreak first = true := by
        have stops := List.head?_dropWhile_not
          (fun codePoint => !isLineBreak codePoint) text
        rw [found] at stops
        simpa using stops
      have low : first ≤ 0x3000 := by
        by_contra high
        rw [isLineBreak_of_high (by omega)] at breaks
        cases breaks
      have sameReturn : UInt16.ofNat first = carriageReturn ↔
          first = 0x0D := by
        constructor
        · intro same
          have values := congrArg UInt16.toNat same
          rw [UInt16.toNat_ofNat', Nat.mod_eq_of_lt (by omega)] at values
          exact values
        · rintro rfl
          rfl
      have encoded : utf16 (first :: rest) =
          UInt16.ofNat first :: utf16 rest := by
        rw [utf16_cons, unitsOf_of_le low]
        rfl
      rw [encoded]
      simp only [sameReturn, head?_utf16_eq_newline_iff]
      split
      · rename_i isReturn
        obtain ⟨others, rfl⟩ := List.head?_eq_some_iff.mp isReturn.2
        rfl
      · rfl

end RtsNotebook.Python
