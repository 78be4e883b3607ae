import RtsNotebook.Js.Number

/-!
# The code units of a number

The text of a number is written with digits, signs, a point and the letters of
its exponent and of the two names.
-/

namespace RtsNotebook.Js

/-- What the text of a number is written with. -/
def numberUnits : JsString :=
  js "0123456789+-.eNaInfity"

/-- A text of these units. -/
def IsNumberText (text : JsString) : Prop :=
  ∀ codeUnit ∈ text, codeUnit ∈ numberUnits

instance (text : JsString) : Decidable (IsNumberText text) :=
  List.decidableBAll (· ∈ numberUnits) text

namespace IsNumberText

variable {first second text : JsString}

theorem append (isFirst : IsNumberText first) (isSecond : IsNumberText second) :
    IsNumberText (first ++ second) := by
  intro codeUnit member
  rcases List.mem_append.mp member with inFirst | inSecond
  · exact isFirst codeUnit inFirst
  · exact isSecond codeUnit inSecond

theorem of_subset (isText : IsNumberText text)
    (subset : ∀ codeUnit ∈ first, codeUnit ∈ text) : IsNumberText first :=
  fun codeUnit member => isText codeUnit (subset codeUnit member)

theorem zeros (count : Nat) :
    IsNumberText (List.replicate count (unit '0')) := by
  intro codeUnit member
  rw [List.eq_of_mem_replicate member]
  decide

theorem digit_mem : ∀ digit < 10, UInt16.ofNat (48 + digit) ∈ numberUnits := by
  decide

theorem natDigits (value : Nat) : IsNumberText (Js.natDigits value) := by
  intro codeUnit member
  obtain ⟨character, inDigits, rfl⟩ := List.mem_map.mp member
  have isDigit : character.isDigit = true :=
    Nat.isDigit_of_mem_toDigits (by decide) (by decide) inDigits
  have range : 48 ≤ character.toNat ∧ character.toNat ≤ 57 := by
    simpa [Char.isDigit, UInt32.le_iff_toNat_le] using isDigit
  obtain ⟨digit, codeEq⟩ := Nat.exists_eq_add_of_le range.1
  have isMember := digit_mem digit (by omega)
  rw [← codeEq] at isMember
  exact isMember

theorem placePoint (isText : IsNumberText text) (point : Int) :
    IsNumberText (JsNumber.placePoint text point) := by
  have taken (count : Nat) : IsNumberText (text.take count) :=
    isText.of_subset fun _ member => List.mem_of_mem_take member
  have dropped (count : Nat) : IsNumberText (text.drop count) :=
    isText.of_subset fun _ member => List.mem_of_mem_drop member
  have dot : IsNumberText (js ".") := by decide
  have leading : IsNumberText (js "0.") := by decide
  rw [JsNumber.placePoint]
  split
  · exact isText.append (zeros _)
  · split
    · exact ((taken _).append dot).append (dropped _)
    · split
      · exact (leading.append (zeros _)).append isText
      · have sign :
            IsNumberText (if point - 1 < 0 then js "-" else js "+") := by
          split
          · decide
          · decide
        have exponent : IsNumberText (js "e") := by decide
        have power := (exponent.append sign).append
          (IsNumberText.natDigits (point - 1).natAbs)
        dsimp only
        split
        · rename_i only _
          exact isText.append power
        · rename_i digit rest _ _
          have head : IsNumberText [digit] := isText.of_subset (by simp)
          have tail : IsNumberText rest := isText.of_subset
            fun _ member => List.mem_cons_of_mem _ member
          exact ((head.append dot).append tail).append power
        · exact power

theorem toText (value : JsNumber) : IsNumberText (JsNumber.toText value) := by
  have minus (negative : Bool) :
      IsNumberText (if negative then js "-" else []) := by
    cases negative with
    | false => decide
    | true => decide
  rw [JsNumber.toText.eq_def]
  split
  · decide
  · have infinity : IsNumberText (js "Infinity") := by decide
    exact (minus _).append infinity
  · split
    · decide
    · exact (minus _).append (placePoint (IsNumberText.natDigits _) _)

end IsNumberText

end RtsNotebook.Js
