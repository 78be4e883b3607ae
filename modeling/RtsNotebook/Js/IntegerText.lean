import RtsNotebook.Js.Members

/-!
# The text of an integer

An integer below `10 ^ 21` is written with all of its digits, so that its text
gives the number back.
-/

namespace RtsNotebook.Library.Decimal

variable {negative : Bool} {digits : Nat} {exponent : Int}

/-- The number without its sign, where it is an integer. -/
def magnitude (decimal : Decimal) : Nat :=
  decimal.digits * 10 ^ decimal.exponent.toNat

theorem normalize_of_lowest (lowest : digits % 10 ≠ 0) :
    normalize negative digits exponent =
      ⟨negative, digits, exponent, Or.inl lowest⟩ := by
  rw [normalize, dif_pos lowest]

theorem normalize_zero : normalize negative 0 exponent = zero := by
  rw [normalize, dif_neg (by decide), if_pos rfl]

/-- Trailing zeros go into the exponent. -/
theorem normalize_mul_pow (nonzero : digits ≠ 0) (power : Nat) :
    normalize negative (digits * 10 ^ power) exponent =
      normalize negative digits (exponent + power) := by
  induction power generalizing exponent with
  | zero => simp
  | succ power inductionHypothesis =>
      have positive : 0 < digits * 10 ^ power :=
        Nat.mul_pos (Nat.pos_of_ne_zero nonzero) (Nat.pow_pos (by decide))
      have next : digits * 10 ^ (power + 1) = digits * 10 ^ power * 10 := by
        rw [Nat.pow_succ, Nat.mul_assoc]
      rw [next, normalize, dif_neg (by omega), if_neg (by omega),
        Nat.mul_div_cancel _ (by decide), inductionHypothesis]
      congr 1
      omega

/-- An integer other than zero is the lowest form of its magnitude. -/
theorem normalize_magnitude {decimal : Decimal} (integer : 0 ≤ decimal.exponent)
    (nonzero : decimal.digits ≠ 0) :
    normalize decimal.negative decimal.magnitude 0 = decimal := by
  have lowest : decimal.digits % 10 ≠ 0 :=
    decimal.lowest.resolve_right fun zero => nonzero zero.1
  rw [magnitude, normalize_mul_pow nonzero, normalize_of_lowest lowest,
    Int.zero_add]
  obtain ⟨negative, digits, exponent, lowest⟩ := decimal
  congr 1
  exact Int.toNat_of_nonneg integer

theorem exists_lowest {value : Nat} (nonzero : value ≠ 0) :
    ∃ digits power, digits % 10 ≠ 0 ∧ value = digits * 10 ^ power := by
  induction value using Nat.strongRecOn with
  | ind value inductionHypothesis =>
      by_cases lowest : value % 10 ≠ 0
      · exact ⟨value, 0, lowest, by rw [Nat.pow_zero, Nat.mul_one]⟩
      · obtain ⟨digits, power, isLowest, quotient⟩ :=
          inductionHypothesis (value / 10) (by omega) (by omega)
        refine ⟨digits, power + 1, isLowest, ?_⟩
        rw [Nat.pow_succ, ← Nat.mul_assoc, ← quotient]
        omega

end RtsNotebook.Library.Decimal

namespace RtsNotebook.Js

open RtsNotebook.Library

/-! ### Digits -/

theorem natDigits_zero : natDigits 0 = js "0" := by decide

theorem natDigits_mul_pow {value : Nat} (positive : 0 < value) (power : Nat) :
    natDigits (value * 10 ^ power) =
      natDigits value ++ List.replicate power (unit '0') := by
  induction power with
  | zero => simp
  | succ power inductionHypothesis =>
      have next : value * 10 ^ (power + 1) = 10 * (value * 10 ^ power) + 0 := by
        rw [Nat.pow_succ, ← Nat.mul_assoc, Nat.mul_comm _ 10, Nat.add_zero]
      have digits := @Nat.toDigits_append_toDigits 10 (value * 10 ^ power) 0
        (by decide) (Nat.mul_pos positive (Nat.pow_pos (by decide))) (by decide)
      rw [next, natDigits, ← digits, List.map_append, ← natDigits,
        inductionHypothesis, List.append_assoc, List.replicate_succ']
      rfl

theorem length_natDigits_le {value count : Nat} (positive : 0 < count) :
    (natDigits value).length ≤ count ↔ value < 10 ^ count := by
  rw [natDigits, List.length_map]
  exact Nat.length_toDigits_le_iff (by decide) positive

/-- The digits hold no sign. -/
theorem minus_notMem_natDigits (value : Nat) : unit '-' ∉ natDigits value := by
  intro member
  obtain ⟨digit, inDigits, isMinus⟩ := List.mem_map.mp member
  have isDigit := Nat.isDigit_of_mem_toDigits (by decide) (by decide) inDigits
  have bounds : 48 ≤ digit.toNat ∧ digit.toNat ≤ 57 := by
    simpa [Char.isDigit, UInt32.le_iff_toNat_le] using isDigit
  have codes := congrArg UInt16.toNat isMinus
  have digitCode : (unit digit).toNat = digit.toNat :=
    Nat.mod_eq_of_lt (by omega)
  have minusCode : (unit '-').toNat = 45 := by decide
  omega

/-! ### Integers -/

/-- `Number.isFinite(value) && Number.isInteger(value)` -/
def JsNumber.isInteger : JsNumber → Bool
  | .finite decimal => decide (0 ≤ decimal.exponent)
  | _ => false

/-- `Number.MAX_SAFE_INTEGER` -/
def MAX_SAFE_INTEGER : Nat := 9007199254740991

/-- `Number.isSafeInteger(value)` -/
def JsNumber.isSafeInteger : JsNumber → Bool
  | .finite decimal =>
      decide (0 ≤ decimal.exponent) &&
        decide (decimal.magnitude ≤ MAX_SAFE_INTEGER)
  | _ => false

/-- `-` before a negative number. -/
def signText (negative : Bool) : JsString :=
  if negative then js "-" else []

theorem placePoint_integer {digits : JsString} {power : Nat}
    (short : digits.length + power ≤ 21) :
    JsNumber.placePoint digits (digits.length + (power : Int)) =
      digits ++ List.replicate power (unit '0') := by
  have fits : (digits.length : Int) ≤ digits.length + (power : Int) ∧
      digits.length + (power : Int) ≤ 21 := by omega
  have zeros : (digits.length + (power : Int) - digits.length).toNat = power := by
    omega
  rw [JsNumber.placePoint]
  dsimp only
  rw [if_pos fits, zeros]

theorem toText_normalize {value : Nat} (negative : Bool) (nonzero : value ≠ 0)
    (short : value < 10 ^ 21) :
    JsNumber.toText (.finite (Decimal.normalize negative value 0)) =
      signText negative ++ natDigits value := by
  obtain ⟨digits, power, lowest, rfl⟩ := Decimal.exists_lowest nonzero
  have positive : 0 < digits := by omega
  have places := (length_natDigits_le (by decide)).mpr short
  rw [natDigits_mul_pow positive, List.length_append,
    List.length_replicate] at places
  rw [Decimal.normalize_mul_pow (by omega), Decimal.normalize_of_lowest lowest,
    JsNumber.toText, natDigits_mul_pow positive]
  dsimp only
  rw [if_neg (by omega), Int.zero_add, placePoint_integer places, signText]

theorem toText_zero : JsNumber.toText (.finite Decimal.zero) = js "0" := rfl

theorem isInteger_normalize (negative : Bool) (value : Nat) :
    JsNumber.isInteger (.finite (Decimal.normalize negative value 0)) =
      true := by
  by_cases zero : value = 0
  · rw [zero, Decimal.normalize_zero]
    rfl
  · obtain ⟨digits, power, lowest, rfl⟩ := Decimal.exists_lowest zero
    have nonzero : digits ≠ 0 := by omega
    rw [Decimal.normalize_mul_pow nonzero, Decimal.normalize_of_lowest lowest,
      JsNumber.isInteger, decide_eq_true_eq]
    dsimp only
    omega

end RtsNotebook.Js
