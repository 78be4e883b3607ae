import RtsNotebook.Js.Text
import RtsNotebook.Library.Double

/-!
# JavaScript numbers

The text of a number, and numeric conversion of strings.
-/

namespace RtsNotebook.Js

/-- A JavaScript number. -/
abbrev JsNumber := Library.Double

/-- The decimal digits of a natural number, as code units. -/
def natDigits (value : Nat) : JsString :=
  (Nat.toDigits 10 value).map unit

namespace JsNumber

/-- The decimal point placed as `Number::toString` places it, for `digits`
whose decimal point stands after `point` of them. -/
def placePoint (digits : JsString) (point : Int) : JsString :=
  let count : Int := digits.length
  if count ≤ point ∧ point ≤ 21 then
    digits ++ List.replicate (point - count).toNat (unit '0')
  else if 0 < point ∧ point ≤ 21 then
    digits.take point.toNat ++ js "." ++ digits.drop point.toNat
  else if -6 < point ∧ point ≤ 0 then
    js "0." ++ List.replicate (-point).toNat (unit '0') ++ digits
  else
    let sign := if point - 1 < 0 then js "-" else js "+"
    let power := js "e" ++ sign ++ natDigits (point - 1).natAbs
    match digits with
    | [only] => only :: power
    | first :: rest => first :: js "." ++ rest ++ power
    | [] => power

/-- `Number::toString`, in radix ten. -/
def toText : JsNumber → JsString
  | .nan => js "NaN"
  | .infinity negative => (if negative then js "-" else []) ++ js "Infinity"
  | .finite decimal =>
      if decimal.digits = 0 then
        js "0"
      else
        let digits := natDigits decimal.digits
        (if decimal.negative then js "-" else []) ++
          placePoint digits (digits.length + decimal.exponent)

end JsNumber

/-! ### Numeric conversion of strings

`StringToNumber` is modelled up to the one question that the sources ask of
it: whether the number it gives is greater than zero.
-/

def isDigit (codeUnit : UInt16) : Bool :=
  unit '0' ≤ codeUnit ∧ codeUnit ≤ unit '9'

/-- The value of a digit in a radix of at most sixteen. -/
def digitValue (radix : Nat) (codeUnit : UInt16) : Option Nat :=
  let code := codeUnit.toNat
  let value :=
    if 48 ≤ code ∧ code ≤ 57 then code - 48
    else if 97 ≤ code ∧ code ≤ 102 then code - 87
    else if 65 ≤ code ∧ code ≤ 70 then code - 55
    else 16
  if value < radix then some value else none

/-- The number that a string of digits denotes, `none` where it is empty or
holds something else. -/
def digitsValue (radix : Nat) (text : JsString) : Option Nat :=
  if text = [] then
    none
  else
    text.foldl
      (fun value codeUnit => do
        let before ← value
        let digit ← digitValue radix codeUnit
        pure (before * radix + digit))
      (some 0)

/-- The exponent part of a decimal literal, `0` where it is empty. -/
def exponentValue : JsString → Option Int
  | [] => some 0
  | mark :: rest =>
      if mark = unit 'e' ∨ mark = unit 'E' then
        match rest with
        | sign :: digits =>
            if sign = unit '-' then
              (digitsValue 10 digits).map fun value => -(value : Int)
            else if sign = unit '+' then
              (digitsValue 10 digits).map Int.ofNat
            else
              (digitsValue 10 rest).map Int.ofNat
        | [] => none
      else
        none

/-- An unsigned decimal literal as mantissa and power of ten. -/
def decimalLiteral (text : JsString) : Option (Nat × Int) := do
  let whole := text.takeWhile isDigit
  let afterWhole := text.dropWhile isDigit
  let fraction :=
    match afterWhole with
    | dot :: rest => if dot = unit '.' then rest.takeWhile isDigit else []
    | [] => []
  let tail :=
    match afterWhole with
    | dot :: rest =>
        if dot = unit '.' then rest.dropWhile isDigit else afterWhole
    | [] => []
  let mantissa ← digitsValue 10 (whole ++ fraction)
  let exponent ← exponentValue tail
  pure (mantissa, exponent - fraction.length)

/-- Whether `mantissa * 10 ^ exponent` rounds to a double above zero: it has to
lie above half of the smallest positive double, that is above `2 ^ -1075`. -/
def roundsAboveZero (mantissa : Nat) (exponent : Int) : Bool :=
  2 ^ 1075 * (mantissa * 10 ^ exponent.toNat) > 10 ^ (-exponent).toNat

/-- `Number(text) > 0`. -/
def numericIsPositive (text : JsString) : Bool :=
  let stripped := trim text
  let unsigned :=
    if stripped.head? = some (unit '+') then stripped.tail else stripped
  let radixLiteral :=
    match stripped with
    | zero :: letter :: digits =>
        if zero ≠ unit '0' then none
        else if letter = unit 'x' ∨ letter = unit 'X' then
          digitsValue 16 digits
        else if letter = unit 'o' ∨ letter = unit 'O' then
          digitsValue 8 digits
        else if letter = unit 'b' ∨ letter = unit 'B' then
          digitsValue 2 digits
        else none
    | _ => none
  match radixLiteral with
  | some value => value ≠ 0
  | none =>
      if unsigned = js "Infinity" then
        true
      else
        match decimalLiteral unsigned with
        | some (mantissa, exponent) => roundsAboveZero mantissa exponent
        | none => false

end RtsNotebook.Js
