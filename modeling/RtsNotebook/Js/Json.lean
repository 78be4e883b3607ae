import RtsNotebook.Js.Number

/-!
# JSON values in JavaScript

The values that `JSON.parse` returns.  A property that is absent reads as
`undefined`, which is `none` here.  Objects keep their members in enumeration
order.

A conversion that can throw returns an option: `none` is the thrown
`TypeError`.  An object throws when it is converted to a string exactly when
it has a member called `toString`: that member is no function, and
`valueOf` gives the object back.
-/

namespace RtsNotebook.Js

/-- A value that `JSON.parse` returns. -/
inductive Json where
  | null
  | bool (value : Bool)
  | number (value : JsNumber)
  | string (value : JsString)
  | array (items : List Json)
  | object (members : List (JsString × Json))
  deriving Repr

namespace Json

/-- The own member of an object; `none` stands for `undefined`. -/
def member? (value : Json) (key : JsString) : Option Json :=
  match value with
  | object members => members.lookup key
  | _ => none

/-- `Boolean(value)`. -/
def truthy : Json → Bool
  | null => false
  | bool value => value
  | number value => value.nonzero
  | string value => value ≠ []
  | array _ => true
  | object _ => true

/-- `typeof value === 'string'`, with the string. -/
def asString? : Json → Option JsString
  | string value => some value
  | _ => none

theorem asString?_eq_some_iff {value : Json} {text : JsString} :
    value.asString? = some text ↔ value = string text := by
  cases value with
  | string held => simp [asString?]
  | _ => simp [asString?]

theorem bind_asString?_eq_some_iff {value : Option Json} {text : JsString} :
    value.bind asString? = some text ↔ value = some (string text) := by
  cases value with
  | none => simp
  | some value => simp [asString?_eq_some_iff]

mutual

/-- `String(value)`. -/
def toText? : Json → Option JsString
  | null => some (js "null")
  | bool true => some (js "true")
  | bool false => some (js "false")
  | number value => some (JsNumber.toText value)
  | string value => some value
  | array items => (itemTexts? items).map (join (js ","))
  | object members =>
      if (members.lookup (js "toString")).isSome then
        none
      else
        some (js "[object Object]")

/-- The texts that `Array.prototype.join` joins; `null` gives the empty one. -/
def itemTexts? : List Json → Option (List JsString)
  | [] => some []
  | null :: rest => (itemTexts? rest).map ([] :: ·)
  | item :: rest => do
      let text ← toText? item
      let texts ← itemTexts? rest
      pure (text :: texts)

end

/-- `value > 0`. -/
def isPositive? : Json → Option Bool
  | null => some false
  | bool value => some value
  | number value => some value.isPositive
  | value => (toText? value).map numericIsPositive

/-- `value.length > 0` of a value that is not `null`: strings and arrays have
a length, an object may have a member of that name, and comparing `undefined`
gives false. -/
def lengthIsPositive? : Json → Option Bool
  | string value => some (value ≠ [])
  | array items => some (!items.isEmpty)
  | value =>
      match value.member? (js "length") with
      | some length => length.isPositive?
      | none => some false

end Json

end RtsNotebook.Js
