import RtsNotebook.Js.Value

/-!
# OTLP attributes

Reading the attribute list of a span.  The list comes from a parsed payload,
so it may be missing, and it and its entries may have any shape.
-/

namespace RtsNotebook.Otel

open RtsNotebook.Js

/-- The number that the canonical text of a safe integer denotes. -/
def safeInteger? (text : JsString) : Option JsNumber :=
  let negative := decide (text.head? = some (unit '-'))
  let digits := if negative then text.tail else text
  match digitsValue 10 digits with
  | none => none
  | some value =>
      if natDigits value = digits ∧ value ≤ 9007199254740991 ∧
          ¬ (negative = true ∧ value = 0) then
        some (.finite (Library.Decimal.normalize negative value 0))
      else
        none

/-- The branches of `decodeAnyValue` for the fields that hold no other
`AnyValue`, where one of them is there.  `Number(v.intValue)` may throw. -/
def scalarValue? (members : List (JsString × Json)) :
    Option (Option JsValue) :=
  match members.lookup (js "stringValue") with
  | some value => some (some (.ofJson value))
  | none =>
      match members.lookup (js "boolValue") with
      | some value => some (some (.ofJson value))
      | none =>
          match members.lookup (js "intValue") with
          | some (.string text) =>
              some (some ((safeInteger? text).elim (.string text) .number))
          | some value =>
              some (value.toText?.map fun _ => .ofJson value)
          | none =>
              (members.lookup (js "doubleValue")).map fun value =>
                some (.ofJson value)

mutual

/-- `decodeAnyValue` -/
def decodeAnyValue? : Json → Option JsValue
  | .object members =>
      match scalarValue? members with
      | some decoded => decoded
      | none =>
          match arrayValue? members with
          | some decoded => decoded
          | none =>
              match kvlistValue? members with
              | some decoded => decoded
              | none =>
                  some (((members.lookup (js "bytesValue")).map
                    JsValue.ofJson).getD .undefined)
  | _ => some .undefined

/-- The branch of `v.arrayValue`, where that is truthy. -/
def arrayValue? : List (JsString × Json) → Option (Option JsValue)
  | [] => none
  | (key, value) :: rest =>
      if key = js "arrayValue" then
        if value.truthy then some (mapValues? value) else none
      else
        arrayValue? rest

/-- `value.values.map(…)`; what has no array of that name has no `map`. -/
def mapValues? : Json → Option JsValue
  | .object members => mapMember? members
  | _ => none

def mapMember? : List (JsString × Json) → Option JsValue
  | [] => none
  | (key, value) :: rest =>
      if key = js "values" then mapItems? value else mapMember? rest

def mapItems? : Json → Option JsValue
  | .array items => (decodeItems? items).map fun decoded => .array decoded []
  | _ => none

def decodeItems? : List Json → Option (List JsValue)
  | [] => some []
  | item :: rest => do
      let decoded ← decodeAnyValue? item
      let decodedRest ← decodeItems? rest
      pure (decoded :: decodedRest)

/-- The branch of `v.kvlistValue`, where that is truthy. -/
def kvlistValue? : List (JsString × Json) → Option (Option JsValue)
  | [] => none
  | (key, value) :: rest =>
      if key = js "kvlistValue" then
        if value.truthy then some (decodeValues? value) else none
      else
        kvlistValue? rest

/-- `decodeAttrs(value.values)`; the `values` of an array are a function. -/
def decodeValues? : Json → Option JsValue
  | .object members => decodeMember? members
  | .array _ => none
  | _ => some (.object [])

def decodeMember? : List (JsString × Json) → Option JsValue
  | [] => some (.object [])
  | (key, value) :: rest =>
      if key = js "values" then decodeAttrs? value else decodeMember? rest

/-- `decodeAttrs`, of a list that is not `undefined`. -/
def decodeAttrs? : Json → Option JsValue
  | .array items => decodeEntries? (.object []) items
  -- The characters of a string have no `key` and no `value`.
  | .string (_ :: _) => some (.object [(js "undefined", .undefined)])
  | value => if value.truthy then none else some (.object [])

def decodeEntries? (copy : JsValue) : List Json → Option JsValue
  | [] => some copy
  | entry :: rest =>
      match decodeEntry? entry with
      | none => none
      | some (key, value) => decodeEntries? (copy.copyMember key value) rest

/-- The name and the value that an entry of the list gives. -/
def decodeEntry? : Json → Option (JsString × JsValue)
  | .null => none
  | .object members => do
      let key ←
        match members.lookup (js "key") with
        | some key => key.toText?
        | none => some (js "undefined")
      let value ← entryValue? members
      pure (key, value)
  | _ => some (js "undefined", .undefined)

def entryValue? : List (JsString × Json) → Option JsValue
  | [] => some .undefined
  | (key, value) :: rest =>
      if key = js "value" then decodeAnyValue? value else entryValue? rest

end

/-- The loop of `getAttr`, over the entries from the last one on. -/
def searchAttr? (key : JsString) : List Json → Option JsValue
  | [] => some .undefined
  | .null :: _ => none
  | .object members :: rest =>
      if (members.lookup (js "key")).bind Json.asString? = some key then
        entryValue? members
      else
        searchAttr? key rest
  | _ :: rest => searchAttr? key rest

/-- `getAttr`.  What an index loop reads of an object that has a `length` is a
parameter, from the last index on. -/
def getAttr? (arrayLike : List (JsString × Json) → Option (List Json))
    (list : Option Json) (key : JsString) : Option JsValue :=
  match list with
  | some (.array items) => searchAttr? key items.reverse
  | some (.object members) =>
      if (members.lookup (js "length")).isSome then
        (arrayLike members).bind (searchAttr? key)
      else
        some .undefined
  | _ => some .undefined

/-- `getStringAttr` -/
def getStringAttr? (arrayLike : List (JsString × Json) → Option (List Json))
    (list : Option Json) (key fallback : JsString) : Option JsString :=
  (getAttr? arrayLike list key).map fun value =>
    value.asString?.getD fallback

end RtsNotebook.Otel
