import RtsNotebook.Js.IntegerText
import RtsNotebook.Otel.Attrs

/-!
# Encoding OTLP attributes

`encodeAnyValue` and `encodeAttrs`, and what the decoder gives for a tagged
value of the declared type.
-/

namespace RtsNotebook.Otel

open RtsNotebook.Js RtsNotebook.Library

/-! ### Values -/

/-- `OtlpAnyValue`, with the one field that is set. -/
inductive AnyValue where
  | stringValue (text : JsString)
  | intValue (text : JsString)
  | doubleValue (value : JsNumber)
  | boolValue (value : Bool)
  | arrayValue (values : List AnyValue)
  | kvlistValue (values : List (JsString × AnyValue))
  | bytesValue (text : JsString)

/-- A value that is given to the encoder; a function or a symbol stands as its
text. -/
inductive Value where
  | undefined
  | null
  | bool (value : Bool)
  | number (value : JsNumber)
  | bigint (value : Int)
  | string (text : JsString)
  | array (items : List Value)
  | object (members : List (JsString × Value))
  | other (text : JsString)

/-- `value.toString()` of a bigint. -/
def bigintText (value : Int) : JsString :=
  signText (decide (value < 0)) ++ natDigits value.natAbs

mutual

/-- `encodeAnyValue` -/
def encodeAnyValue : Value → AnyValue
  | .undefined | .null => .stringValue []
  | .string text => .stringValue text
  | .bool value => .boolValue value
  | .number value =>
      if value.isInteger then .intValue value.toText else .doubleValue value
  | .bigint value => .intValue (bigintText value)
  | .array items => .arrayValue (encodeItems items)
  | .object members => .kvlistValue (encodeAttrs members)
  | .other text => .stringValue text

def encodeItems : List Value → List AnyValue
  | [] => []
  | item :: rest => encodeAnyValue item :: encodeItems rest

/-- `encodeAttrs` -/
def encodeAttrs : List (JsString × Value) → List (JsString × AnyValue)
  | [] => []
  | (key, value) :: rest => (key, encodeAnyValue value) :: encodeAttrs rest

end

mutual

/-- A tagged value as the object that it is. -/
def AnyValue.toJson : AnyValue → Json
  | .stringValue text => .object [(js "stringValue", .string text)]
  | .intValue text => .object [(js "intValue", .string text)]
  | .doubleValue value => .object [(js "doubleValue", .number value)]
  | .boolValue value => .object [(js "boolValue", .bool value)]
  | .arrayValue values =>
      .object [(js "arrayValue",
        .object [(js "values", .array (itemsToJson values))])]
  | .kvlistValue values =>
      .object [(js "kvlistValue",
        .object [(js "values", .array (attrsToJson values))])]
  | .bytesValue text => .object [(js "bytesValue", .string text)]

def itemsToJson : List AnyValue → List Json
  | [] => []
  | value :: rest => value.toJson :: itemsToJson rest

/-- A list of attributes as the entries that they are. -/
def attrsToJson : List (JsString × AnyValue) → List Json
  | [] => []
  | (key, value) :: rest =>
      .object [(js "key", .string key), (js "value", value.toJson)] ::
        attrsToJson rest

end

mutual

/-- What the encoder sees of a value that the decoder has given: the own
properties of an object. -/
def Value.ofJsValue : JsValue → Value
  | .undefined => .undefined
  | .null => .null
  | .bool value => .bool value
  | .number value => .number value
  | .string text => .string text
  | .array items _ => .array (valuesOf items)
  | .object own | .bare own | .inheriting own _ => .object (membersOf own)

def valuesOf : List JsValue → List Value
  | [] => []
  | item :: rest => .ofJsValue item :: valuesOf rest

def membersOf : List (JsString × JsValue) → List (JsString × Value)
  | [] => []
  | (key, value) :: rest => (key, .ofJsValue value) :: membersOf rest

end

theorem encodeItems_eq_map (items : List Value) :
    encodeItems items = items.map encodeAnyValue := by
  induction items with
  | nil => rfl
  | cons item rest inductionHypothesis =>
      rw [encodeItems, inductionHypothesis, List.map_cons]

theorem encodeAttrs_eq_map (members : List (JsString × Value)) :
    encodeAttrs members =
      members.map fun member => (member.1, encodeAnyValue member.2) := by
  induction members with
  | nil => rfl
  | cons member rest inductionHypothesis =>
      rw [encodeAttrs, inductionHypothesis, List.map_cons]

theorem valuesOf_eq_map (items : List JsValue) :
    valuesOf items = items.map Value.ofJsValue := by
  induction items with
  | nil => rfl
  | cons item rest inductionHypothesis =>
      rw [valuesOf, inductionHypothesis, List.map_cons]

theorem membersOf_eq_map (own : List (JsString × JsValue)) :
    membersOf own =
      own.map fun member => (member.1, Value.ofJsValue member.2) := by
  induction own with
  | nil => rfl
  | cons member rest inductionHypothesis =>
      rw [membersOf, inductionHypothesis, List.map_cons]

/-! ### Decoding tagged values -/

mutual

/-- What the decoder gives for a tagged value. -/
def AnyValue.decoded : AnyValue → JsValue
  | .stringValue text => .string text
  | .intValue text => (safeInteger? text).elim (.string text) .number
  | .doubleValue value => .number value
  | .boolValue value => .bool value
  | .arrayValue values => .array (decodedItems values) []
  | .kvlistValue values => decodedAttrs (.object []) values
  | .bytesValue text => .string text

def decodedItems : List AnyValue → List JsValue
  | [] => []
  | value :: rest => value.decoded :: decodedItems rest

/-- The attributes set on an object one after the other. -/
def decodedAttrs (copy : JsValue) : List (JsString × AnyValue) → JsValue
  | [] => copy
  | (key, value) :: rest =>
      decodedAttrs (copy.copyMember key value.decoded) rest

end

theorem decodedItems_eq_map (values : List AnyValue) :
    decodedItems values = values.map AnyValue.decoded := by
  induction values with
  | nil => rfl
  | cons value rest inductionHypothesis =>
      rw [decodedItems, inductionHypothesis, List.map_cons]

/-- The value of an entry that is an attribute. -/
theorem entryValue?_attribute (key : JsString) (value : Json) :
    entryValue? [(js "key", .string key), (js "value", value)] =
      decodeAnyValue? value := rfl

mutual

theorem decodeAnyValue?_toJson : (value : AnyValue) →
    decodeAnyValue? value.toJson = some value.decoded
  | .stringValue _ | .intValue _ | .doubleValue _ | .boolValue _
  | .bytesValue _ => rfl
  | .arrayValue values => by
      have decoded : decodeAnyValue? (AnyValue.arrayValue values).toJson =
          (decodeItems? (itemsToJson values)).map fun items =>
            .array items [] := rfl
      rw [decoded, decodeItems?_toJson values]
      rfl
  | .kvlistValue values => by
      have decoded : decodeAnyValue? (AnyValue.kvlistValue values).toJson =
          decodeEntries? (.object []) (attrsToJson values) := rfl
      rw [decoded, decodeEntries?_toJson (.object []) values]
      rfl

theorem decodeItems?_toJson : (values : List AnyValue) →
    decodeItems? (itemsToJson values) = some (decodedItems values)
  | [] => rfl
  | value :: rest => by
      rw [itemsToJson, decodeItems?, decodeAnyValue?_toJson value,
        decodeItems?_toJson rest]
      rfl

theorem decodeEntries?_toJson (copy : JsValue) :
    (values : List (JsString × AnyValue)) →
    decodeEntries? copy (attrsToJson values) = some (decodedAttrs copy values)
  | [] => rfl
  | (key, value) :: rest => by
      have entry : decodeEntry?
          (.object [(js "key", .string key), (js "value", value.toJson)]) =
            (decodeAnyValue? value.toJson).map fun decoded => (key, decoded) := by
        rw [ decodeEntry?, entryValue?_attribute]
        cases decodeAnyValue? value.toJson with
        | none => rfl
        | some decoded => rfl
      rw [attrsToJson, decodeEntries?, entry, decodeAnyValue?_toJson value]
      exact decodeEntries?_toJson _ rest

end

/-- `decodeAttrs` of a list of attributes. -/
theorem decodeAttrs?_toJson (values : List (JsString × AnyValue)) :
    decodeAttrs? (.array (attrsToJson values)) =
      some (decodedAttrs (.object []) values) :=
  decodeEntries?_toJson (.object []) values

end RtsNotebook.Otel
