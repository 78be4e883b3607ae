import RtsNotebook.Js.Json

/-!
# JavaScript values

What JSON values become when a script copies them: property by property, so
that a member called `__proto__` sets the prototype of the copy.  None of the
names that the sources read is a name of `Object.prototype` or
`Array.prototype`; only conversion to a string looks for inherited functions.

A function that can throw returns an option: `none` is the thrown `TypeError`.
-/

namespace RtsNotebook.Js

/-- A value without functions. -/
inductive JsValue where
  | undefined
  | null
  | bool (value : Bool)
  | number (value : JsNumber)
  | string (value : JsString)
  /-- An array, with its own properties beside the items. -/
  | array (items : List JsValue) (own : List (JsString × JsValue))
  /-- An object that inherits from `Object.prototype`. -/
  | object (own : List (JsString × JsValue))
  /-- An object without a prototype. -/
  | bare (own : List (JsString × JsValue))
  | inheriting (own : List (JsString × JsValue)) (prototype : JsValue)

/-- The array index that a property name is. -/
def arrayIndex? (key : JsString) : Option Nat :=
  (digitsValue 10 key).filter fun index =>
    natDigits index = key && decide (index < 4294967295)

/-- `own[key] = value` in the order of enumeration: indices first, then the
other names as they came. -/
def assign (key : JsString) (value : JsValue) :
    List (JsString × JsValue) → List (JsString × JsValue)
  | [] => [(key, value)]
  | member :: rest =>
      if member.1 = key then
        (key, value) :: rest
      else
        match arrayIndex? key, arrayIndex? member.1 with
        | some index, some other =>
            if index < other then (key, value) :: member :: rest
            else member :: assign key value rest
        | some _, none => (key, value) :: member :: rest
        | none, _ => member :: assign key value rest

namespace JsValue

/-- `Boolean(value)` -/
def truthy : JsValue → Bool
  | undefined => false
  | null => false
  | bool value => value
  | number value => value.nonzero
  | string value => value ≠ []
  | _ => true

/-- `value === null || value === undefined` -/
def isNullish : JsValue → Bool
  | undefined => true
  | null => true
  | _ => false

/-- `value && typeof value === 'object'` -/
def isObject : JsValue → Bool
  | array _ _ => true
  | object _ => true
  | bare _ => true
  | inheriting _ _ => true
  | _ => false

/-- `value === true` -/
def isTrue : JsValue → Bool
  | bool value => value
  | _ => false

/-- `Array.isArray(value)`, with the items. -/
def asArray? : JsValue → Option (List JsValue)
  | array items _ => some items
  | _ => none

/-- `typeof value === 'string'`, with the string. -/
def asString? : JsValue → Option JsString
  | string value => some value
  | _ => none

/-- `value[key]` for one of the names that the sources read. -/
def property? (key : JsString) : JsValue → Option JsValue
  | undefined => none
  | null => none
  | array _ own => some ((own.lookup key).getD undefined)
  | object own => some ((own.lookup key).getD undefined)
  | bare own => some ((own.lookup key).getD undefined)
  | inheriting own prototype =>
      match own.lookup key with
      | some value => some value
      | none => property? key prototype
  | _ => some undefined

/-- `value[key] = assigned` on an object. -/
def withProperty (value : JsValue) (key : JsString) (assigned : JsValue) :
    JsValue :=
  match value with
  | array items own => array items (assign key assigned own)
  | object own => object (assign key assigned own)
  | bare own => bare (assign key assigned own)
  | inheriting own prototype =>
      inheriting (assign key assigned own) prototype
  | other => other

/-- The own properties of an object. -/
def ownProperties : JsValue → List (JsString × JsValue)
  | object own => own
  | bare own => own
  | inheriting own _ => own
  | _ => []

/-- Assigning to `__proto__` reaches the setter of `Object.prototype`. -/
def setsPrototype : JsValue → Bool
  | array _ own => (own.lookup (js "__proto__")).isNone
  | object own => (own.lookup (js "__proto__")).isNone
  | inheriting own prototype =>
      (own.lookup (js "__proto__")).isNone && prototype.setsPrototype
  | _ => false

/-- `copy[key] = assigned` on an object that started as `{}`: assigning to
`__proto__` sets the prototype, or nothing where the value is none. -/
def copyMember (copy : JsValue) (key : JsString) (assigned : JsValue) :
    JsValue :=
  if key = js "__proto__" ∧ copy.setsPrototype = true then
    match assigned with
    | null => bare copy.ownProperties
    | array _ _ | object _ | bare _ | inheriting _ _ =>
        inheriting copy.ownProperties assigned
    | _ => copy
  else
    copy.withProperty key assigned

mutual

/-- `String(value)`.  The text of an object that inherits from another one,
which may be an array, is a parameter. -/
def toText? (inheritedText : List (JsString × JsValue) → JsValue →
    Option JsString) : JsValue → Option JsString
  | undefined => some (js "undefined")
  | null => some (js "null")
  | bool true => some (js "true")
  | bool false => some (js "false")
  | number value => some (JsNumber.toText value)
  | string value => some value
  | array items _ => (itemTexts? inheritedText items).map (join (js ","))
  | object own =>
      if (own.lookup (js "toString")).isSome then
        none
      else
        some (js "[object Object]")
  | bare _ => none
  | inheriting own prototype => inheritedText own prototype

/-- The texts that `Array.prototype.join` joins. -/
def itemTexts? (inheritedText : List (JsString × JsValue) → JsValue →
    Option JsString) : List JsValue → Option (List JsString)
  | [] => some []
  | null :: rest => (itemTexts? inheritedText rest).map ([] :: ·)
  | undefined :: rest => (itemTexts? inheritedText rest).map ([] :: ·)
  | item :: rest => do
      let text ← toText? inheritedText item
      let texts ← itemTexts? inheritedText rest
      pure (text :: texts)

end

mutual

/-- A value that `JSON.parse` has returned. -/
def ofJson : Json → JsValue
  | .null => null
  | .bool value => bool value
  | .number value => number value
  | .string value => string value
  | .array items => array (ofJsonItems items) []
  | .object members => object (ofJsonMembers members)

def ofJsonItems : List Json → List JsValue
  | [] => []
  | item :: rest => ofJson item :: ofJsonItems rest

def ofJsonMembers : List (JsString × Json) → List (JsString × JsValue)
  | [] => []
  | (key, value) :: rest => (key, ofJson value) :: ofJsonMembers rest

end

end JsValue

/-! ### `JSON.stringify` -/

/-- A hexadecimal digit, in lower case. -/
def hexDigit (value : Nat) : UInt16 :=
  UInt16.ofNat (if value < 10 then 48 + value else 87 + value)

/-- `\uXXXX` -/
def unicodeEscape (codeUnit : UInt16) : JsString :=
  let code := codeUnit.toNat
  js "\\u" ++
    [hexDigit (code / 4096), hexDigit (code / 256 % 16),
      hexDigit (code / 16 % 16), hexDigit (code % 16)]

def isLeadSurrogate (codeUnit : UInt16) : Bool :=
  0xD800 ≤ codeUnit ∧ codeUnit ≤ 0xDBFF

def isTrailSurrogate (codeUnit : UInt16) : Bool :=
  0xDC00 ≤ codeUnit ∧ codeUnit ≤ 0xDFFF

/-- One code unit of a quoted string; a surrogate is escaped by its
neighbours. -/
def quoteUnit (codeUnit : UInt16) : JsString :=
  if codeUnit = 0x08 then js "\\b"
  else if codeUnit = 0x09 then js "\\t"
  else if codeUnit = 0x0A then js "\\n"
  else if codeUnit = 0x0C then js "\\f"
  else if codeUnit = 0x0D then js "\\r"
  else if codeUnit = 0x22 then js "\\\""
  else if codeUnit = 0x5C then js "\\\\"
  else if codeUnit < 0x20 then unicodeEscape codeUnit
  else [codeUnit]

/-- `QuoteJSONString`, without the quotes. -/
def quoteUnits : JsString → JsString
  | [] => []
  | lead :: trail :: rest =>
      if isLeadSurrogate lead && isTrailSurrogate trail then
        lead :: trail :: quoteUnits rest
      else if isLeadSurrogate lead || isTrailSurrogate lead then
        unicodeEscape lead ++ quoteUnits (trail :: rest)
      else
        quoteUnit lead ++ quoteUnits (trail :: rest)
  | [only] =>
      if isLeadSurrogate only || isTrailSurrogate only then
        unicodeEscape only
      else
        quoteUnit only

def quoteJson (text : JsString) : JsString :=
  js "\"" ++ quoteUnits text ++ js "\""

/-- The items of an array or object between their brackets, each on a line of
its own where there is a gap. -/
def bracket (opening closing gap indent : JsString)
    (items : List JsString) : JsString :=
  if items = [] then
    opening ++ closing
  else if gap = [] then
    opening ++ join (js ",") items ++ closing
  else
    let inner := js "\n" ++ indent ++ gap
    opening ++ inner ++ join (js "," ++ inner) items ++ js "\n" ++ indent ++
      closing

namespace JsValue

mutual

/-- `JSON.stringify(value, null, gap)` at an indentation; `none` stands for
`undefined`. -/
def stringify? (gap indent : JsString) : JsValue → Option JsString
  | undefined => none
  | null => some (js "null")
  | bool true => some (js "true")
  | bool false => some (js "false")
  | number (.finite decimal) => some (JsNumber.toText (.finite decimal))
  | number _ => some (js "null")
  | string value => some (quoteJson value)
  | array items _ =>
      some (bracket (js "[") (js "]") gap indent
        (stringifyItems gap (indent ++ gap) items))
  | object own | bare own | inheriting own _ =>
      some (bracket (js "\x7b") (js "\x7d") gap indent
        (stringifyMembers gap (indent ++ gap) own))

def stringifyItems (gap indent : JsString) : List JsValue → List JsString
  | [] => []
  | item :: rest =>
      (stringify? gap indent item).getD (js "null") ::
        stringifyItems gap indent rest

def stringifyMembers (gap indent : JsString) :
    List (JsString × JsValue) → List JsString
  | [] => []
  | (key, value) :: rest =>
      match stringify? gap indent value with
      | some text =>
          (quoteJson key ++ js ":" ++ (if gap = [] then [] else js " ") ++
            text) :: stringifyMembers gap indent rest
      | none => stringifyMembers gap indent rest

end

end JsValue

end RtsNotebook.Js
