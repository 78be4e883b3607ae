import RtsNotebook.Otel.Encoding

/-!
# Decoding after encoding, and encoding again

A value of plain parts comes back from its encoding, but for the sign of a
zero.  An encoding comes back from what it decodes to, but for the integers
that no number holds exactly, which the decoder leaves as texts.
-/

namespace RtsNotebook.Otel

open RtsNotebook.Js RtsNotebook.Library

/-! ### Integers -/

section

variable {text : JsString} {number : JsNumber}

theorem safeInteger?_zero :
    safeInteger? (js "0") = some (.finite Decimal.zero) := by
  have digits : digitsValue 10 (js "0") = some 0 := by decide
  have text : natDigits 0 = js "0" := by decide
  have isPlain : decide ((js "0").head? = some (unit '-')) = false := by decide
  rw [safeInteger?, isPlain]
  simp only [Bool.false_eq_true, if_false, digits]
  rw [if_pos ⟨text, by decide, by simp⟩, Decimal.normalize_zero]

/-- The text of a safe integer is read as a number. -/
theorem safeInteger?_signText {value : Nat} (negative : Bool)
    (nonzero : value ≠ 0) (isSafe : value ≤ MAX_SAFE_INTEGER) :
    safeInteger? (signText negative ++ natDigits value) =
      some (.finite (Decimal.normalize negative value 0)) := by
  have sign : decide ((signText negative ++ natDigits value).head? =
      some (unit '-')) = negative := by
    cases negative with
    | true => rfl
    | false =>
        rw [decide_eq_false_iff_not]
        intro isMinus
        exact minus_notMem_natDigits value (List.mem_of_mem_head? isMinus)
  have digits : (if negative = true then
      (signText negative ++ natDigits value).tail
      else signText negative ++ natDigits value) = natDigits value := by
    cases negative with
    | true => rfl
    | false => rfl
  rw [safeInteger?, sign, digits, digitsValue_natDigits]
  dsimp only
  rw [if_pos ⟨rfl, isSafe, fun minusZero => nonzero minusZero.2⟩]

/-- What is read as a number is the text of that integer. -/
theorem toText_of_safeInteger? (found : safeInteger? text = some number) :
    number.isInteger = true ∧ number.toText = text := by
  rw [safeInteger?] at found
  cases isValue : digitsValue 10
      (if decide (text.head? = some (unit '-')) = true then text.tail
        else text) with
  | none =>
      rw [isValue] at found
      cases found
  | some value =>
      rw [isValue] at found
      dsimp only at found
      rw [Option.ite_none_right_eq_some] at found
      obtain ⟨⟨digits, isSafe, notMinusZero⟩, numberEq⟩ := found
      have signed : signText (decide (text.head? = some (unit '-'))) ++
          natDigits value = text := by
        rw [digits]
        by_cases isMinus : text.head? = some (unit '-')
        · obtain ⟨rest, rfl⟩ := List.head?_eq_some_iff.mp isMinus
          rfl
        · rw [decide_eq_false isMinus]
          rfl
      rw [← Option.some.inj numberEq]
      refine ⟨isInteger_normalize _ value, ?_⟩
      by_cases zero : value = 0
      · have notMinus : decide (text.head? = some (unit '-')) = false := by
          simpa [zero] using notMinusZero
        rw [notMinus, zero, natDigits_zero] at signed
        rw [zero, Decimal.normalize_zero, toText_zero, ← signed]
        rfl
      · rw [toText_normalize _ zero (by omega), signed]

/-- The number with the zeros as one, as `===` takes them. -/
def unsignZero : JsNumber → JsNumber
  | .finite decimal =>
      if decimal.digits = 0 then .finite .zero else .finite decimal
  | other => other

theorem safeInteger?_toText (isSafe : number.isSafeInteger = true) :
    safeInteger? number.toText = some (unsignZero number) := by
  cases number with
  | nan => cases isSafe
  | infinity negative => cases isSafe
  | finite decimal =>
      rw [JsNumber.isSafeInteger, Bool.and_eq_true, decide_eq_true_eq,
        decide_eq_true_eq] at isSafe
      rw [unsignZero]
      by_cases zero : decimal.digits = 0
      · have text : JsNumber.toText (.finite decimal) = js "0" := by
          rw [JsNumber.toText, if_pos zero]
        rw [text, safeInteger?_zero, if_pos zero]
      · have nonzero : decimal.magnitude ≠ 0 :=
          Nat.mul_ne_zero zero (Nat.ne_of_gt (Nat.pow_pos (by decide)))
        have short : decimal.magnitude < 10 ^ 21 :=
          Nat.lt_of_le_of_lt isSafe.2 (by decide)
        rw [if_neg zero]
        nth_rewrite 1 [← Decimal.normalize_magnitude isSafe.1 zero]
        rw [toText_normalize _ nonzero short,
          safeInteger?_signText _ nonzero isSafe.2,
          Decimal.normalize_magnitude isSafe.1 zero]

theorem isInteger_of_isSafeInteger (isSafe : number.isSafeInteger = true) :
    number.isInteger = true := by
  cases number with
  | nan => cases isSafe
  | infinity negative => cases isSafe
  | finite decimal =>
      rw [JsNumber.isSafeInteger, Bool.and_eq_true] at isSafe
      exact isSafe.1

end

/-! ### Objects -/

/-- Without the name `__proto__`, every attribute is assigned. -/
theorem decodedAttrs_eq {attributes : List (JsString × AnyValue)}
    (own : List (JsString × JsValue))
    (noPrototype : js "__proto__" ∉ attributes.map Prod.fst) :
    decodedAttrs (.object own) attributes =
      .object ((attributes.map fun entry => (entry.1, entry.2.decoded)).foldl
        (fun own member => assignMember member.1 member.2 own) own) := by
  induction attributes generalizing own with
  | nil => rfl
  | cons entry rest inductionHypothesis =>
      obtain ⟨key, value⟩ := entry
      rw [List.map_cons, List.mem_cons, not_or] at noPrototype
      rw [decodedAttrs, copyMember_object (Ne.symm noPrototype.1),
        inductionHypothesis
        (assignMember key value.decoded own) noPrototype.2]
      rfl

/-- Attributes with names in order, none of which is `__proto__`, become the
properties of the object. -/
theorem decodedAttrs_object {attributes : List (JsString × AnyValue)}
    (inOrder : InOrder attributes)
    (noPrototype : js "__proto__" ∉ attributes.map Prod.fst) :
    decodedAttrs (.object []) attributes =
      .object (attributes.map fun entry => (entry.1, entry.2.decoded)) := by
  rw [decodedAttrs_eq [] noPrototype]
  exact congrArg JsValue.object
    (fillMembers_eq_self (inOrder.map fun _ => rfl))

/-! ### Decoding undoes encoding -/

/-- A value of strings, booleans, safe integers, finite numbers that are no
integers, arrays, and objects without a property `__proto__`. -/
inductive Plain : JsValue → Prop where
  | string (text : JsString) : Plain (.string text)
  | bool (value : Bool) : Plain (.bool value)
  | safeInteger {number : JsNumber} (isSafe : number.isSafeInteger = true) :
      Plain (.number number)
  | fraction {decimal : Decimal} (fractional : decimal.exponent < 0) :
      Plain (.number (.finite decimal))
  | array {items : List JsValue} (plain : ∀ item ∈ items, Plain item) :
      Plain (.array items [])
  | object {own : List (JsString × JsValue)} (inOrder : InOrder own)
      (noPrototype : js "__proto__" ∉ own.map Prod.fst)
      (plain : ∀ member ∈ own, Plain member.2) : Plain (.object own)

mutual

/-- The value with the zeros in it as one. -/
def unsignZeros : JsValue → JsValue
  | .number number => .number (unsignZero number)
  | .array items own => .array (unsignItems items) own
  | .object own => .object (unsignMembers own)
  | other => other

def unsignItems : List JsValue → List JsValue
  | [] => []
  | item :: rest => unsignZeros item :: unsignItems rest

def unsignMembers : List (JsString × JsValue) → List (JsString × JsValue)
  | [] => []
  | (key, value) :: rest => (key, unsignZeros value) :: unsignMembers rest

end

/-- The decoder returns a value whose parts are the same, where the numbers are
compared as `===` does it; it is the same value where no zero is negative. -/
def Recovers (decoded? : Option JsValue) (value : JsValue) : Prop :=
  ∃ decoded, decoded? = some decoded ∧
    unsignZeros decoded = unsignZeros value ∧
      (unsignZeros value = value → decoded = value)

/-- Decoding gives back a value from its encoding, and an object from its
attributes. -/
structure RoundTrips (value : JsValue) : Prop where
  anyValue : Recovers
    (decodeAnyValue? (encodeAnyValue (.ofJsValue value)).toJson) value
  attrs : ∀ own, value = .object own → Recovers
    (decodeAttrs? (.array (attrsToJson (encodeAttrs (membersOf own))))) value

section

variable {value : JsValue}

theorem unsignItems_eq_map (items : List JsValue) :
    unsignItems items = items.map unsignZeros := by
  induction items with
  | nil => rfl
  | cons item rest inductionHypothesis =>
      rw [unsignItems, inductionHypothesis, List.map_cons]

theorem unsignMembers_eq_map (own : List (JsString × JsValue)) :
    unsignMembers own =
      own.map fun member => (member.1, unsignZeros member.2) := by
  induction own with
  | nil => rfl
  | cons member rest inductionHypothesis =>
      rw [unsignMembers, inductionHypothesis, List.map_cons]

theorem unsignZero_unsignZero (number : JsNumber) :
    unsignZero (unsignZero number) = unsignZero number := by
  cases number with
  | nan => rfl
  | infinity negative => rfl
  | finite decimal =>
      by_cases zero : decimal.digits = 0
      · rw [unsignZero, if_pos zero]
        rfl
      · rw [unsignZero, if_neg zero, unsignZero, if_neg zero]

mutual

theorem unsignZeros_unsignZeros : (value : JsValue) →
    unsignZeros (unsignZeros value) = unsignZeros value
  | .undefined | .null | .bool _ | .string _ | .bare _ | .inheriting _ _ => rfl
  | .number number => congrArg JsValue.number (unsignZero_unsignZero number)
  | .array items own => by
      rw [unsignZeros, unsignZeros, unsignItems_unsignItems items]
  | .object own => by
      rw [unsignZeros, unsignZeros, unsignMembers_unsignMembers own]

theorem unsignItems_unsignItems : (items : List JsValue) →
    unsignItems (unsignItems items) = unsignItems items
  | [] => rfl
  | item :: rest => by
      rw [unsignItems, unsignItems, unsignZeros_unsignZeros item,
        unsignItems_unsignItems rest]

theorem unsignMembers_unsignMembers : (own : List (JsString × JsValue)) →
    unsignMembers (unsignMembers own) = unsignMembers own
  | [] => rfl
  | (key, value) :: rest => by
      rw [unsignMembers, unsignMembers, unsignZeros_unsignZeros value,
        unsignMembers_unsignMembers rest]

end

theorem recovers_unsignZeros (value : JsValue) :
    Recovers (some (unsignZeros value)) value :=
  ⟨_, rfl, unsignZeros_unsignZeros value, fun same => same⟩

/-- Members that are plain come back one by one. -/
theorem decodedAttrs_encodeAttrs {own : List (JsString × JsValue)}
    (inOrder : InOrder own) (noPrototype : js "__proto__" ∉ own.map Prod.fst)
    (recovers : ∀ member ∈ own,
      (encodeAnyValue (.ofJsValue member.2)).decoded = unsignZeros member.2) :
    decodedAttrs (.object []) (encodeAttrs (membersOf own)) =
      unsignZeros (.object own) := by
  have attributes : encodeAttrs (membersOf own) = own.map fun member =>
      (member.1, encodeAnyValue (.ofJsValue member.2)) := by
    rw [encodeAttrs_eq_map, membersOf_eq_map, List.map_map]
    rfl
  have names : (encodeAttrs (membersOf own)).map Prod.fst =
      own.map Prod.fst := by
    rw [attributes, List.map_map]
    rfl
  rw [decodedAttrs_object (by rw [attributes]; exact inOrder.map fun _ => rfl)
    (by rw [names]; exact noPrototype), attributes, List.map_map, unsignZeros,
    unsignMembers_eq_map]
  congr 1
  apply List.map_congr_left
  intro member isMember
  exact congrArg (Prod.mk member.1) (recovers member isMember)

theorem decoded_encodeAnyValue (plain : Plain value) :
    (encodeAnyValue (.ofJsValue value)).decoded = unsignZeros value := by
  induction plain with
  | string text => rfl
  | bool value => rfl
  | safeInteger isSafe =>
      rw [Value.ofJsValue, encodeAnyValue,
        if_pos (isInteger_of_isSafeInteger isSafe), AnyValue.decoded,
        safeInteger?_toText isSafe]
      rfl
  | @fraction decimal fractional =>
      have notInteger : ¬ JsNumber.isInteger (.finite decimal) = true := by
        simpa [JsNumber.isInteger] using fractional
      have nonzero : decimal.digits ≠ 0 := by
        intro zero
        have lowest := decimal.lowest
        omega
      rw [Value.ofJsValue, encodeAnyValue, if_neg notInteger, AnyValue.decoded,
        unsignZeros, unsignZero, if_neg nonzero]
  | @array items _ inductionHypothesis =>
      rw [Value.ofJsValue, encodeAnyValue, AnyValue.decoded, unsignZeros,
        decodedItems_eq_map, encodeItems_eq_map, valuesOf_eq_map,
        unsignItems_eq_map, List.map_map, List.map_map]
      congr 1
      exact List.map_congr_left inductionHypothesis
  | object inOrder noPrototype _ inductionHypothesis =>
      exact decodedAttrs_encodeAttrs inOrder noPrototype inductionHypothesis

/-- Every plain value is recovered from its encoding. -/
theorem roundTrips (plain : Plain value) : RoundTrips value where
  anyValue := by
    rw [decodeAnyValue?_toJson, decoded_encodeAnyValue plain]
    exact recovers_unsignZeros value
  attrs := by
    rintro own rfl
    cases plain with
    | object inOrder noPrototype members =>
        rw [decodeAttrs?_toJson, decodedAttrs_encodeAttrs inOrder noPrototype
          fun member isMember => decoded_encodeAnyValue (members member isMember)]
        exact recovers_unsignZeros (.object own)

/-- An object of a text, a safe integer, a fraction and a list. -/
theorem mixed_roundTrips : RoundTrips
    (.object [(js "name", .string (js "alpha")),
      (js "count", .number (.ofNat 42 (by decide))),
      (js "share", .number (.finite ⟨true, 15, -1, by decide⟩)),
      (js "tags", .array [.bool true, .string []] [])]) := by
  apply roundTrips
  apply Plain.object (by decide) (by decide)
  intro member isMember
  simp only [List.mem_cons, List.not_mem_nil, or_false] at isMember
  rcases isMember with rfl | rfl | rfl | rfl
  · exact .string _
  · exact .safeInteger (by decide)
  · exact .fraction (by decide)
  · apply Plain.array
    intro item isItem
    simp only [List.mem_cons, List.not_mem_nil, or_false] at isItem
    rcases isItem with rfl | rfl
    · exact .bool _
    · exact .string _

end

/-! ### Encoding again -/

mutual

/-- The members of every object in the value are in order, and none of them is
called `__proto__`. -/
def Value.Regular : Value → Prop
  | .array items => RegularItems items
  | .object members =>
      InOrder members ∧ js "__proto__" ∉ members.map Prod.fst ∧
        RegularMembers members
  | _ => True

def RegularItems : List Value → Prop
  | [] => True
  | item :: rest => item.Regular ∧ RegularItems rest

def RegularMembers : List (JsString × Value) → Prop
  | [] => True
  | (_, value) :: rest => value.Regular ∧ RegularMembers rest

end

mutual

/-- The tagged value with every integer that the decoder does not read as a
number under `stringValue`. -/
def AnyValue.keptAsText : AnyValue → AnyValue
  | .intValue text =>
      if (safeInteger? text).isSome then .intValue text else .stringValue text
  | .arrayValue values => .arrayValue (itemsKeptAsText values)
  | .kvlistValue values => .kvlistValue (attrsKeptAsText values)
  | other => other

def itemsKeptAsText : List AnyValue → List AnyValue
  | [] => []
  | value :: rest => value.keptAsText :: itemsKeptAsText rest

def attrsKeptAsText : List (JsString × AnyValue) → List (JsString × AnyValue)
  | [] => []
  | (key, value) :: rest => (key, value.keptAsText) :: attrsKeptAsText rest

end

/-- `encodeAnyValue(decodeAnyValue(encodeAnyValue(value)))` -/
def reencode? (value : Value) : Option AnyValue :=
  (decodeAnyValue? (encodeAnyValue value).toJson).map fun decoded =>
    encodeAnyValue (.ofJsValue decoded)

/-- A text that is read as a number is the text of that number. -/
theorem encode_decoded_intValue (text : JsString) :
    encodeAnyValue (.ofJsValue (AnyValue.intValue text).decoded) =
      (AnyValue.intValue text).keptAsText := by
  rw [AnyValue.decoded, AnyValue.keptAsText]
  cases found : safeInteger? text with
  | none => rfl
  | some number =>
      obtain ⟨isInteger, textEq⟩ := toText_of_safeInteger? found
      rw [Option.elim_some, Value.ofJsValue, encodeAnyValue, if_pos isInteger,
        textEq]
      rfl

mutual

theorem encode_decoded : (value : Value) → value.Regular →
    encodeAnyValue (.ofJsValue (encodeAnyValue value).decoded) =
      (encodeAnyValue value).keptAsText
  | .undefined, _ | .null, _ | .bool _, _ | .string _, _ | .other _, _ => rfl
  | .number number, _ => by
      rw [encodeAnyValue]
      by_cases isInteger : number.isInteger = true
      · rw [if_pos isInteger, encode_decoded_intValue]
      · rw [if_neg isInteger, AnyValue.decoded, Value.ofJsValue,
          encodeAnyValue, if_neg isInteger]
        rfl
  | .bigint value, _ => encode_decoded_intValue (bigintText value)
  | .array items, regular => by
      rw [encodeAnyValue, AnyValue.decoded, Value.ofJsValue, encodeAnyValue,
        encode_decodedItems items regular]
      rfl
  | .object members, ⟨inOrder, noPrototype, regular⟩ => by
      have names : (encodeAttrs members).map Prod.fst =
          members.map Prod.fst := by
        rw [encodeAttrs_eq_map, List.map_map]
        rfl
      have attributesInOrder : InOrder (encodeAttrs members) := by
        rw [encodeAttrs_eq_map]
        exact inOrder.map fun _ => rfl
      rw [encodeAnyValue, AnyValue.decoded,
        decodedAttrs_object attributesInOrder (names ▸ noPrototype),
        Value.ofJsValue, encodeAnyValue, encode_decodedAttrs members regular]
      rfl

theorem encode_decodedItems : (items : List Value) → RegularItems items →
    encodeItems (valuesOf (decodedItems (encodeItems items))) =
      itemsKeptAsText (encodeItems items)
  | [], _ => rfl
  | item :: rest, ⟨regular, restRegular⟩ => by
      rw [encodeItems, decodedItems, valuesOf, encodeItems, itemsKeptAsText,
        encode_decoded item regular, encode_decodedItems rest restRegular]

theorem encode_decodedAttrs : (members : List (JsString × Value)) →
    RegularMembers members →
    encodeAttrs (membersOf ((encodeAttrs members).map fun entry =>
        (entry.1, entry.2.decoded))) =
      attrsKeptAsText (encodeAttrs members)
  | [], _ => rfl
  | (key, value) :: rest, ⟨regular, restRegular⟩ => by
      rw [encodeAttrs, List.map_cons, membersOf, encodeAttrs, attrsKeptAsText,
        encode_decoded value regular, encode_decodedAttrs rest restRegular]

end

/-- Encoding again changes nothing but the tag of the integers that the decoder
keeps as texts. -/
theorem reencode?_eq {value : Value} (regular : value.Regular) :
    reencode? value = some (encodeAnyValue value).keptAsText := by
  rw [reencode?, decodeAnyValue?_toJson, Option.map_some,
    encode_decoded value regular]

/-- A safe integer keeps its tag, and the next bigint behind the safe ones does
not. -/
theorem bigints_reencoded :
    reencode? (.array [.bigint 9007199254740991, .bigint 9007199254740992]) =
      some (encodeAnyValue (.array
        [.bigint 9007199254740991, .bigint 9007199254740992])).keptAsText :=
  reencode?_eq ⟨trivial, trivial, trivial⟩

/-- A bigint beyond the safe integers is encoded again as a string. -/
theorem bigint_notStable : ¬ ∀ value : Value,
    reencode? value = some (encodeAnyValue value) := by
  intro stable
  have large := stable (.bigint 9007199254740992)
  have noInteger : safeInteger? (bigintText 9007199254740992) = none := by
    decide +kernel
  have encoded : encodeAnyValue (.bigint 9007199254740992) =
      .intValue (bigintText 9007199254740992) := rfl
  have regular : Value.Regular (.bigint 9007199254740992) := trivial
  rw [reencode?_eq regular, encoded, AnyValue.keptAsText, noInteger] at large
  cases large

end RtsNotebook.Otel
