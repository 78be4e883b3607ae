import RtsNotebook.Js.Value

/-!
# Characters of a string

The scalar values that a sequence of code units encodes, and their UTF-8 octets
as `TextEncoder` and `encodeURIComponent` write them and `TextDecoder` and
`decodeURIComponent` read them.
-/

namespace RtsNotebook.Js

/-- The string that encodes some scalar values. -/
def units (characters : List Char) : JsString :=
  characters.flatMap unitsOfChar

/-- An unpaired surrogate is replaced. -/
def scalarOf (codeUnit : UInt16) : Char :=
  if isLeadSurrogate codeUnit || isTrailSurrogate codeUnit then
    '\uFFFD'
  else
    Char.ofNat codeUnit.toNat

def scalarOfPair (lead trail : UInt16) : Char :=
  Char.ofNat
    (0x10000 + (lead.toNat - 0xD800) * 0x400 + (trail.toNat - 0xDC00))

/-- The scalar values of a string, as a `USVString` has them. -/
def scalars : JsString → List Char
  | [] => []
  | [only] => [scalarOf only]
  | first :: second :: rest =>
      if isLeadSurrogate first && isTrailSurrogate second then
        scalarOfPair first second :: scalars rest
      else
        scalarOf first :: scalars (second :: rest)

/-- `String.prototype.isWellFormed` -/
def isWellFormed (text : JsString) : Bool :=
  units (scalars text) = text

/-- The octets of scalar values. -/
def utf8 (characters : List Char) : List UInt8 :=
  characters.flatMap String.utf8EncodeChar

/-- The scalar values of octets, unless they are malformed. -/
def decodeUtf8? (octets : List UInt8) : Option (List Char) :=
  octets.toByteArray.utf8Decode?.map Array.toList

/-! ### Code units -/

theorem units_append (first second : List Char) :
    units (first ++ second) = units first ++ units second :=
  List.flatMap_append

theorem units_cons (character : Char) (rest : List Char) :
    units (character :: rest) = unitsOfChar character ++ units rest :=
  List.flatMap_cons

/-- A scalar value is no surrogate. -/
theorem toNat_of_scalar (character : Char) :
    character.toNat < 0xD800 ∨
      0xDFFF < character.toNat ∧ character.toNat < 0x110000 :=
  character.valid

theorem isLeadSurrogate_iff {codeUnit : UInt16} :
    isLeadSurrogate codeUnit = true ↔
      0xD800 ≤ codeUnit.toNat ∧ codeUnit.toNat ≤ 0xDBFF := by
  simp [isLeadSurrogate, UInt16.le_iff_toNat_le]

theorem isTrailSurrogate_iff {codeUnit : UInt16} :
    isTrailSurrogate codeUnit = true ↔
      0xDC00 ≤ codeUnit.toNat ∧ codeUnit.toNat ≤ 0xDFFF := by
  simp [isTrailSurrogate, UInt16.le_iff_toNat_le]

variable {character : Char} {codeUnit : UInt16} {text : JsString}

theorem unitsOfChar_basic (basic : character.toNat < 0x10000) :
    unitsOfChar character = [UInt16.ofNat character.toNat] :=
  if_pos basic

theorem toNat_unit (basic : character.toNat < 0x10000) :
    (UInt16.ofNat character.toNat).toNat = character.toNat := by
  rw [UInt16.toNat_ofNat']
  exact Nat.mod_eq_of_lt basic

/-- Beyond the basic plane stands a pair of surrogates. -/
theorem unitsOfChar_beyond (beyond : ¬ character.toNat < 0x10000) :
    ∃ lead trail, unitsOfChar character = [lead, trail] ∧
      isLeadSurrogate lead = true ∧ isTrailSurrogate trail = true ∧
      scalarOfPair lead trail = character := by
  have bounds := toNat_of_scalar character
  refine ⟨_, _, if_neg beyond, ?_, ?_, ?_⟩
  · rw [isLeadSurrogate_iff, UInt16.toNat_ofNat']
    omega
  · rw [isTrailSurrogate_iff, UInt16.toNat_ofNat']
    omega
  · have same : 0x10000 +
        ((UInt16.ofNat (0xD800 + (character.toNat - 0x10000) / 0x400)).toNat -
          0xD800) * 0x400 +
        ((UInt16.ofNat (0xDC00 + (character.toNat - 0x10000) % 0x400)).toNat -
          0xDC00) = character.toNat := by
      rw [UInt16.toNat_ofNat', UInt16.toNat_ofNat']
      omega
    rw [scalarOfPair, same, Char.ofNat_toNat]

theorem scalars_cons (notLead : isLeadSurrogate codeUnit = false) :
    scalars (codeUnit :: text) = scalarOf codeUnit :: scalars text := by
  cases text with
  | nil => rfl
  | cons second rest =>
      rw [scalars, notLead, Bool.false_and, if_neg Bool.false_ne_true]

theorem scalars_pair {lead trail : UInt16}
    (isLead : isLeadSurrogate lead = true)
    (isTrail : isTrailSurrogate trail = true) :
    scalars (lead :: trail :: text) = scalarOfPair lead trail :: scalars text := by
  rw [scalars, isLead, isTrail, Bool.and_true, if_pos rfl]

theorem scalars_units_append (characters : List Char) :
    scalars (units characters ++ text) = characters ++ scalars text := by
  induction characters with
  | nil => rfl
  | cons character rest inductionHypothesis =>
      rw [units_cons, List.append_assoc]
      by_cases basic : character.toNat < 0x10000
      · have bounds := toNat_of_scalar character
        have notLead :
            isLeadSurrogate (UInt16.ofNat character.toNat) = false := by
          rw [← Bool.not_eq_true, isLeadSurrogate_iff, toNat_unit basic]
          omega
        have notTrail :
            isTrailSurrogate (UInt16.ofNat character.toNat) = false := by
          rw [← Bool.not_eq_true, isTrailSurrogate_iff, toNat_unit basic]
          omega
        have same : scalarOf (UInt16.ofNat character.toNat) = character := by
          rw [scalarOf, notLead, notTrail, Bool.or_false,
            if_neg Bool.false_ne_true, toNat_unit basic, Char.ofNat_toNat]
        rw [unitsOfChar_basic basic, List.singleton_append,
          scalars_cons notLead, same, inductionHypothesis]
        rfl
      · obtain ⟨lead, trail, pair, isLead, isTrail, same⟩ :=
          unitsOfChar_beyond basic
        rw [pair]
        have paired := @scalars_pair (units rest ++ text) lead trail isLead
          isTrail
        rw [List.cons_append, List.singleton_append, paired, same,
          inductionHypothesis]
        rfl

theorem scalars_units (characters : List Char) :
    scalars (units characters) = characters := by
  have decoded := @scalars_units_append [] characters
  rw [List.append_nil] at decoded
  exact decoded.trans (List.append_nil _)

theorem isWellFormed_units (characters : List Char) :
    isWellFormed (units characters) = true := by
  rw [isWellFormed, scalars_units]
  exact decide_eq_true rfl

theorem units_scalars (wellFormed : isWellFormed text = true) :
    units (scalars text) = text :=
  of_decide_eq_true wellFormed

/-! ### Octets -/

theorem utf8_append (first second : List Char) :
    utf8 (first ++ second) = utf8 first ++ utf8 second :=
  List.flatMap_append

theorem utf8_singleton (character : Char) :
    utf8 [character] = String.utf8EncodeChar character :=
  List.flatMap_singleton _ _

theorem decodeUtf8?_utf8 (characters : List Char) :
    decodeUtf8? (utf8 characters) = some characters := by
  have decoded : (utf8 characters).toByteArray.utf8Decode? =
      some characters.toArray := List.utf8Decode?_utf8Encode
  rw [decodeUtf8?, decoded]
  rfl

/-- Only octets of scalar values are decoded. -/
theorem utf8_of_decodeUtf8? {octets : List UInt8} {characters : List Char}
    (decoded : decodeUtf8? octets = some characters) :
    utf8 characters = octets := by
  obtain ⟨array, isArray, rfl⟩ := Option.map_eq_some_iff.mp decoded
  have isSome : octets.toByteArray.utf8Decode?.isSome = true :=
    Option.isSome_of_eq_some isArray
  have encoded := @ByteArray.utf8Encode_get_utf8Decode? _ isSome
  rw [Option.get_of_eq_some isSome isArray] at encoded
  have sameOctets : (utf8 array.toList).toByteArray.data.toList =
      octets.toByteArray.data.toList := congrArg (·.data.toList) encoded
  rwa [List.toList_data_toByteArray, List.toList_data_toByteArray]
    at sameOctets

theorem length_unitsOfChar_le (character : Char) :
    (unitsOfChar character).length ≤
      (String.utf8EncodeChar character).length := by
  by_cases basic : character.toNat < 0x10000
  · rw [unitsOfChar_basic basic, String.length_utf8EncodeChar]
    exact character.utf8Size_pos
  · have notOne : ¬ character.val.toNat ≤ 0x7F := by
      intro small
      exact basic (Nat.lt_of_le_of_lt small (by decide))
    rw [unitsOfChar, if_neg basic, String.utf8EncodeChar, if_neg notOne]
    split
    · exact Nat.le_refl _
    · split
      · exact Nat.le_succ _
      · exact Nat.le_add_right 2 2

theorem length_units_le (characters : List Char) :
    (units characters).length ≤ (utf8 characters).length := by
  induction characters with
  | nil => exact Nat.le_refl _
  | cons character rest inductionHypothesis =>
      have first := length_unitsOfChar_le character
      rw [units, utf8, List.flatMap_cons, List.flatMap_cons,
        List.length_append, List.length_append]
      exact Nat.add_le_add first inductionHypothesis

end RtsNotebook.Js
