import RtsNotebook.Js.JsonText

/-!
# `TextEncoder` and `TextDecoder`

The decoder of `new TextDecoder('utf-8')` replaces what is malformed and drops
a mark at the beginning.
-/

namespace RtsNotebook.Js

/-- `new TextEncoder().encode(text)`; an unpaired surrogate is replaced. -/
def encodeText (text : JsString) : List UInt8 :=
  utf8 (scalars text)

/-- How many octets of a malformed sequence continue it: as many as are still
needed, the first of them in a range. -/
def continuing (lower upper : UInt8) : Nat → List UInt8 → Nat
  | needed + 1, octet :: rest =>
      if lower ≤ octet ∧ octet ≤ upper then
        1 + continuing 0x80 0xBF needed rest
      else
        0
  | _, _ => 0

/-- The octets that one replacement character stands for. -/
def malformedLength : List UInt8 → Nat
  | [] => 0
  | lead :: rest =>
      1 +
        if 0xC2 ≤ lead ∧ lead ≤ 0xDF then continuing 0x80 0xBF 1 rest
        else if lead = 0xE0 then continuing 0xA0 0xBF 2 rest
        else if lead = 0xED then continuing 0x80 0x9F 2 rest
        else if 0xE1 ≤ lead ∧ lead ≤ 0xEF then continuing 0x80 0xBF 2 rest
        else if lead = 0xF0 then continuing 0x90 0xBF 3 rest
        else if 0xF1 ≤ lead ∧ lead ≤ 0xF3 then continuing 0x80 0xBF 3 rest
        else if lead = 0xF4 then continuing 0x80 0x8F 3 rest
        else 0

/-- The scalar values of octets; what is malformed is replaced. -/
def decodeScalars (octets : List UInt8) : List Char :=
  match octets with
  | [] => []
  | octet :: rest =>
      match (octet :: rest).toByteArray.utf8DecodeChar? 0 with
      | some character =>
          character :: decodeScalars (rest.drop (character.utf8Size - 1))
      | none =>
          '\uFFFD' ::
            decodeScalars (rest.drop (malformedLength (octet :: rest) - 1))
termination_by octets.length

def dropMark : List Char → List Char
  | '\uFEFF' :: rest => rest
  | characters => characters

/-- `new TextDecoder('utf-8').decode(octets)` -/
def decodeText (octets : List UInt8) : JsString :=
  units (dropMark (decodeScalars octets))

/-- Octets that are well formed are decoded one character after the other. -/
theorem decodeScalars_utf8 (characters : List Char) :
    decodeScalars (utf8 characters) = characters := by
  induction characters with
  | nil => exact decodeScalars.eq_1
  | cons character rest inductionHypothesis =>
      obtain ⟨lead, others, encoded⟩ := List.exists_cons_of_ne_nil
        (@String.utf8EncodeChar_ne_nil character)
      have octets : utf8 (character :: rest) = lead :: (others ++ utf8 rest) := by
        rw [utf8, List.flatMap_cons, encoded]
        rfl
      have first : (lead :: (others ++ utf8 rest)).toByteArray.utf8DecodeChar? 0
          = some character := by
        rw [← List.cons_append, ← encoded, List.toByteArray_append]
        exact ByteArray.utf8DecodeChar?_utf8EncodeChar_append
      have length : character.utf8Size - 1 = others.length := by
        rw [← String.length_utf8EncodeChar, encoded]
        rfl
      rw [octets, decodeScalars, first]
      dsimp only
      rw [length, List.drop_left, inductionHypothesis]

/-- What is encoded is decoded, but for a mark at the beginning. -/
theorem decodeText_encodeText (text : JsString) :
    decodeText (encodeText text) = units (dropMark (scalars text)) := by
  rw [decodeText, encodeText, decodeScalars_utf8]

theorem dropMark_eq_self {characters : List Char}
    (noMark : characters.head? ≠ some '\uFEFF') :
    dropMark characters = characters := by
  rw [dropMark.eq_def]
  split
  · exact absurd rfl noMark
  · rfl

theorem scalarOf_eq_mark (codeUnit : UInt16) :
    scalarOf codeUnit = '\uFEFF' ↔ codeUnit = byteOrderMark := by
  constructor
  · intro isMark
    rw [scalarOf] at isMark
    split at isMark
    · exact absurd isMark (by decide)
    · rename_i notSurrogate
      rw [Bool.or_eq_true_iff, not_or, isLeadSurrogate_iff,
        isTrailSurrogate_iff] at notSurrogate
      have below : codeUnit.toNat < 0x10000 := codeUnit.toNat_lt
      have valid : codeUnit.toNat.isValidChar := by
        rw [Nat.isValidChar]
        omega
      have code := congrArg Char.toNat isMark
      rw [Encodes.toNat_ofNat valid] at code
      exact UInt16.toNat_inj.mp code
  · rintro rfl
    decide

theorem scalarOfPair_ne_mark {lead trail : UInt16}
    (isLead : isLeadSurrogate lead = true)
    (isTrail : isTrailSurrogate trail = true) :
    scalarOfPair lead trail ≠ '\uFEFF' := by
  intro isMark
  rw [isLeadSurrogate_iff] at isLead
  rw [isTrailSurrogate_iff] at isTrail
  have valid : (0x10000 + (lead.toNat - 0xD800) * 0x400 +
      (trail.toNat - 0xDC00)).isValidChar := by
    rw [Nat.isValidChar]
    omega
  have code := congrArg Char.toNat isMark
  rw [scalarOfPair, Encodes.toNat_ofNat valid] at code
  have mark : ('\uFEFF').toNat = 0xFEFF := rfl
  omega

/-- The characters of a text begin with a mark where the text does. -/
theorem head?_scalars (text : JsString) :
    (scalars text).head? = some '\uFEFF' ↔ text.head? = some byteOrderMark := by
  rw [scalars.eq_def]
  split
  · simp
  · simp [scalarOf_eq_mark]
  · split
    · rename_i first second rest isPair
      obtain ⟨isLead, isTrail⟩ := Bool.and_eq_true_iff.mp isPair
      have notMark : first ≠ byteOrderMark := by
        rintro rfl
        exact absurd isLead (by decide)
      simp [scalarOfPair_ne_mark isLead isTrail, notMark]
    · simp [scalarOf_eq_mark]

/-- A text survives if and only if it is well formed and has no mark at the
beginning. -/
theorem decodeText_encodeText_iff (text : JsString) :
    decodeText (encodeText text) = text ↔
      isWellFormed text = true ∧ text.head? ≠ some byteOrderMark := by
  rw [decodeText_encodeText, isWellFormed, decide_eq_true_iff]
  by_cases isMark : (scalars text).head? = some '\uFEFF'
  · obtain ⟨rest, hasMark⟩ := List.head?_eq_some_iff.mp isMark
    have dropped : dropMark (scalars text) = rest := by
      rw [hasMark]
      rfl
    constructor
    · intro same
      have decoded := scalars_units rest
      rw [← dropped, same, hasMark] at decoded
      exact absurd (congrArg List.length decoded) (Nat.succ_ne_self _)
    · rintro ⟨_, noMark⟩
      exact absurd ((head?_scalars text).mp isMark) noMark
  · rw [dropMark_eq_self isMark]
    exact (and_iff_left (mt (head?_scalars text).mpr isMark)).symm

/-- The text of a value is decoded as it was encoded. -/
theorem decodeText_stringify {gap indent text : JsString}
    (encodesGap : Encodes gap) (encodesIndent : Encodes indent)
    {value : JsValue} (isText : value.stringify? gap indent = some text) :
    decodeText (encodeText text) = text := by
  have noMark := mt (head?_scalars text).mp (head?_stringify isText)
  obtain ⟨characters, rfl⟩ :=
    Encodes.stringify encodesGap encodesIndent value text isText
  rw [decodeText_encodeText, dropMark_eq_self noMark, scalars_units]

end RtsNotebook.Js
