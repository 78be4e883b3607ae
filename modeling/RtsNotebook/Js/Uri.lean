import Mathlib.Data.Bool.AllAny
import RtsNotebook.Js.Unicode

/-!
# Percent-encoding

`encodeURIComponent` and `decodeURIComponent`.  Both throw a `URIError`, which
is `none` here: the one at an unpaired surrogate, the other at an escape that
is none or at octets that are no UTF-8.
-/

namespace RtsNotebook.Js

/-- The characters that `encodeURIComponent` leaves. -/
def unreserved : List Char :=
  "ABCDEFGHIJKLMNOPQRSTUVWXYZabcdefghijklmnopqrstuvwxyz0123456789-_.!~*'()".toList

def upperHexDigit (value : Nat) : UInt16 :=
  UInt16.ofNat (if value < 10 then 48 + value else 55 + value)

def percentMark : UInt16 := unit '%'

def percentOctet (octet : UInt8) : JsString :=
  [percentMark, upperHexDigit (octet.toNat / 16),
    upperHexDigit (octet.toNat % 16)]

def percentEncode (character : Char) : JsString :=
  if character ∈ unreserved then
    unitsOfChar character
  else
    (String.utf8EncodeChar character).flatMap percentOctet

def encodeURIComponent (text : JsString) : Option JsString :=
  if isWellFormed text then
    some ((scalars text).flatMap percentEncode)
  else
    none

/-- A code unit that stands for itself, or the octet of an escape. -/
inductive UriPiece where
  | codeUnit (value : UInt16)
  | octet (value : UInt8)

/-- A text with its escapes read. -/
def uriPieces? : JsString → Option (List UriPiece)
  | [] => some []
  | first :: rest =>
      if first = percentMark then
        match rest with
        | high :: low :: rest => do
            let high ← digitValue 16 high
            let low ← digitValue 16 low
            let pieces ← uriPieces? rest
            pure (.octet (UInt8.ofNat (high * 16 + low)) :: pieces)
        | _ => none
      else do
        let pieces ← uriPieces? rest
        pure (.codeUnit first :: pieces)

/-- The text of some pieces, behind the octets of the escapes before them. -/
def decodePieces (octets : List UInt8) : List UriPiece → Option JsString
  | [] => (decodeUtf8? octets).map units
  | .octet octet :: rest => decodePieces (octets ++ [octet]) rest
  | .codeUnit codeUnit :: rest => do
      let characters ← decodeUtf8? octets
      let text ← decodePieces [] rest
      pure (units characters ++ codeUnit :: text)

def decodeURIComponent (text : JsString) : Option JsString :=
  (uriPieces? text).bind (decodePieces [])

/-! ### Pieces -/

theorem digitValue_upperHexDigit :
    ∀ value < 16, digitValue 16 (upperHexDigit value) = some value := by
  decide

theorem uriPieces?_plain {codeUnit : UInt16} {rest : JsString}
    (notMark : codeUnit ≠ percentMark) :
    uriPieces? (codeUnit :: rest) =
      (uriPieces? rest).map (.codeUnit codeUnit :: ·) := by
  rw [uriPieces?.eq_def]
  dsimp only
  rw [if_neg notMark]
  cases uriPieces? rest with
  | none => rfl
  | some pieces => rfl

theorem uriPieces?_escape {high low : UInt16} {rest : JsString} :
    uriPieces? (percentMark :: high :: low :: rest) =
      (digitValue 16 high).bind fun high =>
        (digitValue 16 low).bind fun low =>
          (uriPieces? rest).map
            (.octet (UInt8.ofNat (high * 16 + low)) :: ·) := by
  rw [uriPieces?.eq_def]
  dsimp only
  rw [if_pos rfl]
  cases digitValue 16 high with
  | none => rfl
  | some high =>
      cases digitValue 16 low with
      | none => rfl
      | some low => cases uriPieces? rest <;> rfl

theorem uriPieces?_octet (octet : UInt8) (rest : JsString) :
    uriPieces? (percentOctet octet ++ rest) =
      (uriPieces? rest).map (.octet octet :: ·) := by
  have below : octet.toNat < 256 := octet.toNat_lt
  have high := digitValue_upperHexDigit (octet.toNat / 16) (by omega)
  have low := digitValue_upperHexDigit (octet.toNat % 16) (by omega)
  have same : UInt8.ofNat (octet.toNat / 16 * 16 + octet.toNat % 16) =
      octet := by
    rw [Nat.div_add_mod' octet.toNat 16, UInt8.ofNat_toNat]
  change uriPieces? (percentMark :: _ :: _ :: rest) = _
  rw [uriPieces?_escape, high, low, Option.bind_some, Option.bind_some, same]

theorem uriPieces?_octets (octets : List UInt8) (rest : JsString) :
    uriPieces? (octets.flatMap percentOctet ++ rest) =
      (uriPieces? rest).map (octets.map .octet ++ ·) := by
  induction octets with
  | nil => exact Option.map_id'.symm
  | cons octet octets inductionHypothesis =>
      rw [List.flatMap_cons, List.append_assoc, uriPieces?_octet,
        inductionHypothesis, Option.map_map]
      rfl

theorem decodePieces_octets (before octets : List UInt8)
    (rest : List UriPiece) :
    decodePieces before (octets.map .octet ++ rest) =
      decodePieces (before ++ octets) rest := by
  induction octets generalizing before with
  | nil => rw [List.append_nil]; rfl
  | cons octet octets inductionHypothesis =>
      rw [List.map_cons, List.cons_append, decodePieces, inductionHypothesis,
        List.append_assoc]
      rfl

/-! ### Written texts -/

/-- One character of a text with escapes. -/
inductive Written where
  | plain (character : Char) (basic : character.toNat < 0x10000)
      (notMark : unit character ≠ percentMark)
  | escaped (character : Char)

namespace Written

def character : Written → Char
  | plain character _ _ => character
  | escaped character => character

def text : Written → JsString
  | plain character _ _ => [unit character]
  | escaped character =>
      (String.utf8EncodeChar character).flatMap percentOctet

def pieces : Written → List UriPiece
  | plain character _ _ => [.codeUnit (unit character)]
  | escaped character => (String.utf8EncodeChar character).map .octet

theorem uriPieces?_written (written : List Written) :
    uriPieces? (written.flatMap text) = some (written.flatMap pieces) := by
  induction written with
  | nil => rfl
  | cons first rest inductionHypothesis =>
      rw [List.flatMap_cons, List.flatMap_cons]
      cases first with
      | plain character basic notMark =>
          rw [text, List.singleton_append, uriPieces?_plain notMark,
            inductionHypothesis]
          rfl
      | escaped character =>
          rw [text, uriPieces?_octets, inductionHypothesis]
          rfl

/-- Escapes that stand beside each other are decoded together. -/
theorem decodePieces_written (pending : List Char) (written : List Written) :
    decodePieces (utf8 pending) (written.flatMap pieces) =
      some (units (pending ++ written.map character)) := by
  induction written generalizing pending with
  | nil =>
      rw [List.flatMap_nil, decodePieces, decodeUtf8?_utf8, List.map_nil,
        List.append_nil]
      rfl
  | cons first rest inductionHypothesis =>
      rw [List.flatMap_cons, List.map_cons]
      cases first with
      | plain character basic notMark =>
          have behind := inductionHypothesis []
          have unitEq : unitsOfChar character = [unit character] :=
            unitsOfChar_basic basic
          change decodePieces [] (rest.flatMap pieces) = _ at behind
          rw [pieces, List.singleton_append, decodePieces, decodeUtf8?_utf8,
            behind]
          rw [units_append pending, Written.character, units_cons, unitEq]
          rfl
      | escaped character =>
          have behind := inductionHypothesis (pending ++ [character])
          rw [utf8_append, utf8_singleton] at behind
          rw [pieces, decodePieces_octets, behind, Written.character,
            List.append_assoc]
          rfl

/-- A text with escapes is decoded to its characters. -/
theorem decodeURIComponent_written (written : List Written) :
    decodeURIComponent (written.flatMap text) =
      some (units (written.map character)) := by
  have decoded := decodePieces_written [] written
  rw [List.nil_append] at decoded
  rw [decodeURIComponent, uriPieces?_written]
  exact decoded

end Written

/-! ### Encoding -/

/-- An unreserved character is a plain one. -/
theorem plain_of_unreserved :
    ∀ character ∈ unreserved, character.toNat < 0x10000 ∧
      unit character ≠ percentMark :=
  List.all_iff_forall_prop.mp (by decide)

/-- A character as `encodeURIComponent` writes it. -/
def writeComponent (character : Char) : Written :=
  if isLeft : character ∈ unreserved then
    .plain character (plain_of_unreserved character isLeft).1
      (plain_of_unreserved character isLeft).2
  else
    .escaped character

theorem writeComponent_character (character : Char) :
    (writeComponent character).character = character := by
  rw [writeComponent]
  split <;> rfl

theorem writeComponent_text (character : Char) :
    (writeComponent character).text = percentEncode character := by
  rw [writeComponent, percentEncode]
  split
  · rename_i isLeft
    exact (unitsOfChar_basic (plain_of_unreserved character isLeft).1).symm
  · rfl

/-- Characters that are well formed are encoded one by one. -/
theorem encodeURIComponent_units (characters : List Char) :
    encodeURIComponent (units characters) =
      some ((characters.map writeComponent).flatMap Written.text) := by
  have sameText : (fun character => (writeComponent character).text) =
      percentEncode := funext writeComponent_text
  rw [encodeURIComponent, if_pos (isWellFormed_units characters),
    scalars_units, List.flatMap_map, sameText]

theorem characters_writeComponent (characters : List Char) :
    (characters.map writeComponent).map Written.character = characters := by
  rw [List.map_map]
  have same : Written.character ∘ writeComponent = id :=
    funext writeComponent_character
  rw [same, List.map_id]

/-! ### Texts without and with escapes -/

theorem decodeURIComponent_plain {text : JsString}
    (noMark : percentMark ∉ text) : decodeURIComponent text = some text := by
  have read : uriPieces? text = some (text.map .codeUnit) := by
    induction text with
    | nil => rfl
    | cons codeUnit rest inductionHypothesis =>
        have notMark := List.ne_of_not_mem_cons noMark
        have noneBehind := List.not_mem_of_not_mem_cons noMark
        rw [uriPieces?_plain (Ne.symm notMark), inductionHypothesis noneBehind]
        rfl
  have decoded : ∀ text : JsString,
      decodePieces [] (text.map .codeUnit) = some text := by
    intro text
    induction text with
    | nil => rfl
    | cons codeUnit rest inductionHypothesis =>
        have none := decodeUtf8?_utf8 []
        change decodeUtf8? [] = _ at none
        rw [List.map_cons, decodePieces, inductionHypothesis, none]
        rfl
  rw [decodeURIComponent, read]
  exact decoded text

/-- The text of pieces is no longer than they are many. -/
theorem length_decodePieces {octets : List UInt8} {pieces : List UriPiece}
    {text : JsString} (decoded : decodePieces octets pieces = some text) :
    text.length ≤ octets.length + pieces.length := by
  have unitsLe {octets : List UInt8} {characters : List Char}
      (decoded : decodeUtf8? octets = some characters) :
      (units characters).length ≤ octets.length := by
    rw [← utf8_of_decodeUtf8? decoded]
    exact length_units_le characters
  induction pieces generalizing octets text with
  | nil =>
      obtain ⟨characters, isDecoded, rfl⟩ := Option.map_eq_some_iff.mp decoded
      exact unitsLe isDecoded
  | cons piece rest inductionHypothesis =>
      cases piece with
      | octet octet =>
          have behind := inductionHypothesis decoded
          rw [List.length_append, List.length_singleton] at behind
          rw [List.length_cons]
          omega
      | codeUnit codeUnit =>
          obtain ⟨characters, isDecoded, decoded⟩ :=
            Option.bind_eq_some_iff.mp decoded
          obtain ⟨behind, isBehind, decoded⟩ :=
            Option.bind_eq_some_iff.mp decoded
          cases decoded
          have behindLe := inductionHypothesis isBehind
          have charactersLe := unitsLe isDecoded
          rw [List.length_nil, Nat.zero_add] at behindLe
          rw [List.length_append, List.length_cons, List.length_cons]
          omega

/-- An escape is longer than its octet. -/
theorem length_uriPieces? {text : JsString} {pieces : List UriPiece}
    (read : uriPieces? text = some pieces) :
    pieces.length ≤ text.length ∧
      (percentMark ∈ text → pieces.length < text.length) := by
  induction text using uriPieces?.induct generalizing pieces with
  | case1 =>
      cases read
      exact ⟨Nat.le_refl _, fun isMember => absurd isMember List.not_mem_nil⟩
  | case2 high low rest inductionHypothesis =>
      rw [uriPieces?_escape] at read
      obtain ⟨_, _, read⟩ := Option.bind_eq_some_iff.mp read
      obtain ⟨_, _, read⟩ := Option.bind_eq_some_iff.mp read
      obtain ⟨behind, isBehind, rfl⟩ := Option.map_eq_some_iff.mp read
      have shorter := (inductionHypothesis isBehind).1
      simp only [List.length_cons]
      omega
  | case3 rest noDigits =>
      rw [uriPieces?.eq_def] at read
      dsimp only at read
      rw [if_pos rfl] at read
      split at read
      · exact absurd rfl (noDigits _ _ _)
      · cases read
  | case4 first rest notMark inductionHypothesis =>
      rw [uriPieces?_plain notMark] at read
      obtain ⟨behind, isBehind, rfl⟩ := Option.map_eq_some_iff.mp read
      obtain ⟨noLonger, shorter⟩ := inductionHypothesis isBehind
      refine ⟨Nat.succ_le_succ noLonger, fun isMember => ?_⟩
      rcases List.mem_cons.mp isMember with isMark | isMember
      · exact absurd isMark.symm notMark
      · exact Nat.succ_lt_succ (shorter isMember)

/-- Decoding never lengthens a text, and shortens one with an escape. -/
theorem length_decodeURIComponent {text decoded : JsString}
    (isDecoded : decodeURIComponent text = some decoded) :
    decoded.length ≤ text.length ∧
      (percentMark ∈ text → decoded.length < text.length) := by
  obtain ⟨pieces, read, isDecoded⟩ := Option.bind_eq_some_iff.mp isDecoded
  have decodedLe := length_decodePieces isDecoded
  obtain ⟨noLonger, shorter⟩ := length_uriPieces? read
  rw [List.length_nil, Nat.zero_add] at decodedLe
  exact ⟨Nat.le_trans decodedLe noLonger,
    fun isMember => Nat.lt_of_le_of_lt decodedLe (shorter isMember)⟩

end RtsNotebook.Js
