import Mathlib.Data.Bool.AllAny
import RtsNotebook.Js.NumberText
import RtsNotebook.Js.Unicode

/-!
# The text of a JSON value

`JSON.stringify` escapes unpaired surrogates, so that its text is well formed
whatever strings the value holds.
-/

namespace RtsNotebook.Js

/-- A text that encodes scalar values. -/
def Encodes (text : JsString) : Prop :=
  ∃ characters, text = units characters

namespace Encodes

variable {first second text : JsString}

theorem nil : Encodes [] :=
  ⟨[], rfl⟩

theorem literal (text : String) : Encodes (js text) :=
  ⟨text.toList, rfl⟩

theorem append (encodesFirst : Encodes first) (encodesSecond : Encodes second) :
    Encodes (first ++ second) := by
  obtain ⟨characters, rfl⟩ := encodesFirst
  obtain ⟨others, rfl⟩ := encodesSecond
  exact ⟨characters ++ others, (units_append _ _).symm⟩

theorem toNat_ofNat {code : Nat} (valid : code.isValidChar) :
    (Char.ofNat code).toNat = code := by
  rw [Char.ofNat, dif_pos valid]
  rfl

/-- A code unit that is no surrogate encodes a character. -/
theorem singleton {codeUnit : UInt16}
    (notLead : isLeadSurrogate codeUnit = false)
    (notTrail : isTrailSurrogate codeUnit = false) : Encodes [codeUnit] := by
  rw [← Bool.not_eq_true, isLeadSurrogate_iff] at notLead
  rw [← Bool.not_eq_true, isTrailSurrogate_iff] at notTrail
  have below : codeUnit.toNat < 0x10000 := codeUnit.toNat_lt
  have valid : codeUnit.toNat.isValidChar := by
    rw [Nat.isValidChar]
    omega
  have same := toNat_ofNat valid
  refine ⟨[Char.ofNat codeUnit.toNat], ?_⟩
  rw [units_cons, unitsOfChar_basic (by rw [same]; exact below), same,
    UInt16.ofNat_toNat]
  rfl

theorem of_forall (encodes : ∀ codeUnit ∈ text, Encodes [codeUnit]) :
    Encodes text := by
  induction text with
  | nil => exact nil
  | cons codeUnit rest inductionHypothesis =>
      have first := encodes codeUnit List.mem_cons_self
      have behind := inductionHypothesis fun other member =>
        encodes other (List.mem_cons_of_mem _ member)
      exact first.append behind

/-- A pair of surrogates encodes a character. -/
theorem pair {lead trail : UInt16} (isLead : isLeadSurrogate lead = true)
    (isTrail : isTrailSurrogate trail = true) : Encodes [lead, trail] := by
  rw [isLeadSurrogate_iff] at isLead
  rw [isTrailSurrogate_iff] at isTrail
  have valid : (0x10000 + (lead.toNat - 0xD800) * 0x400 +
      (trail.toNat - 0xDC00)).isValidChar := by
    rw [Nat.isValidChar]
    omega
  have same := toNat_ofNat valid
  refine ⟨[scalarOfPair lead trail], ?_⟩
  have beyond : ¬ (scalarOfPair lead trail).toNat < 0x10000 := by
    rw [scalarOfPair, same]
    omega
  have leadEq : 0xD800 + ((scalarOfPair lead trail).toNat - 0x10000) / 0x400 =
      lead.toNat := by
    rw [scalarOfPair, same]
    omega
  have trailEq : 0xDC00 + ((scalarOfPair lead trail).toNat - 0x10000) % 0x400 =
      trail.toNat := by
    rw [scalarOfPair, same]
    omega
  rw [units_cons, unitsOfChar, if_neg beyond, leadEq, trailEq,
    UInt16.ofNat_toNat, UInt16.ofNat_toNat]
  rfl

theorem number (value : JsNumber) : Encodes (JsNumber.toText value) := by
  have plain : ∀ codeUnit ∈ numberUnits,
      isLeadSurrogate codeUnit = false ∧ isTrailSurrogate codeUnit = false :=
    List.all_iff_forall_prop.mp (by decide)
  refine of_forall fun codeUnit member => ?_
  obtain ⟨notLead, notTrail⟩ :=
    plain codeUnit (IsNumberText.toText value codeUnit member)
  exact singleton notLead notTrail

/-! ### Quoted strings -/

theorem hexDigit_plain : ∀ value < 16,
    isLeadSurrogate (hexDigit value) = false ∧
      isTrailSurrogate (hexDigit value) = false := by
  decide

theorem hexDigit {value : Nat} (below : value < 16) :
    Encodes [hexDigit value] :=
  singleton (hexDigit_plain value below).1 (hexDigit_plain value below).2

theorem unicodeEscape (codeUnit : UInt16) :
    Encodes (unicodeEscape codeUnit) := by
  have below : codeUnit.toNat < 0x10000 := codeUnit.toNat_lt
  have first := @hexDigit (codeUnit.toNat / 4096) (by omega)
  have second := @hexDigit (codeUnit.toNat / 256 % 16) (by omega)
  have third := @hexDigit (codeUnit.toNat / 16 % 16) (by omega)
  have fourth := @hexDigit (codeUnit.toNat % 16) (by omega)
  have digits := ((first.append second).append third).append fourth
  exact (literal "\\u").append digits

theorem quoteUnit {codeUnit : UInt16}
    (notLead : isLeadSurrogate codeUnit = false)
    (notTrail : isTrailSurrogate codeUnit = false) :
    Encodes (quoteUnit codeUnit) := by
  rw [Js.quoteUnit]
  repeat' split
  · exact literal "\\b"
  · exact literal "\\t"
  · exact literal "\\n"
  · exact literal "\\f"
  · exact literal "\\r"
  · exact literal "\\\""
  · exact literal "\\\\"
  · exact unicodeEscape codeUnit
  · exact singleton notLead notTrail

theorem quoteUnits (text : JsString) : Encodes (quoteUnits text) := by
  induction text using Js.quoteUnits.induct with
  | case1 => exact nil
  | case2 lead trail rest isPair inductionHypothesis =>
      obtain ⟨isLead, isTrail⟩ := Bool.and_eq_true_iff.mp isPair
      rw [Js.quoteUnits, if_pos isPair]
      exact (pair isLead isTrail).append inductionHypothesis
  | case3 lead trail rest notPair isSurrogate inductionHypothesis =>
      rw [Js.quoteUnits, if_neg notPair, if_pos isSurrogate]
      exact (unicodeEscape lead).append inductionHypothesis
  | case4 lead trail rest notPair notSurrogate inductionHypothesis =>
      rw [Js.quoteUnits, if_neg notPair, if_neg notSurrogate]
      rw [Bool.or_eq_true_iff, not_or, Bool.not_eq_true, Bool.not_eq_true]
        at notSurrogate
      exact (quoteUnit notSurrogate.1 notSurrogate.2).append
        inductionHypothesis
  | case5 only isSurrogate =>
      rw [Js.quoteUnits, if_pos isSurrogate]
      exact unicodeEscape only
  | case6 only notSurrogate =>
      rw [Js.quoteUnits, if_neg notSurrogate]
      rw [Bool.or_eq_true_iff, not_or, Bool.not_eq_true, Bool.not_eq_true]
        at notSurrogate
      exact quoteUnit notSurrogate.1 notSurrogate.2

theorem quoteJson (text : JsString) : Encodes (quoteJson text) :=
  ((literal "\"").append (quoteUnits text)).append (literal "\"")

/-! ### Arrays and objects -/

theorem join {separator : JsString} (encodes : Encodes separator)
    {items : List JsString} (all : ∀ item ∈ items, Encodes item) :
    Encodes (join separator items) := by
  induction items using Js.join.induct with
  | case1 => exact nil
  | case2 only => exact all only List.mem_cons_self
  | case3 first rest notSingle inductionHypothesis =>
      have behind := inductionHypothesis fun item member =>
        all item (List.mem_cons_of_mem _ member)
      rw [Js.join.eq_3 _ _ _ notSingle]
      exact ((all first List.mem_cons_self).append encodes).append behind

theorem bracket {opening closing gap indent : JsString}
    (encodesOpening : Encodes opening) (encodesClosing : Encodes closing)
    (encodesGap : Encodes gap) (encodesIndent : Encodes indent)
    {items : List JsString} (all : ∀ item ∈ items, Encodes item) :
    Encodes (bracket opening closing gap indent items) := by
  have inner := ((literal "\n").append encodesIndent).append encodesGap
  have comma := literal ","
  rw [Js.bracket]
  split
  · exact encodesOpening.append encodesClosing
  · split
    · exact (encodesOpening.append (join comma all)).append encodesClosing
    · exact ((((encodesOpening.append inner).append
        (join (comma.append inner) all)).append (literal "\n")).append
        encodesIndent).append encodesClosing

mutual

theorem stringify {gap indent : JsString} (encodesGap : Encodes gap)
    (encodesIndent : Encodes indent) :
    (value : JsValue) → ∀ text ∈ value.stringify? gap indent, Encodes text
  | .undefined, _, isText => by cases isText
  | .null, _, isText => by cases isText; exact literal "null"
  | .bool true, _, isText => by cases isText; exact literal "true"
  | .bool false, _, isText => by cases isText; exact literal "false"
  | .number (.finite decimal), _, isText => by
      cases isText
      exact number (.finite decimal)
  | .number .nan, _, isText => by cases isText; exact literal "null"
  | .number (.infinity _), _, isText => by cases isText; exact literal "null"
  | .string value, _, isText => by cases isText; exact quoteJson value
  | .array items own, _, isText => by
      cases isText
      exact bracket (literal "[") (literal "]") encodesGap encodesIndent
        (stringifyItems encodesGap (encodesIndent.append encodesGap) items)
  | .object own, _, isText => by
      cases isText
      exact bracket (literal "\x7b") (literal "\x7d") encodesGap encodesIndent
        (stringifyMembers encodesGap (encodesIndent.append encodesGap) own)
  | .bare own, _, isText => by
      cases isText
      exact bracket (literal "\x7b") (literal "\x7d") encodesGap encodesIndent
        (stringifyMembers encodesGap (encodesIndent.append encodesGap) own)
  | .inheriting own prototype, _, isText => by
      cases isText
      exact bracket (literal "\x7b") (literal "\x7d") encodesGap encodesIndent
        (stringifyMembers encodesGap (encodesIndent.append encodesGap) own)

theorem stringifyItems {gap indent : JsString} (encodesGap : Encodes gap)
    (encodesIndent : Encodes indent) :
    (items : List JsValue) →
      ∀ text ∈ JsValue.stringifyItems gap indent items, Encodes text
  | [], _, isText => by cases isText
  | item :: rest, text, isText => by
      rcases List.mem_cons.mp isText with isItem | isRest
      · rw [isItem]
        cases stringified : item.stringify? gap indent with
        | none => exact literal "null"
        | some itemText =>
            exact stringify encodesGap encodesIndent item itemText stringified
      · exact stringifyItems encodesGap encodesIndent rest text isRest

theorem stringifyMembers {gap indent : JsString} (encodesGap : Encodes gap)
    (encodesIndent : Encodes indent) :
    (own : List (JsString × JsValue)) →
      ∀ text ∈ JsValue.stringifyMembers gap indent own, Encodes text
  | [], _, isText => by cases isText
  | (key, value) :: rest, text, isText => by
      rw [JsValue.stringifyMembers] at isText
      cases stringified : value.stringify? gap indent with
      | none =>
          rw [stringified] at isText
          exact stringifyMembers encodesGap encodesIndent rest text isText
      | some valueText =>
          rw [stringified] at isText
          rcases List.mem_cons.mp isText with isMember | isRest
          · have encodesValue :=
              stringify encodesGap encodesIndent value valueText stringified
            have encodesSpace :
                Encodes (if gap = [] then [] else js " ") := by
              split
              · exact nil
              · exact literal " "
            rw [isMember]
            exact (((quoteJson key).append (literal ":")).append
              encodesSpace).append encodesValue
          · exact stringifyMembers encodesGap encodesIndent rest text isRest

end

end Encodes

/-! ### The length of a text -/

theorem quoteUnit_ne_nil (codeUnit : UInt16) : quoteUnit codeUnit ≠ [] := by
  rw [quoteUnit]
  repeat' split
  all_goals exact List.cons_ne_nil _ _

/-- Quoting makes no string shorter. -/
theorem length_le_quoteUnits (text : JsString) :
    text.length ≤ (quoteUnits text).length := by
  have one (codeUnit : UInt16) : 1 ≤ (quoteUnit codeUnit).length :=
    List.length_pos_of_ne_nil (quoteUnit_ne_nil codeUnit)
  have escaped (codeUnit : UInt16) : 1 ≤ (unicodeEscape codeUnit).length :=
    List.length_pos_of_ne_nil (List.cons_ne_nil _ _)
  induction text using quoteUnits.induct with
  | case1 => exact Nat.le_refl 0
  | case2 lead trail rest isPair inductionHypothesis =>
      rw [quoteUnits, if_pos isPair]
      simpa using inductionHypothesis
  | case3 lead trail rest notPair isSurrogate inductionHypothesis =>
      rw [quoteUnits, if_neg notPair, if_pos isSurrogate, List.length_append,
        List.length_cons, Nat.add_comm]
      exact Nat.add_le_add (escaped lead) inductionHypothesis
  | case4 lead trail rest notPair notSurrogate inductionHypothesis =>
      rw [quoteUnits, if_neg notPair, if_neg notSurrogate, List.length_append,
        List.length_cons, Nat.add_comm]
      exact Nat.add_le_add (one lead) inductionHypothesis
  | case5 only isSurrogate =>
      rw [quoteUnits, if_pos isSurrogate]
      exact escaped only
  | case6 only notSurrogate =>
      rw [quoteUnits, if_neg notSurrogate]
      exact one only

theorem length_le_join {texts items : List JsString}
    (longer : List.Forall₂ (fun text item => text.length ≤ item.length) texts
      items) (separator : JsString) :
    (join [] texts).length ≤ (join separator items).length := by
  induction longer with
  | nil => exact Nat.le_refl 0
  | @cons text item texts items isLonger rest inductionHypothesis =>
      cases rest with
      | nil => exact isLonger
      | cons nextLonger others =>
          rw [join.eq_3 _ text _ (List.cons_ne_nil _ _),
            join.eq_3 _ item _ (List.cons_ne_nil _ _)]
          simp only [List.length_append, List.length_nil, Nat.add_zero]
          exact Nat.add_le_add (Nat.le_add_right_of_le isLonger)
            inductionHypothesis

theorem join_lt_bracket {opening closing gap indent : JsString}
    {items : List JsString} (opens : 0 < opening.length) :
    ∃ separator, (join separator items).length <
      (bracket opening closing gap indent items).length := by
  rw [bracket]
  split
  · rename_i empty
    refine ⟨[], ?_⟩
    rw [empty, List.length_append]
    exact Nat.add_pos_left opens _
  · split
    · refine ⟨js ",", ?_⟩
      simp only [List.length_append]
      omega
    · refine ⟨js "," ++ (js "\n" ++ indent ++ gap), ?_⟩
      simp only [List.length_append]
      omega

theorem stringifyItems_longer (gap indent : JsString)
    (texts : List JsString) :
    List.Forall₂ (fun text item => text.length ≤ item.length) texts
      (JsValue.stringifyItems gap indent
        (JsValue.ofJsonItems (texts.map Json.string))) := by
  induction texts with
  | nil => exact .nil
  | cons text rest inductionHypothesis =>
      refine .cons ?_ inductionHypothesis
      have quoted : ((JsValue.ofJson (.string text)).stringify? gap
          indent).getD (js "null") = js "\"" ++ quoteUnits text ++ js "\"" :=
        rfl
      have longer := length_le_quoteUnits text
      rw [quoted, List.length_append, List.length_append]
      omega

/-- The text of a list of strings is longer than the strings together. -/
theorem join_lt_stringify {gap indent text : JsString} {texts : List JsString}
    (isText : (JsValue.ofJson (.array (texts.map Json.string))).stringify? gap
      indent = some text) : (join [] texts).length < text.length := by
  cases isText
  obtain ⟨separator, shorter⟩ := @join_lt_bracket (js "[") (js "]") gap indent
    (JsValue.stringifyItems gap (indent ++ gap)
      (JsValue.ofJsonItems (texts.map Json.string))) (by decide)
  exact Nat.lt_of_le_of_lt
    (length_le_join (stringifyItems_longer gap (indent ++ gap) texts) separator)
    shorter

/-! ### The ends of a text -/

/-- `U+FEFF`, which a decoder takes for a mark of the byte order. -/
def byteOrderMark : UInt16 :=
  0xFEFF

theorem bracket_ends (opening closing : UInt16) (gap indent : JsString)
    (items : List JsString) :
    ∃ middle, bracket [opening] [closing] gap indent items =
      opening :: (middle ++ [closing]) := by
  rw [bracket]
  split
  · exact ⟨[], rfl⟩
  · split
    · exact ⟨_, rfl⟩
    · refine ⟨js "\n" ++ indent ++ gap ++
        join (js "," ++ (js "\n" ++ indent ++ gap)) items ++ js "\n" ++
        indent, ?_⟩
      simp only [List.cons_append, List.nil_append, List.append_assoc]

theorem trim_of_ends {first last : UInt16} (middle : JsString)
    (firstVisible : isWhiteSpace first = false)
    (lastVisible : isWhiteSpace last = false) :
    trim (first :: (middle ++ [last])) = first :: (middle ++ [last]) := by
  have reversed : (first :: (middle ++ [last])).reverse =
      last :: (middle.reverse ++ [first]) := by simp
  rw [trim, List.dropWhile_cons_of_neg (by rw [firstVisible]; decide),
    reversed, List.dropWhile_cons_of_neg (by rw [lastVisible]; decide),
    ← reversed, List.reverse_reverse]

/-- The text of a value does not begin with the mark. -/
theorem head?_stringify {gap indent text : JsString} {value : JsValue}
    (isText : value.stringify? gap indent = some text) :
    text.head? ≠ some byteOrderMark := by
  have bracketed (opening closing : UInt16) (items : List JsString)
      (notMark : opening ≠ byteOrderMark) :
      (bracket [opening] [closing] gap indent items).head? ≠
        some byteOrderMark := by
    obtain ⟨middle, bracketEq⟩ :=
      bracket_ends opening closing gap indent items
    rw [bracketEq]
    exact fun same => notMark (Option.some.inj same)
  have ofNumber (number : JsNumber) :
      (JsNumber.toText number).head? ≠ some byteOrderMark := by
    intro isMark
    have isMember := List.mem_of_mem_head? isMark
    have inNumber := IsNumberText.toText number _ isMember
    exact absurd inNumber (by decide)
  cases value with
  | undefined => cases isText
  | null => cases isText; decide
  | bool value =>
      cases value with
      | false => cases isText; decide
      | true => cases isText; decide
  | number value =>
      cases value with
      | finite decimal => cases isText; exact ofNumber (.finite decimal)
      | nan => cases isText; decide
      | infinity negative => cases isText; decide
  | string value =>
      cases isText
      exact fun same => absurd (Option.some.inj same) (by decide)
  | array items own => cases isText; exact bracketed _ _ _ (by decide)
  | object own => cases isText; exact bracketed _ _ _ (by decide)
  | bare own => cases isText; exact bracketed _ _ _ (by decide)
  | inheriting own prototype =>
      cases isText
      exact bracketed _ _ _ (by decide)

end RtsNotebook.Js
