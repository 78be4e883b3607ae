import RtsNotebook.Notebook.DataPlaneDispatch
import RtsNotebook.Otel.RoundTrips
import Mathlib.Data.List.Induction

/-!
# The readers of an attribute list

`decodeAttrs`, `getAttr`, `getStringAttr` and the `readAttr` of the PTY client
over one list of attributes.  The first three take the last attribute of a
name, and `readAttr` takes the first one that holds a text.
-/

namespace RtsNotebook.Notebook.AttributeReaders

open RtsNotebook.Js RtsNotebook.Otel RtsNotebook.Notebook.DataPlane

/-- The list of attributes as it arrives. -/
def listOf (attributes : List (JsString × AnyValue)) : Json :=
  .array (attrsToJson attributes)

/-- A log record with the attributes. -/
def recordOf (attributes : List (JsString × AnyValue)) : Json :=
  .object [(js "attributes", listOf attributes)]

/-- The own property that `decodeAttrs` sets for a key. -/
def decodedValue? (attributes : List (JsString × AnyValue)) (key : JsString) :
    Option JsValue :=
  (decodeAttrs? (listOf attributes)).bind fun decoded =>
    decoded.ownProperties.lookup key

/-- The text of a tagged value that `readAttr` takes. -/
def readText? : AnyValue → Option JsString
  | .stringValue text => some text
  | .intValue text => some text
  | _ => none

/-- All readers return the text that `decodeAttrs` gives, all report a key that
is absent, and the occurrence of a key that `readAttr` takes is the last one,
as it is for the others. -/
structure ReadersAgree (attributes : List (JsString × AnyValue))
    (key : JsString) : Prop where
  text : ∀ text, decodedValue? attributes key = some (.string text) →
    readAttr? (recordOf attributes) key = some (some text) ∧
      ∀ arrayLike, getAttr? arrayLike (some (listOf attributes)) key =
          some (.string text) ∧
        ∀ fallback, getStringAttr? arrayLike (some (listOf attributes)) key
          fallback = some text
  absent : key ∉ attributes.map Prod.fst →
    readAttr? (recordOf attributes) key = some none ∧
      ∀ arrayLike, getAttr? arrayLike (some (listOf attributes)) key =
          some .undefined ∧
        ∀ fallback, getStringAttr? arrayLike (some (listOf attributes)) key
          fallback = some fallback
  sameOccurrence : ∀ before value after,
    attributes = before ++ (key, value) :: after →
      (readText? value).isSome = true →
      (∀ entry ∈ before, entry.1 = key → readText? entry.2 = none) →
        key ∉ after.map Prod.fst

/-- No occurrence of the key but the last one is a string or an integer, and
the last one is no `bytesValue`, unless the key is `__proto__`. -/
structure OnlyLastRead (attributes : List (JsString × AnyValue))
    (key : JsString) : Prop where
  earlier : ∀ before value after,
    attributes = before ++ (key, value) :: after →
      key ∈ after.map Prod.fst → readText? value = none
  last : ∀ before text after,
    attributes = before ++ (key, .bytesValue text) :: after →
      key ∈ after.map Prod.fst ∨ key = js "__proto__"

section

variable {attributes before after : List (JsString × AnyValue)}
  {key : JsString} {value : AnyValue}

/-! ### The last occurrence -/

/-- The last attribute of the key. -/
def lastValue? (attributes : List (JsString × AnyValue)) (key : JsString) :
    Option AnyValue :=
  attributes.reverse.lookup key

theorem lookup_eq_none_of_notMem (absent : key ∉ attributes.map Prod.fst) :
    attributes.lookup key = none := by
  rw [List.lookup_eq_none_iff]
  intro entry member
  rw [bne_iff_ne]
  rintro rfl
  exact absent (List.mem_map.mpr ⟨entry, member, rfl⟩)

theorem lastValue?_append (absent : key ∉ after.map Prod.fst) :
    lastValue? (before ++ (key, value) :: after) key = some value := by
  have noLater : key ∉ after.reverse.map Prod.fst := by
    rw [List.map_reverse, List.mem_reverse]
    exact absent
  rw [lastValue?, List.reverse_append, List.reverse_cons, List.append_assoc,
    List.lookup_append, lookup_eq_none_of_notMem noLater, Option.none_or,
    List.singleton_append, List.lookup_cons_self]

theorem exists_last (found : lastValue? attributes key = some value) :
    ∃ before after, attributes = before ++ (key, value) :: after ∧
      key ∉ after.map Prod.fst := by
  induction attributes using List.reverseRecOn with
  | nil => cases found
  | append_singleton rest entry inductionHypothesis =>
      rw [lastValue?, List.reverse_concat, Library.lookup_cons_eq] at found
      by_cases isKey : key = entry.1
      · rw [if_pos isKey] at found
        refine ⟨rest, [], ?_, List.not_mem_nil⟩
        rw [isKey, ← Option.some.inj found]
      · rw [if_neg isKey] at found
        obtain ⟨before, after, rfl, absent⟩ := inductionHypothesis found
        refine ⟨before, after ++ [entry], by simp, ?_⟩
        simp only [List.map_append, List.mem_append, not_or, List.map_cons,
          List.map_nil, List.mem_singleton]
        exact ⟨absent, isKey⟩

/-! ### `getAttr` -/

theorem attrsToJson_append (attributes rest : List (JsString × AnyValue)) :
    attrsToJson (attributes ++ rest) =
      attrsToJson attributes ++ attrsToJson rest := by
  induction attributes with
  | nil => rfl
  | cons entry attributes inductionHypothesis =>
      rw [List.cons_append, attrsToJson, attrsToJson, inductionHypothesis,
        List.cons_append]

theorem attrsToJson_reverse (attributes : List (JsString × AnyValue)) :
    (attrsToJson attributes).reverse = attrsToJson attributes.reverse := by
  induction attributes with
  | nil => rfl
  | cons entry attributes inductionHypothesis =>
      rw [List.reverse_cons, attrsToJson_append, ← inductionHypothesis,
        attrsToJson, List.reverse_cons]
      rfl

theorem searchAttr?_toJson (attributes : List (JsString × AnyValue))
    (key : JsString) : searchAttr? key (attrsToJson attributes) =
      some (((attributes.lookup key).map AnyValue.decoded).getD .undefined) := by
  induction attributes with
  | nil => rfl
  | cons entry attributes inductionHypothesis =>
      obtain ⟨name, value⟩ := entry
      have isName : ([(js "key", Json.string name),
          (js "value", value.toJson)].lookup (js "key")).bind
            Json.asString? = some name := rfl
      rw [attrsToJson, searchAttr?, isName, Library.lookup_cons_eq]
      by_cases isKey : key = name
      · rw [if_pos (congrArg some isKey.symm), if_pos isKey,
          entryValue?_attribute, decodeAnyValue?_toJson]
        rfl
      · rw [if_neg fun same => isKey (Option.some.inj same).symm,
          if_neg isKey, inductionHypothesis]

theorem getAttr?_listOf (arrayLike : List (JsString × Json) → Option (List Json))
    (attributes : List (JsString × AnyValue)) (key : JsString) :
    getAttr? arrayLike (some (listOf attributes)) key =
      some (((lastValue? attributes key).map AnyValue.decoded).getD
        .undefined) := by
  rw [listOf, getAttr?, attrsToJson_reverse, searchAttr?_toJson, lastValue?]

/-! ### `readAttr` -/

theorem member?_text (value : AnyValue) :
    ((value.toJson.member? (js "stringValue")).bind Json.asString?).or
      ((value.toJson.member? (js "intValue")).bind Json.asString?) =
        readText? value := by
  cases value with
  | stringValue text => rfl
  | intValue text => rfl
  | doubleValue value => rfl
  | boolValue value => rfl
  | arrayValue values => rfl
  | kvlistValue values => rfl
  | bytesValue text => rfl

/-- The attribute of the key that `readAttr` takes. -/
def isRead (key : JsString) (entry : JsString × AnyValue) : Bool :=
  decide (entry.1 = key) && (readText? entry.2).isSome

theorem searchAttr_toJson (attributes : List (JsString × AnyValue))
    (key : JsString) : searchAttr key (attrsToJson attributes) =
      (attributes.find? (isRead key)).bind fun entry => readText? entry.2 := by
  induction attributes with
  | nil => rfl
  | cons entry attributes inductionHypothesis =>
      obtain ⟨name, value⟩ := entry
      have isName : ((Json.object [(js "key", .string name),
          (js "value", value.toJson)]).member? (js "key")).bind
            Json.asString? = some name := rfl
      have isValue : (Json.object [(js "key", .string name),
          (js "value", value.toJson)]).member? (js "value") =
            some value.toJson := rfl
      rw [attrsToJson, searchAttr, isName, isValue]
      simp only [Option.bind_some, member?_text]
      by_cases isKey : name = key
      · rw [if_pos (congrArg some isKey)]
        cases found : readText? value with
        | none =>
            have notRead : isRead key (name, value) = false := by
              simp [isRead, found]
            rw [List.find?_cons, notRead]
            exact inductionHypothesis
        | some text =>
            have reads : isRead key (name, value) = true := by
              simp [isRead, found, isKey]
            rw [List.find?_cons, reads]
            exact found.symm
      · have notRead : isRead key (name, value) = false := by
          simp [isRead, isKey]
        rw [if_neg fun same => isKey (Option.some.inj same),
          List.find?_cons, notRead]
        exact inductionHypothesis

theorem readAttr?_recordOf (attributes : List (JsString × AnyValue))
    (key : JsString) : readAttr? (recordOf attributes) key =
      some ((attributes.find? (isRead key)).bind fun entry =>
        readText? entry.2) := by
  rw [← searchAttr_toJson]
  rfl

/-! ### `decodeAttrs` -/

/-- An object that assignments have made, where `__proto__` has only set the
prototype. -/
def IsCopy : JsValue → Prop
  | .object own => own.lookup (js "__proto__") = none
  | .inheriting own prototype =>
      own.lookup (js "__proto__") = none ∧ prototype.setsPrototype = true
  | _ => False

/-- A value that leaves `__proto__` a setter when it becomes the prototype. -/
def KeepsSetter (value : JsValue) : Prop :=
  value ≠ .null ∧ (value.isObject = true → value.setsPrototype = true)

theorem IsCopy.setsPrototype {copy : JsValue} (isCopy : IsCopy copy) :
    copy.setsPrototype = true := by
  cases copy with
  | object own =>
      rw [JsValue.setsPrototype, Option.isNone_iff_eq_none]
      exact isCopy
  | inheriting own prototype =>
      rw [JsValue.setsPrototype, Bool.and_eq_true, Option.isNone_iff_eq_none]
      exact isCopy
  | _ => exact isCopy.elim

theorem IsCopy.keepsSetter {copy : JsValue} (isCopy : IsCopy copy) :
    KeepsSetter copy := by
  refine ⟨?_, fun _ => isCopy.setsPrototype⟩
  rintro rfl
  exact isCopy

theorem lookup_assign {name : JsString} {assigned : JsValue}
    {own : List (JsString × JsValue)} :
    (assign name assigned own).lookup key =
      if key = name then some assigned else own.lookup key := by
  rw [assign_eq_assignMember, lookup_assignMember]

/-- An assignment to `__proto__` sets no own property, and one to another name
sets that one. -/
theorem copyMember_isCopy {copy assigned : JsValue} {name : JsString}
    (isCopy : IsCopy copy) (keeps : KeepsSetter assigned) :
    IsCopy (copy.copyMember name assigned) ∧
      (copy.copyMember name assigned).ownProperties.lookup key =
        if name ≠ js "__proto__" ∧ key = name then some assigned
        else copy.ownProperties.lookup key := by
  unfold JsValue.copyMember
  by_cases isSetter : name = js "__proto__"
  · rw [if_pos ⟨isSetter, isCopy.setsPrototype⟩,
      if_neg fun both => both.1 isSetter]
    have noOwn : copy.ownProperties.lookup (js "__proto__") = none := by
      cases copy with
      | object own => exact isCopy
      | inheriting own prototype => exact isCopy.1
      | _ => exact isCopy.elim
    cases assigned with
    | null => exact absurd rfl keeps.1
    | array items own => exact ⟨⟨noOwn, keeps.2 rfl⟩, rfl⟩
    | object own => exact ⟨⟨noOwn, keeps.2 rfl⟩, rfl⟩
    | bare own => exact ⟨⟨noOwn, keeps.2 rfl⟩, rfl⟩
    | inheriting own prototype => exact ⟨⟨noOwn, keeps.2 rfl⟩, rfl⟩
    | _ => exact ⟨isCopy, rfl⟩
  · have notProto : js "__proto__" ≠ name := Ne.symm isSetter
    rw [if_neg fun both => isSetter both.1]
    simp only [ne_eq, isSetter, not_false_eq_true, true_and]
    cases copy with
    | object own =>
        refine ⟨?_, lookup_assign⟩
        change (assign name assigned own).lookup (js "__proto__") = none
        rw [lookup_assign, if_neg notProto]
        exact isCopy
    | inheriting own prototype =>
        refine ⟨⟨?_, isCopy.2⟩, lookup_assign⟩
        rw [lookup_assign, if_neg notProto]
        exact isCopy.1
    | _ => exact isCopy.elim

mutual

theorem keepsSetter_decoded : (value : AnyValue) → KeepsSetter value.decoded
  | .stringValue _ | .doubleValue _ | .boolValue _ | .bytesValue _ =>
      ⟨(fun same => by cases same), fun isObject => by cases isObject⟩
  | .intValue text => by
      rw [AnyValue.decoded]
      cases safeInteger? text with
      | none => exact ⟨(fun same => by cases same), fun isObject => by cases isObject⟩
      | some number =>
          exact ⟨(fun same => by cases same), fun isObject => by cases isObject⟩
  | .arrayValue values => ⟨(fun same => by cases same), fun _ => rfl⟩
  | .kvlistValue values => by
      have empty : IsCopy (.object []) := rfl
      exact (isCopy_decodedAttrs values (.object []) empty).keepsSetter

theorem isCopy_decodedAttrs : (attributes : List (JsString × AnyValue)) →
    (copy : JsValue) → IsCopy copy → IsCopy (decodedAttrs copy attributes)
  | [], _, isCopy => isCopy
  | (name, value) :: rest, copy, isCopy =>
      isCopy_decodedAttrs rest (copy.copyMember name value.decoded)
        (@copyMember_isCopy [] _ _ name isCopy (keepsSetter_decoded value)).1

end

theorem lookup_decodedAttrs (attributes : List (JsString × AnyValue))
    {copy : JsValue} (isCopy : IsCopy copy)
    (notPrototype : key ≠ js "__proto__") :
    (decodedAttrs copy attributes).ownProperties.lookup key =
      ((lastValue? attributes key).map AnyValue.decoded).or
        (copy.ownProperties.lookup key) := by
  induction attributes generalizing copy with
  | nil => rfl
  | cons entry rest inductionHypothesis =>
      obtain ⟨name, value⟩ := entry
      obtain ⟨stillCopy, sets⟩ := @copyMember_isCopy key _ _ name isCopy
        (keepsSetter_decoded value)
      have last : lastValue? ((name, value) :: rest) key =
          (lastValue? rest key).or (if key = name then some value else none) := by
        rw [lastValue?, List.reverse_cons, List.lookup_append, Library.lookup_cons_eq]
        rfl
      rw [decodedAttrs, inductionHypothesis stillCopy, sets, last]
      cases lastValue? rest key with
      | some later => rfl
      | none =>
          by_cases isKey : key = name
          · rw [if_pos ⟨isKey ▸ notPrototype, isKey⟩, if_pos isKey]
            rfl
          · rw [if_neg fun both => isKey both.2, if_neg isKey]
            rfl

theorem decodedValue?_eq (attributes : List (JsString × AnyValue))
    (notPrototype : key ≠ js "__proto__") :
    decodedValue? attributes key =
      (lastValue? attributes key).map AnyValue.decoded := by
  rw [decodedValue?, listOf, decodeAttrs?_toJson, Option.bind_some,
    lookup_decodedAttrs attributes (show IsCopy (.object []) from rfl)
      notPrototype]
  cases (lastValue? attributes key).map AnyValue.decoded with
  | none => rfl
  | some decoded => rfl

/-- `__proto__` never becomes an own property. -/
theorem decodedValue?_prototype (attributes : List (JsString × AnyValue)) :
    decodedValue? attributes (js "__proto__") = none := by
  have isCopy := isCopy_decodedAttrs attributes (.object []) rfl
  rw [decodedValue?, listOf, decodeAttrs?_toJson, Option.bind_some]
  cases decoded : decodedAttrs (.object []) attributes with
  | object own =>
      rw [decoded] at isCopy
      exact isCopy
  | inheriting own prototype =>
      rw [decoded] at isCopy
      exact isCopy.1
  | _ =>
      rw [decoded] at isCopy
      exact isCopy.elim

/-! ### Agreement -/

theorem eq_of_decoded {text : JsString}
    (isText : value.decoded = .string text) :
    readText? value = some text ∨ value = .bytesValue text := by
  cases value with
  | stringValue held =>
      injection isText with same
      exact Or.inl (congrArg some same)
  | intValue held =>
      rw [AnyValue.decoded] at isText
      cases found : safeInteger? held with
      | none =>
          rw [found] at isText
          injection isText with same
          exact Or.inl (congrArg some same)
      | some number =>
          rw [found] at isText
          cases isText
  | bytesValue held =>
      injection isText with same
      exact Or.inr (congrArg AnyValue.bytesValue same)
  | kvlistValue values =>
      have isCopy := isCopy_decodedAttrs values (.object []) rfl
      rw [AnyValue.decoded] at isText
      rw [isText] at isCopy
      exact isCopy.elim
  | doubleValue held => cases isText
  | boolValue held => cases isText
  | arrayValue values => cases isText

theorem isRead_iff {entry : JsString × AnyValue} :
    isRead key entry = true ↔
      entry.1 = key ∧ (readText? entry.2).isSome = true := by
  rw [isRead, Bool.and_eq_true, decide_eq_true_eq]

theorem isRead_eq_false_iff {entry : JsString × AnyValue} :
    (!isRead key entry) = true ↔
      (entry.1 = key → readText? entry.2 = none) := by
  rw [Bool.not_eq_true', ← Bool.not_eq_true, isRead_iff, not_and,
    Bool.not_eq_true, Option.isSome_eq_false_iff]
  simp only [Option.isNone_iff_eq_none]

/-- Where the key has an occurrence with a text, the first of them is read. -/
theorem exists_read (isText : (readText? value).isSome = true) :
    ∃ front found back,
      before ++ [(key, value)] = front ++ (key, found) :: back ∧
        (readText? found).isSome = true ∧
          ∀ entry ∈ front, entry.1 = key → readText? entry.2 = none := by
  have reads : isRead key (key, value) = true := isRead_iff.mpr ⟨rfl, isText⟩
  have isSome : ((before ++ [(key, value)]).find? (isRead key)).isSome = true :=
    List.find?_isSome.mpr ⟨_, List.mem_append_right _ List.mem_cons_self, reads⟩
  obtain ⟨⟨name, found⟩, isFound⟩ := Option.isSome_iff_exists.mp isSome
  obtain ⟨foundReads, front, back, split, unread⟩ :=
    List.find?_eq_some_iff_append.mp isFound
  obtain ⟨rfl, foundText⟩ := isRead_iff.mp foundReads
  exact ⟨front, found, back, split, foundText, fun entry member =>
    isRead_eq_false_iff.mp (unread entry member)⟩

theorem find?_append (unread : ∀ entry ∈ before, entry.1 = key →
      readText? entry.2 = none) {text : JsString}
    (isText : readText? value = some text) :
    ((before ++ (key, value) :: after).find? (isRead key)).bind
      (fun entry => readText? entry.2) = some text := by
  have found : (before ++ (key, value) :: after).find? (isRead key) =
      some (key, value) := by
    apply List.find?_eq_some_iff_append.mpr
    refine ⟨isRead_iff.mpr ⟨rfl, by rw [isText]; rfl⟩, before, after, rfl, ?_⟩
    intro entry member
    exact isRead_eq_false_iff.mpr (unread entry member)
  rw [found]
  exact isText

theorem key_mem_of_mem {entry : JsString × AnyValue}
    (member : entry ∈ attributes) (isKey : entry.1 = key) :
    key ∈ attributes.map Prod.fst :=
  List.mem_map.mpr ⟨entry, member, isKey⟩

/-- Earlier occurrences of the key are not read. -/
theorem OnlyLastRead.unread (onlyLast : OnlyLastRead attributes key)
    (split : attributes = before ++ (key, value) :: after) :
    ∀ entry ∈ before, entry.1 = key → readText? entry.2 = none := by
  rintro ⟨name, earlier⟩ member rfl
  obtain ⟨front, back, rfl⟩ := List.append_of_mem member
  apply onlyLast.earlier front earlier (back ++ (name, value) :: after)
  · rw [split, List.append_assoc, List.cons_append]
  · exact key_mem_of_mem (List.mem_append_right _ List.mem_cons_self) rfl

theorem readersAgree_of_onlyLastRead (onlyLast : OnlyLastRead attributes key) :
    ReadersAgree attributes key where
  text := by
    intro text decoded
    have notPrototype : key ≠ js "__proto__" := by
      rintro rfl
      rw [decodedValue?_prototype] at decoded
      cases decoded
    rw [decodedValue?_eq attributes notPrototype,
      Option.map_eq_some_iff] at decoded
    obtain ⟨value, isLast, isText⟩ := decoded
    refine ⟨?_, fun arrayLike => ?_⟩
    · obtain ⟨before, after, split, absent⟩ := exists_last isLast
      rcases eq_of_decoded isText with read | rfl
      · rw [readAttr?_recordOf, split,
          find?_append (onlyLast.unread split) read]
      · rcases onlyLast.last before text after split with later | isPrototype
        · exact absurd later absent
        · exact absurd isPrototype notPrototype
    · rw [getAttr?_listOf, isLast, Option.map_some, isText]
      refine ⟨rfl, fun fallback => ?_⟩
      rw [getStringAttr?, getAttr?_listOf, isLast, Option.map_some,
        Option.map_some, isText]
      rfl
  absent := by
    intro absent
    have notFound : attributes.find? (isRead key) = none := by
      rw [List.find?_eq_none]
      intro entry member reads
      exact absent (key_mem_of_mem member (isRead_iff.mp reads).1)
    have noLast : lastValue? attributes key = none := by
      apply lookup_eq_none_of_notMem
      rw [List.map_reverse, List.mem_reverse]
      exact absent
    refine ⟨by rw [readAttr?_recordOf, notFound]; rfl, fun arrayLike => ?_⟩
    rw [getAttr?_listOf, noLast]
    refine ⟨rfl, fun fallback => ?_⟩
    rw [getStringAttr?, getAttr?_listOf, noLast]
    rfl
  sameOccurrence := by
    intro before value after split isText unread later
    rw [onlyLast.earlier before value after split later] at isText
    cases isText

theorem onlyLastRead_of_readersAgree (agree : ReadersAgree attributes key) :
    OnlyLastRead attributes key where
  earlier := by
    intro before value after split later
    cases isText : readText? value with
    | none => rfl
    | some text =>
        obtain ⟨front, found, back, same, foundText, unread⟩ :=
          @exists_read before key value (by rw [isText]; rfl)
        have whole : attributes = front ++ (key, found) :: (back ++ after) := by
          rw [split, ← List.singleton_append, ← List.append_assoc, same,
            List.append_assoc, List.cons_append]
        refine absurd ?_
          (agree.sameOccurrence front found (back ++ after) whole foundText
            unread)
        rw [List.map_append, List.mem_append]
        exact Or.inr later
  last := by
    intro before text after split
    by_contra neither
    obtain ⟨absent, notPrototype⟩ := not_or.mp neither
    have isLast : lastValue? attributes key = some (.bytesValue text) := by
      rw [split]
      exact lastValue?_append absent
    have decoded : decodedValue? attributes key = some (.string text) := by
      rw [decodedValue?_eq attributes notPrototype, isLast]
      rfl
    have read := (agree.text text decoded).1
    rw [readAttr?_recordOf, Option.some.injEq, Option.bind_eq_some_iff] at read
    obtain ⟨⟨name, found⟩, isFound, isText⟩ := read
    obtain ⟨reads, front, back, whole, unread⟩ :=
      List.find?_eq_some_iff_append.mp isFound
    obtain ⟨rfl, _⟩ := isRead_iff.mp reads
    have isLastToo := agree.sameOccurrence front found back whole
      (by rw [isText]; rfl)
      fun entry member => isRead_eq_false_iff.mp (unread entry member)
    have same : lastValue? attributes name = some found := by
      rw [whole]
      exact lastValue?_append isLastToo
    rw [isLast] at same
    cases same
    cases isText

end

end RtsNotebook.Notebook.AttributeReaders
