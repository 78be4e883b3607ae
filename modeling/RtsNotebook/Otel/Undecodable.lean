import RtsNotebook.Js.Members
import RtsNotebook.Otel.Attrs
import Mathlib.Data.List.Induction

/-!
# Values that cannot be decoded

What makes `decodeAnyValue` throw, and what makes `getStringAttr` throw on a
list of attributes.  Neither checks the shape of what it reads.
-/

namespace RtsNotebook.Otel

open RtsNotebook.Js

/-- None of the fields is there that hold no other `AnyValue`. -/
structure NoScalar (members : List (JsString × Json)) : Prop where
  noString : members.lookup (js "stringValue") = none
  noBool : members.lookup (js "boolValue") = none
  noInt : members.lookup (js "intValue") = none
  noDouble : members.lookup (js "doubleValue") = none

/-- The list of a `kvlistValue` that is decoded. -/
structure IsKvlist (members : List (JsString × Json)) (value : Json) :
    Prop where
  noScalar : NoScalar members
  noArray : ∀ array, members.lookup (js "arrayValue") = some array →
    array.truthy = false
  isValue : members.lookup (js "kvlistValue") = some value
  isTruthy : value.truthy = true

/-- An `AnyValue` that `decodeAnyValue` throws on. -/
inductive Undecodable : Json → Prop
  /-- An integer that has no text. -/
  | intValue {members : List (JsString × Json)} {value : Json}
      (noString : members.lookup (js "stringValue") = none)
      (noBool : members.lookup (js "boolValue") = none)
      (isValue : members.lookup (js "intValue") = some value)
      (noText : value.toText? = none) : Undecodable (.object members)
  /-- An array whose `values` are no array. -/
  | arrayShape {members : List (JsString × Json)} {value : Json}
      (noScalar : NoScalar members)
      (isValue : members.lookup (js "arrayValue") = some value)
      (isTruthy : value.truthy = true)
      (noItems : ∀ items, value.member? (js "values") ≠ some (.array items)) :
      Undecodable (.object members)
  | arrayItem {members : List (JsString × Json)} {value item : Json}
      {items : List Json} (noScalar : NoScalar members)
      (isValue : members.lookup (js "arrayValue") = some value)
      (hasItems : value.member? (js "values") = some (.array items))
      (isItem : item ∈ items) (undecodable : Undecodable item) :
      Undecodable (.object members)
  /-- A list of attributes in the place of the object that holds it. -/
  | kvlistArray {members : List (JsString × Json)} {items : List Json}
      (isKvlist : IsKvlist members (.array items)) :
      Undecodable (.object members)
  /-- An object whose `values` cannot be iterated. -/
  | kvlistShape {members : List (JsString × Json)} {value list : Json}
      (isKvlist : IsKvlist members value)
      (hasList : value.member? (js "values") = some list)
      (isTruthy : list.truthy = true) (noText : list.asString? = none)
      (noItems : ∀ items, list ≠ .array items) : Undecodable (.object members)
  | kvlistNull {members : List (JsString × Json)} {value : Json}
      {items : List Json} (isKvlist : IsKvlist members value)
      (hasItems : value.member? (js "values") = some (.array items))
      (isEntry : .null ∈ items) : Undecodable (.object members)
  | kvlistKey {members entry : List (JsString × Json)} {value key : Json}
      {items : List Json} (isKvlist : IsKvlist members value)
      (hasItems : value.member? (js "values") = some (.array items))
      (isEntry : .object entry ∈ items)
      (isKey : entry.lookup (js "key") = some key)
      (noText : key.toText? = none) : Undecodable (.object members)
  | kvlistEntry {members entry : List (JsString × Json)} {value item : Json}
      {items : List Json} (isKvlist : IsKvlist members value)
      (hasItems : value.member? (js "values") = some (.array items))
      (isEntry : .object entry ∈ items)
      (isItem : entry.lookup (js "value") = some item)
      (undecodable : Undecodable item) : Undecodable (.object members)

/-- `entry.key === key` -/
def HasKey (key : JsString) (entry : Json) : Prop :=
  entry.member? (js "key") = some (.string key)

/-- From the last entry back to the one with the key none is `null`, and the
value there can be decoded. -/
def Readable (items : List Json) (key : JsString) : Prop :=
  ∀ before entry after, items = before ++ entry :: after →
    (∀ later ∈ after, ¬ HasKey key later) →
      entry ≠ .null ∧ (HasKey key entry → ∀ value,
        entry.member? (js "value") = some value → ¬ Undecodable value)

section

variable {members : List (JsString × Json)} {items : List Json}

/-! ### The branches, by the field that each of them reads -/

/-- A search through the members for a name finds what `lookup` finds. -/
theorem search_eq {Result : Type} {key : JsString}
    {search : List (JsString × Json) → Result} {found : Json → Result}
    {absent : Result} (nil : search [] = absent)
    (cons : ∀ name value rest, search ((name, value) :: rest) =
      if name = key then found value else search rest)
    (members : List (JsString × Json)) :
    search members = ((members.lookup key).map found).getD absent := by
  induction members with
  | nil => exact nil
  | cons entry rest inductionHypothesis =>
      obtain ⟨name, value⟩ := entry
      rw [cons, Library.lookup_cons_eq]
      by_cases isName : name = key
      · rw [if_pos isName, if_pos isName.symm]
        rfl
      · rw [if_neg isName, if_neg (Ne.symm isName), inductionHypothesis]

theorem arrayValue?_eq (members : List (JsString × Json)) :
    arrayValue? members = ((members.lookup (js "arrayValue")).map fun value =>
      if value.truthy then some (mapValues? value) else none).getD none :=
  search_eq rfl (fun _ _ _ => by rw [arrayValue?]) members

theorem mapMember?_eq (members : List (JsString × Json)) :
    mapMember? members =
      ((members.lookup (js "values")).map mapItems?).getD none :=
  search_eq rfl (fun _ _ _ => by rw [mapMember?]) members

theorem kvlistValue?_eq (members : List (JsString × Json)) :
    kvlistValue? members = ((members.lookup (js "kvlistValue")).map fun value =>
      if value.truthy then some (decodeValues? value) else none).getD none :=
  search_eq rfl (fun _ _ _ => by rw [kvlistValue?]) members

theorem decodeMember?_eq (members : List (JsString × Json)) :
    decodeMember? members =
      ((members.lookup (js "values")).map decodeAttrs?).getD
        (some (.object [])) :=
  search_eq rfl (fun _ _ _ => by rw [decodeMember?]) members

theorem entryValue?_eq (members : List (JsString × Json)) :
    entryValue? members =
      ((members.lookup (js "value")).map decodeAnyValue?).getD
        (some .undefined) :=
  search_eq rfl (fun _ _ _ => by rw [entryValue?]) members

theorem entryValue?_eq_none_iff : entryValue? members = none ↔
    ∃ item, members.lookup (js "value") = some item ∧
      decodeAnyValue? item = none := by
  rw [entryValue?_eq]
  cases members.lookup (js "value") with
  | none => simp
  | some item => simp

/-! ### Lists -/

theorem decodeItems?_eq_none_iff : decodeItems? items = none ↔
    ∃ item ∈ items, decodeAnyValue? item = none := by
  induction items with
  | nil => simp [decodeItems?]
  | cons item rest inductionHypothesis =>
      rw [List.exists_mem_cons_iff, ← inductionHypothesis, decodeItems?]
      cases decodeAnyValue? item with
      | none => simp
      | some decoded =>
          cases decodeItems? rest with
          | none => simp
          | some decodedRest => simp

theorem decodeEntries?_eq_none_iff {copy : JsValue} :
    decodeEntries? copy items = none ↔
      ∃ entry ∈ items, decodeEntry? entry = none := by
  induction items generalizing copy with
  | nil => simp [decodeEntries?]
  | cons entry rest inductionHypothesis =>
      rw [List.exists_mem_cons_iff, decodeEntries?]
      cases decodeEntry? entry with
      | none => simp
      | some decoded => simp [inductionHypothesis]

theorem decodeEntry?_object_eq_none_iff :
    decodeEntry? (.object members) = none ↔
      (∃ key, members.lookup (js "key") = some key ∧ key.toText? = none) ∨
        ∃ item, members.lookup (js "value") = some item ∧
          decodeAnyValue? item = none := by
  rw [ decodeEntry?, ← entryValue?_eq_none_iff]
  cases members.lookup (js "key") with
  | none => cases entryValue? members <;> simp
  | some key =>
      cases noText : key.toText? with
      | none => simp [noText]
      | some text => cases entryValue? members <;> simp [noText]

/-! ### One value -/

theorem scalarValue?_eq_none_iff :
    scalarValue? members = none ↔ NoScalar members := by
  constructor
  · intro noScalar
    rw [scalarValue?] at noScalar
    cases isString : members.lookup (js "stringValue") with
    | some value =>
        rw [isString] at noScalar
        cases noScalar
    | none =>
        cases isBool : members.lookup (js "boolValue") with
        | some value =>
            rw [isString, isBool] at noScalar
            cases noScalar
        | none =>
            rw [isString, isBool] at noScalar
            cases isInt : members.lookup (js "intValue") with
            | some value =>
                rw [isInt] at noScalar
                cases value <;> cases noScalar
            | none =>
                rw [isInt] at noScalar
                exact ⟨isString, isBool, isInt,
                  Option.map_eq_none_iff.mp noScalar⟩
  · intro noScalar
    rw [scalarValue?, noScalar.noString, noScalar.noBool, noScalar.noInt]
    exact Option.map_eq_none_iff.mpr noScalar.noDouble

theorem scalarValue?_eq_some_none_iff : scalarValue? members = some none ↔
    members.lookup (js "stringValue") = none ∧
      members.lookup (js "boolValue") = none ∧
        ∃ value, members.lookup (js "intValue") = some value ∧
          value.toText? = none := by
  rw [scalarValue?]
  cases members.lookup (js "stringValue") with
  | some value => simp
  | none =>
      cases members.lookup (js "boolValue") with
      | some value => simp
      | none =>
          cases members.lookup (js "intValue") with
          | none => simp
          | some value =>
              cases value with
              | string text => simp [Json.toText?]
              | _ => simp

theorem mapValues?_eq_none_iff {value : Json} : mapValues? value = none ↔
    (∀ items, value.member? (js "values") ≠ some (.array items)) ∨
      ∃ items, value.member? (js "values") = some (.array items) ∧
        ∃ item ∈ items, decodeAnyValue? item = none := by
  cases value with
  | object members =>
      rw [mapValues?, mapMember?_eq, Json.member?]
      cases members.lookup (js "values") with
      | none => simp
      | some list =>
          cases list with
          | array items => simp [mapItems?, decodeItems?_eq_none_iff]
          | _ => simp [mapItems?]
  | _ => simp [mapValues?, Json.member?]

theorem decodeAttrs?_eq_none_iff {list : Json} : decodeAttrs? list = none ↔
    (∃ items, list = .array items ∧
        ∃ entry ∈ items, decodeEntry? entry = none) ∨
      (list.truthy = true ∧ list.asString? = none ∧
        ∀ items, list ≠ .array items) := by
  cases list with
  | array items =>
      simp [decodeAttrs?, decodeEntries?_eq_none_iff, Json.truthy]
  | string text =>
      cases text <;> simp [decodeAttrs?, Json.truthy, Json.asString?]
  | null => simp [decodeAttrs?, Json.truthy]
  | bool value => cases value <;> simp [decodeAttrs?, Json.truthy, Json.asString?]
  | number value =>
      cases isTruthy : value.nonzero <;>
        simp [decodeAttrs?, Json.truthy, Json.asString?, isTruthy]
  | object members => simp [decodeAttrs?, Json.truthy, Json.asString?]

theorem decodeValues?_eq_none_iff {value : Json} :
    decodeValues? value = none ↔ (∃ items, value = .array items) ∨
      ∃ list, value.member? (js "values") = some list ∧
        decodeAttrs? list = none := by
  cases value with
  | object members =>
      rw [decodeValues?, decodeMember?_eq, Json.member?]
      cases members.lookup (js "values") with
      | none => simp
      | some list => simp
  | _ => simp [decodeValues?, Json.member?]

theorem arrayValue?_eq_none_iff : arrayValue? members = none ↔
    ∀ value, members.lookup (js "arrayValue") = some value →
      value.truthy = false := by
  rw [arrayValue?_eq]
  cases members.lookup (js "arrayValue") with
  | none => simp
  | some value => cases isTruthy : value.truthy <;> simp [isTruthy]

theorem arrayValue?_eq_some_none_iff : arrayValue? members = some none ↔
    ∃ value, members.lookup (js "arrayValue") = some value ∧
      value.truthy = true ∧ mapValues? value = none := by
  rw [arrayValue?_eq]
  cases members.lookup (js "arrayValue") with
  | none => simp
  | some value => cases isTruthy : value.truthy <;> simp [isTruthy]

theorem kvlistValue?_eq_some_none_iff : kvlistValue? members = some none ↔
    ∃ value, members.lookup (js "kvlistValue") = some value ∧
      value.truthy = true ∧ decodeValues? value = none := by
  rw [kvlistValue?_eq]
  cases members.lookup (js "kvlistValue") with
  | none => simp
  | some value => cases isTruthy : value.truthy <;> simp [isTruthy]

theorem decodeAnyValue?_object_eq_none_iff :
    decodeAnyValue? (.object members) = none ↔
      scalarValue? members = some none ∨
        scalarValue? members = none ∧
          (arrayValue? members = some none ∨
            arrayValue? members = none ∧
              kvlistValue? members = some none) := by
  rw [decodeAnyValue?]
  cases scalarValue? members with
  | some decoded => simp
  | none =>
      cases arrayValue? members with
      | some decoded => simp
      | none =>
          cases kvlistValue? members with
          | some decoded => simp
          | none => simp

/-! ### All values -/

theorem truthy_of_member? {value held : Json} {key : JsString}
    (hasMember : value.member? key = some held) : value.truthy = true := by
  cases value with
  | object members => rfl
  | _ => cases hasMember

theorem array_eq_none {value : Json} (noScalar : NoScalar members)
    (isValue : members.lookup (js "arrayValue") = some value)
    (isTruthy : value.truthy = true) (throws : mapValues? value = none) :
    decodeAnyValue? (.object members) = none := by
  rw [decodeAnyValue?_object_eq_none_iff, scalarValue?_eq_none_iff,
    arrayValue?_eq_some_none_iff]
  exact Or.inr ⟨noScalar, Or.inl ⟨value, isValue, isTruthy, throws⟩⟩

theorem kvlist_eq_none {value : Json} (isKvlist : IsKvlist members value)
    (throws : decodeValues? value = none) :
    decodeAnyValue? (.object members) = none := by
  rw [decodeAnyValue?_object_eq_none_iff, scalarValue?_eq_none_iff,
    arrayValue?_eq_none_iff, kvlistValue?_eq_some_none_iff]
  exact Or.inr ⟨isKvlist.noScalar, Or.inr ⟨isKvlist.noArray, value,
    isKvlist.isValue, isKvlist.isTruthy, throws⟩⟩

theorem values_eq_none {value entry : Json}
    (hasItems : value.member? (js "values") = some (.array items))
    (isEntry : entry ∈ items) (throws : decodeEntry? entry = none) :
    decodeValues? value = none :=
  decodeValues?_eq_none_iff.mpr (Or.inr ⟨.array items, hasItems,
    decodeAttrs?_eq_none_iff.mpr (Or.inl ⟨items, rfl, entry, isEntry, throws⟩)⟩)

theorem Undecodable.eq_none {value : Json} (undecodable : Undecodable value) :
    decodeAnyValue? value = none := by
  induction undecodable with
  | intValue noString noBool isValue noText =>
      exact decodeAnyValue?_object_eq_none_iff.mpr (Or.inl
        (scalarValue?_eq_some_none_iff.mpr
          ⟨noString, noBool, _, isValue, noText⟩))
  | arrayShape noScalar isValue isTruthy noItems =>
      apply array_eq_none noScalar isValue isTruthy
      exact mapValues?_eq_none_iff.mpr (Or.inl noItems)
  | arrayItem noScalar isValue hasItems isItem _ inductionHypothesis =>
      apply array_eq_none noScalar isValue (truthy_of_member? hasItems)
      exact mapValues?_eq_none_iff.mpr
        (Or.inr ⟨_, hasItems, _, isItem, inductionHypothesis⟩)
  | kvlistArray isKvlist =>
      apply kvlist_eq_none isKvlist
      exact decodeValues?_eq_none_iff.mpr (Or.inl ⟨_, rfl⟩)
  | kvlistShape isKvlist hasList isTruthy noText noItems =>
      apply kvlist_eq_none isKvlist
      exact decodeValues?_eq_none_iff.mpr (Or.inr ⟨_, hasList,
        decodeAttrs?_eq_none_iff.mpr (Or.inr ⟨isTruthy, noText, noItems⟩)⟩)
  | kvlistNull isKvlist hasItems isEntry =>
      apply kvlist_eq_none isKvlist
      exact values_eq_none hasItems isEntry rfl
  | kvlistKey isKvlist hasItems isEntry isKey noText =>
      apply kvlist_eq_none isKvlist
      apply values_eq_none hasItems isEntry
      exact decodeEntry?_object_eq_none_iff.mpr (Or.inl ⟨_, isKey, noText⟩)
  | kvlistEntry isKvlist hasItems isEntry isItem _ inductionHypothesis =>
      apply kvlist_eq_none isKvlist
      apply values_eq_none hasItems isEntry
      exact decodeEntry?_object_eq_none_iff.mpr
        (Or.inr ⟨_, isItem, inductionHypothesis⟩)

theorem sizeOf_lt_of_lookup {key : JsString} {value : Json}
    (found : members.lookup key = some value) :
    sizeOf value < sizeOf members := by
  induction members with
  | nil => cases found
  | cons entry rest inductionHypothesis =>
      obtain ⟨name, held⟩ := entry
      rw [Library.lookup_cons_eq] at found
      have parts : sizeOf ((name, held) :: rest) =
          1 + (1 + sizeOf name + sizeOf held) + sizeOf rest := rfl
      by_cases isName : key = name
      · rw [if_pos isName] at found
        obtain rfl : held = value := Option.some.inj found
        omega
      · rw [if_neg isName] at found
        have smaller := inductionHypothesis found
        omega

theorem sizeOf_lt_of_member? {value held : Json} {key : JsString}
    (hasMember : value.member? key = some held) :
    sizeOf held < sizeOf value := by
  cases value with
  | object members =>
      have smaller := sizeOf_lt_of_lookup hasMember
      rw [Json.object.sizeOf_spec]
      omega
  | _ => cases hasMember

/-- The items of the `values` are parts of the value that holds these. -/
theorem sizeOf_lt_of_item {value held item : Json} {key : JsString}
    (hasMember : value.member? key = some held)
    (hasItems : held.member? (js "values") = some (.array items))
    (isItem : item ∈ items) : sizeOf item < sizeOf value := by
  have ofValue := sizeOf_lt_of_member? hasMember
  have ofHeld := sizeOf_lt_of_member? hasItems
  have ofItems := List.sizeOf_lt_of_mem isItem
  rw [Json.array.sizeOf_spec] at ofHeld
  omega

/-- The induction hypothesis at the parts of an object. -/
def Within (members : List (JsString × Json)) : Prop :=
  ∀ item, sizeOf item < sizeOf (Json.object members) →
    decodeAnyValue? item = none → Undecodable item

theorem undecodable_array {value : Json} (within : Within members)
    (noScalar : NoScalar members)
    (isValue : members.lookup (js "arrayValue") = some value)
    (isTruthy : value.truthy = true) (throws : mapValues? value = none) :
    Undecodable (.object members) := by
  rcases mapValues?_eq_none_iff.mp throws with
    noItems | ⟨items, hasItems, item, isItem, throws⟩
  · exact .arrayShape noScalar isValue isTruthy noItems
  · have isMember : (Json.object members).member? (js "arrayValue") =
        some value := isValue
    have smaller := sizeOf_lt_of_item isMember hasItems isItem
    exact .arrayItem noScalar isValue hasItems isItem
      (within item smaller throws)

theorem undecodable_kvlist {value : Json} (within : Within members)
    (isKvlist : IsKvlist members value) (throws : decodeValues? value = none) :
    Undecodable (.object members) := by
  rcases decodeValues?_eq_none_iff.mp throws with
    ⟨items, rfl⟩ | ⟨list, hasList, throws⟩
  · exact .kvlistArray isKvlist
  rcases decodeAttrs?_eq_none_iff.mp throws with
    ⟨items, rfl, entry, isEntry, throws⟩ | ⟨isTruthy, noText, noItems⟩
  · cases entry with
    | null => exact .kvlistNull isKvlist hasList isEntry
    | object entry =>
        rcases decodeEntry?_object_eq_none_iff.mp throws with
          ⟨key, isKey, noText⟩ | ⟨item, isItem, throws⟩
        · exact .kvlistKey isKvlist hasList isEntry isKey noText
        · have isMember : (Json.object members).member? (js "kvlistValue") =
              some value := isKvlist.isValue
          have ofEntry := sizeOf_lt_of_item isMember hasList isEntry
          have ofItem := sizeOf_lt_of_lookup isItem
          rw [Json.object.sizeOf_spec entry] at ofEntry
          exact .kvlistEntry isKvlist hasList isEntry isItem
            (within item (by omega) throws)
    | _ => cases throws
  · exact .kvlistShape isKvlist hasList isTruthy noText noItems

theorem undecodable_of_eq_none (value : Json)
    (throws : decodeAnyValue? value = none) : Undecodable value := by
  induction size : sizeOf value using Nat.strongRecOn generalizing value with
  | ind size inductionHypothesis =>
      subst size
      cases value with
      | object members =>
          have within : Within members := fun item smaller throws =>
            inductionHypothesis _ smaller item throws rfl
          rw [decodeAnyValue?_object_eq_none_iff, scalarValue?_eq_none_iff,
            scalarValue?_eq_some_none_iff, arrayValue?_eq_none_iff,
            arrayValue?_eq_some_none_iff,
            kvlistValue?_eq_some_none_iff] at throws
          rcases throws with ⟨noString, noBool, value, isValue, noText⟩ |
            ⟨noScalar, ⟨value, isValue, isTruthy, throws⟩ |
              ⟨noArray, value, isValue, isTruthy, throws⟩⟩
          · exact .intValue noString noBool isValue noText
          · exact undecodable_array within noScalar isValue isTruthy throws
          · exact undecodable_kvlist within
              ⟨noScalar, noArray, isValue, isTruthy⟩ throws
      | _ => cases throws

/-- What `decodeAnyValue` throws on, field by field. -/
theorem decodeAnyValue?_eq_none_iff {value : Json} :
    decodeAnyValue? value = none ↔ Undecodable value :=
  ⟨undecodable_of_eq_none value, Undecodable.eq_none⟩

/-! ### Lists of attributes -/

theorem readable_nil (key : JsString) : Readable [] key := by
  intro before entry after split
  exact absurd split.symm (by simp)

theorem readable_concat_iff {entry : Json} {key : JsString} :
    Readable (items ++ [entry]) key ↔
      (entry ≠ .null ∧ (HasKey key entry → ∀ value,
        entry.member? (js "value") = some value → ¬ Undecodable value)) ∧
          (¬ HasKey key entry → Readable items key) := by
  constructor
  · intro readable
    refine ⟨readable items entry [] rfl fun later isLater => ?_, ?_⟩
    · cases isLater
    · intro noKey before earlier after split unseen
      apply readable before earlier (after ++ [entry])
      · rw [split, List.append_assoc, List.cons_append]
      · intro later isLater
        rcases List.mem_append.mp isLater with isLater | isLast
        · exact unseen later isLater
        · rw [List.mem_singleton.mp isLast]
          exact noKey
  · rintro ⟨ofEntry, ofItems⟩ before earlier after split unseen
    rcases List.eq_nil_or_concat after with rfl | ⟨behind, last, rfl⟩
    · obtain ⟨_, same⟩ := List.append_inj' split rfl
      rw [← List.cons.inj same |>.1]
      exact ofEntry
    · have longer : items ++ [entry] =
          (before ++ earlier :: behind) ++ [last] := by
        rw [split, List.append_assoc, List.cons_append, List.concat_eq_append]
      obtain ⟨front, same⟩ := List.append_inj' longer rfl
      obtain rfl : entry = last := (List.cons.inj same).1
      rw [List.concat_eq_append] at unseen
      apply ofItems (unseen entry (by simp)) before earlier behind front
      intro later isLater
      exact unseen later (List.mem_append_left _ isLater)

theorem hasKey_object_iff {key : JsString} : HasKey key (.object members) ↔
    (members.lookup (js "key")).bind Json.asString? = some key := by
  rw [Json.bind_asString?_eq_some_iff]
  rfl

theorem entryValue?_isSome_iff : (entryValue? members).isSome = true ↔
    ∀ value, (Json.object members).member? (js "value") = some value →
      ¬ Undecodable value := by
  rw [Option.isSome_iff_ne_none, ne_eq, entryValue?_eq_none_iff, not_exists]
  simp only [not_and, decodeAnyValue?_eq_none_iff, Json.member?]

/-- `getAttr` throws on no list that is readable, and on all others. -/
theorem searchAttr?_isSome_iff {key : JsString} :
    (searchAttr? key items.reverse).isSome = true ↔ Readable items key := by
  induction items using List.reverseRecOn with
  | nil => simp [searchAttr?, readable_nil]
  | append_singleton rest entry inductionHypothesis =>
      rw [List.reverse_concat, readable_concat_iff, ← inductionHypothesis]
      cases entry with
      | null => simp [searchAttr?]
      | object members =>
          rw [searchAttr?, ← entryValue?_isSome_iff]
          by_cases hasKey : HasKey key (.object members)
          · rw [if_pos (hasKey_object_iff.mp hasKey)]
            simp [hasKey]
          · rw [if_neg fun same => hasKey (hasKey_object_iff.mpr same)]
            simp [hasKey]
      | _ => simp [searchAttr?, HasKey, Json.member?]

end

end RtsNotebook.Otel
