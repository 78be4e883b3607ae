import RtsNotebook.Js.Members
import RtsNotebook.Llmnb.BlobResolver

/-!
# What blob resolution keeps

A resolved value has the shape of the one that it was resolved from, and a
reference becomes nothing but data that its hash stands for, or a placeholder.
-/

namespace RtsNotebook.Llmnb

open RtsNotebook.Js

/-! ### Values and tables -/

mutual

/-- The members of every object in the value are in order, and none of them is
called `__proto__`. -/
def Regular : Json → Prop
  | .array items => RegularItems items
  | .object members =>
      InOrder members ∧ js "__proto__" ∉ members.map Prod.fst ∧
        RegularMembers members
  | _ => True

def RegularItems : List Json → Prop
  | [] => True
  | item :: rest => Regular item ∧ RegularItems rest

def RegularMembers : List (JsString × Json) → Prop
  | [] => True
  | (_, value) :: rest => Regular value ∧ RegularMembers rest

end

namespace BlobTable

/-- A table of entries with string data, and an encoding that can be put into
a text, where `node:crypto` gives the hash of every text. -/
structure IsTable (blobs : BlobTable) (hash : JsString → JsString) : Prop where
  data : ∀ key entry, blobs.entry? key = some entry →
    ∃ data, entry.member? (js "data") = some (.string data)
  encoding : ∀ key entry, blobs.entry? key = some entry →
    ∀ encoding ∈ entry.member? (js "encoding"), encoding.toText?.isSome = true
  hashes : ∀ data, blobs.sha256? (some (.string data)) = some (some (hash data))

/-- `sha256:<reference>` -/
def keyOf (reference : JsString) : JsString :=
  js "sha256:" ++ reference

/-- What a string may become: itself where it is no reference, the data of the
entry with the hash of that data, or a placeholder that says why not. -/
inductive ResolvesTo (blobs : BlobTable) (hash : JsString → JsString) :
    JsString → JsString → Prop where
  | unchanged {text : JsString} (noReference : ¬ BLOB_PREFIX <+: text) :
      ResolvesTo blobs hash text text
  | data {reference data : JsString} {entry : Json}
      (found : blobs.entry? (keyOf reference) = some entry)
      (isText : entry.member? (js "encoding") = some (.string (js "utf-8")))
      (isData : entry.member? (js "data") = some (.string data))
      (sameHash : hash data = reference) :
      ResolvesTo blobs hash (BLOB_PREFIX ++ reference) data
  | unresolved {reference : JsString}
      (missing : blobs.entry? (keyOf reference) = none) :
      ResolvesTo blobs hash (BLOB_PREFIX ++ reference)
        (js "[unresolved blob: " ++ keyOf reference ++ js "]")
  | unsupported {reference encoding : JsString} {entry : Json}
      (found : blobs.entry? (keyOf reference) = some entry)
      (notText : entry.member? (js "encoding") ≠
        some (.string (js "utf-8"))) :
      ResolvesTo blobs hash (BLOB_PREFIX ++ reference)
        (js "[unsupported blob encoding: " ++ encoding ++ js "]")
  | corrupt {reference data : JsString} {entry : Json}
      (found : blobs.entry? (keyOf reference) = some entry)
      (isData : entry.member? (js "data") = some (.string data))
      (otherHash : hash data ≠ reference) :
      ResolvesTo blobs hash (BLOB_PREFIX ++ reference)
        (js "[corrupt blob: " ++ keyOf reference ++ js "]")

mutual

/-- The resolved value has the same containers, lengths, names and leaves, but
for the strings, each of which is resolved. -/
def Resolved (blobs : BlobTable) (hash : JsString → JsString) :
    Json → JsValue → Prop
  | .string text, result =>
      ∃ resolved, result = .string resolved ∧
        ResolvesTo blobs hash text resolved
  | .array items, result =>
      ∃ results, result = .array results [] ∧
        ResolvedItems blobs hash items results
  | .object members, result =>
      ∃ own, result = .object own ∧ ResolvedMembers blobs hash members own
  | value, result => result = .ofJson value

def ResolvedItems (blobs : BlobTable) (hash : JsString → JsString) :
    List Json → List JsValue → Prop
  | [], results => results = []
  | item :: rest, results =>
      ∃ result others, results = result :: others ∧
        Resolved blobs hash item result ∧
          ResolvedItems blobs hash rest others

def ResolvedMembers (blobs : BlobTable) (hash : JsString → JsString) :
    List (JsString × Json) → List (JsString × JsValue) → Prop
  | [], own => own = []
  | (key, value) :: rest, own =>
      ∃ result others, own = (key, result) :: others ∧
        Resolved blobs hash value result ∧
          ResolvedMembers blobs hash rest others

end

section

variable {blobs : BlobTable} {hash : JsString → JsString}

/-! ### References -/

theorem drop_reference (reference : JsString) :
    (BLOB_PREFIX ++ reference).drop (js "$blob:").length = keyOf reference :=
  rfl

theorem drop_keyOf (reference : JsString) :
    (keyOf reference).drop (js "sha256:").length = reference := rfl

theorem isPrefixOf_reference (reference : JsString) :
    ¬ (!BLOB_PREFIX.isPrefixOf (BLOB_PREFIX ++ reference)) = true := by
  rw [List.isPrefixOf_iff_prefix.mpr (List.prefix_append _ _)]
  decide

theorem truthy_of_data {entry : Json} {data : JsString}
    (isData : entry.member? (js "data") = some (.string data)) :
    entry.truthy = true := by
  cases entry with
  | object members => rfl
  | _ => cases isData

/-- An entry in another encoding gives the placeholder for that. -/
theorem resolveString?_otherEncoding (table : IsTable blobs hash)
    {reference : JsString} {entry : Json}
    (found : blobs.entry? (keyOf reference) = some entry)
    (notText : entry.member? (js "encoding") ≠ some (.string (js "utf-8"))) :
    ∃ encoding, blobs.resolveString? (BLOB_PREFIX ++ reference) =
      some (.string
        (js "[unsupported blob encoding: " ++ encoding ++ js "]")) := by
  obtain ⟨data, isData⟩ := table.data _ entry found
  have otherEncoding := mt Json.bind_asString?_eq_some_iff.mp notText
  rw [resolveString?, if_neg (isPrefixOf_reference reference), drop_reference]
  dsimp only
  rw [found, Option.filter_some, if_pos (truthy_of_data isData)]
  dsimp only
  rw [if_pos otherEncoding]
  cases isEncoding : entry.member? (js "encoding") with
  | none => exact ⟨js "undefined", rfl⟩
  | some encoding =>
      obtain ⟨encodingText, isEncodingText⟩ :=
        Option.isSome_iff_exists.mp
          (table.encoding _ entry found encoding isEncoding)
      refine ⟨encodingText, ?_⟩
      dsimp only
      rw [isEncodingText]
      rfl

/-- An entry with a text gives that, where the reference is its hash. -/
theorem resolveString?_text (table : IsTable blobs hash)
    {reference data : JsString} {entry : Json}
    (found : blobs.entry? (keyOf reference) = some entry)
    (isText : entry.member? (js "encoding") = some (.string (js "utf-8")))
    (isData : entry.member? (js "data") = some (.string data)) :
    blobs.resolveString? (BLOB_PREFIX ++ reference) = some (.string
      (if hash data = reference then data
        else js "[corrupt blob: " ++ keyOf reference ++ js "]")) := by
  have sameEncoding := not_not.mpr (Json.bind_asString?_eq_some_iff.mpr isText)
  rw [resolveString?, if_neg (isPrefixOf_reference reference), drop_reference]
  dsimp only
  rw [found, Option.filter_some, if_pos (truthy_of_data isData)]
  dsimp only
  rw [if_neg sameEncoding, isData, table.hashes, drop_keyOf]
  dsimp only
  by_cases sameHash : hash data = reference
  · rw [Option.any_some, if_neg (by simpa using sameHash), if_pos sameHash]
    rfl
  · rw [Option.any_some, if_pos (by simpa using sameHash), if_neg sameHash]

theorem resolveString?_resolves (table : IsTable blobs hash)
    (text : JsString) :
    ∃ resolved, blobs.resolveString? text = some (.string resolved) ∧
      ResolvesTo blobs hash text resolved := by
  by_cases isReference : BLOB_PREFIX <+: text
  · obtain ⟨reference, rfl⟩ := isReference
    cases found : blobs.entry? (keyOf reference) with
    | none =>
        refine ⟨_, ?_, .unresolved found⟩
        rw [resolveString?, if_neg (isPrefixOf_reference reference),
          drop_reference]
        dsimp only
        rw [found]
        rfl
    | some entry =>
        obtain ⟨data, isData⟩ := table.data _ entry found
        by_cases isText : entry.member? (js "encoding") =
            some (.string (js "utf-8"))
        · refine ⟨_, resolveString?_text table found isText isData, ?_⟩
          by_cases sameHash : hash data = reference
          · rw [if_pos sameHash]
            exact .data found isText isData sameHash
          · rw [if_neg sameHash]
            exact .corrupt found isData sameHash
        · obtain ⟨encoding, resolves⟩ :=
            resolveString?_otherEncoding table found isText
          exact ⟨_, resolves, .unsupported found isText⟩
  · have noPrefix : (!BLOB_PREFIX.isPrefixOf text) = true := by
      rw [Bool.not_eq_true', ← Bool.not_eq_true, List.isPrefixOf_iff_prefix]
      exact isReference
    rw [resolveString?, if_pos noPrefix]
    exact ⟨text, rfl, .unchanged isReference⟩

/-! ### Values -/

mutual

theorem resolve?_resolved (table : IsTable blobs hash) : (value : Json) →
    Regular value → ∃ result, blobs.resolve? value = some result ∧
      Resolved blobs hash value result
  | .null, _ => ⟨_, rfl, rfl⟩
  | .bool _, _ => ⟨_, rfl, rfl⟩
  | .number _, _ => ⟨_, rfl, rfl⟩
  | .string text, _ => by
      obtain ⟨resolved, result, resolves⟩ := resolveString?_resolves table text
      exact ⟨_, result, resolved, rfl, resolves⟩
  | .array items, regular => by
      obtain ⟨results, result, resolved⟩ :=
        resolveItems?_resolved table items regular
      refine ⟨.array results [], ?_, results, rfl, resolved⟩
      rw [resolve?, result, Option.map_some]
  | .object members, ⟨inOrder, noPrototype, regular⟩ => by
      obtain ⟨own, result, resolved⟩ := resolveMembers?_resolved table members
        inOrder noPrototype regular [] (fun _ member => by cases member)
      exact ⟨.object own, result, own, rfl, resolved⟩

theorem resolveItems?_resolved (table : IsTable blobs hash) :
    (items : List Json) → RegularItems items →
      ∃ results, blobs.resolveItems? items = some results ∧
        ResolvedItems blobs hash items results
  | [], _ => ⟨[], rfl, rfl⟩
  | item :: rest, ⟨regular, restRegular⟩ => by
      obtain ⟨result, isResult, resolved⟩ := resolve?_resolved table item regular
      obtain ⟨results, areResults, restResolved⟩ :=
        resolveItems?_resolved table rest restRegular
      refine ⟨result :: results, ?_, result, results, rfl, resolved,
        restResolved⟩
      rw [resolveItems?, isResult, areResults]
      rfl

/-- The members are added to a copy whose names come before theirs. -/
theorem resolveMembers?_resolved (table : IsTable blobs hash) :
    (members : List (JsString × Json)) → InOrder members →
    js "__proto__" ∉ members.map Prod.fst → RegularMembers members →
    (own : List (JsString × JsValue)) →
    (∀ member ∈ own, ∀ later ∈ members,
      keyBefore member.1 later.1 = true) →
      ∃ results, blobs.resolveMembers? (.object own) members =
          some (.object (own ++ results)) ∧
        ResolvedMembers blobs hash members results
  | [], _, _, _, own, _ => ⟨[], by rw [List.append_nil]; rfl, rfl⟩
  | (key, value) :: rest, inOrder, noPrototype, ⟨regular, restRegular⟩, own,
      before => by
      obtain ⟨result, isResult, resolved⟩ :=
        resolve?_resolved table value regular
      rw [List.map_cons, List.mem_cons, not_or] at noPrototype
      obtain ⟨first, restInOrder⟩ := List.pairwise_cons.mp inOrder
      have stillBefore : ∀ member ∈ own ++ [(key, result)], ∀ later ∈ rest,
          keyBefore member.1 later.1 = true := by
        intro member isMember later isLater
        rcases List.mem_append.mp isMember with inOwn | isNew
        · exact before member inOwn later (List.mem_cons_of_mem _ isLater)
        · rw [List.mem_singleton.mp isNew]
          exact first later isLater
      obtain ⟨results, areResults, restResolved⟩ :=
        resolveMembers?_resolved table rest restInOrder noPrototype.2
          restRegular (own ++ [(key, result)]) stillBefore
      refine ⟨(key, result) :: results, ?_, result, results, rfl, resolved,
        restResolved⟩
      rw [resolveMembers?, isResult]
      dsimp only
      rw [copyMember_object (Ne.symm noPrototype.1), assignMember_last
        fun member isMember => before member isMember _ List.mem_cons_self,
        areResults, List.append_assoc, List.singleton_append]

end

/-- Resolving keeps the shape of a value, and puts no data in the place of a
reference that is not under its hash. -/
theorem resolve_keepsIntegrity {value : Json} (table : IsTable blobs hash)
    (regular : Regular value) :
    ∃ result, blobs.resolve? value = some result ∧
      Resolved blobs hash value result :=
  resolve?_resolved table value regular

end

/-! ### A table with one entry -/

/-- The SHA-256 of `hello`, which is the only text that is hashed. -/
def helloHash (text : JsString) : JsString :=
  if text = js "hello" then
    js "2cf24dba5fb0a30e26e83b2ac5b9e29e1b161e5c1fa7425e73043362938b9824"
  else
    []

def helloEntry : Json :=
  .object [(js "encoding", .string (js "utf-8")),
    (js "data", .string (js "hello"))]

def helloTable : BlobTable where
  entry? := fun key =>
    if key = keyOf (helloHash (js "hello")) then some helloEntry else none
  sha256? := fun data =>
    (data.bind Json.asString?).map fun text => some (helloHash text)

theorem helloTable_isTable : IsTable helloTable helloHash where
  data := by
    intro key entry found
    obtain ⟨_, isEntry⟩ := Option.ite_none_right_eq_some.mp found
    rw [← Option.some.inj isEntry]
    exact ⟨js "hello", rfl⟩
  encoding := by
    intro key entry found encoding isEncoding
    obtain ⟨_, isEntry⟩ := Option.ite_none_right_eq_some.mp found
    rw [← Option.some.inj isEntry] at isEncoding
    rw [← Option.some.inj isEncoding]
    rfl
  hashes := fun _ => rfl

theorem hello_keepsIntegrity : ∃ result,
    helloTable.resolve? (.object
      [(js "body", .string (BLOB_PREFIX ++ helloHash (js "hello"))),
        (js "size", .null)]) = some result ∧
      Resolved helloTable helloHash (.object
        [(js "body", .string (BLOB_PREFIX ++ helloHash (js "hello"))),
          (js "size", .null)]) result :=
  resolve_keepsIntegrity helloTable_isTable
    ⟨by decide, by decide, trivial, trivial, trivial⟩

end BlobTable

end RtsNotebook.Llmnb
