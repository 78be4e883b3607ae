import RtsNotebook.Notebook.MetadataLoader

/-!
# The secret gate

Where a forbidden key occurs in a value, and what `scanForbiddenSecrets` and
`shipHydrate` make of it.  An occurrence is told apart from others by its
address, which has the place of every member and item on the way.
-/

namespace RtsNotebook.Notebook.MetadataLoader

open RtsNotebook.Js RtsNotebook.Messaging

/-- `shipHydrate`, which does not look at the type of the notebook. -/
def shipHydrate (nb : NotebookDocument) : Option HydrateDecision :=
  decideHydrate { nb with notebookType := NOTEBOOK_TYPE }

/-- `metadata.rts.config` -/
def configOf? (nb : NotebookDocument) : Option Json :=
  (nb.metadata.bind fun metadata => metadata.member? (js "rts")).bind
    fun rts => rts.member? (js "config")

/-- The lower case of a key matches one of the rules. -/
def IsForbidden (key : JsString) : Prop :=
  ∃ rule ∈ FORBIDDEN_FIELD_PATTERNS, rule.holds (toLowerCase key) = true

/-- One step into a value. -/
inductive Step where
  | member (place : Nat) (key : JsString)
  | item (place : Nat)

/-- A forbidden key at an address, whose last step is the member with the
key. -/
inductive Occurs : Json → List Step → Prop where
  | here {members : List (JsString × Json)} {place : Nat} {key : JsString}
      {value : Json} (found : members[place]? = some (key, value))
      (forbidden : IsForbidden key) :
      Occurs (.object members) [.member place key]
  | inMember {members : List (JsString × Json)} {place : Nat}
      {key : JsString} {value : Json} {address : List Step}
      (found : members[place]? = some (key, value))
      (occurs : Occurs value address) :
      Occurs (.object members) (.member place key :: address)
  | inItem {items : List Json} {place : Nat} {value : Json}
      {address : List Step} (found : items[place]? = some value)
      (occurs : Occurs value address) :
      Occurs (.array items) (.item place :: address)

/-- A step as it stands in a path. -/
def Step.text : Step → JsString
  | member _ key => js "." ++ key
  | item place => js "[" ++ natDigits place ++ js "]"

/-- The entry for an occurrence, with the path of its address and the first
rule that its key matches. -/
def entryOf (path : JsString) (address : List Step) : ForbiddenSecretMatch where
  path := path ++ address.flatMap Step.text
  pattern :=
    match address.getLast? with
    | some (.member _ key) => (forbiddenPattern? key).getD []
    | _ => []

/-- The scan has one entry for each address at which a forbidden key occurs,
and no other entry. -/
def ScansExactly (path : JsString) (value : Json) : Prop :=
  ∃ occurrences : List (List Step), occurrences.Nodup ∧
    (∀ address, address ∈ occurrences ↔ Occurs value address) ∧
      scanForbiddenSecrets path value = occurrences.map (entryOf path)

/-- The notebook is shipped only without a forbidden key in its config. -/
def ShipsOnlyClean (nb : NotebookDocument) : Prop :=
  ∀ envelope, shipHydrate nb = some (.ship envelope) →
    ∀ config ∈ configOf? nb, ∀ address, ¬ Occurs config address

/-! ### Rules -/

theorem isForbidden_iff {key : JsString} :
    IsForbidden key ↔ (forbiddenPattern? key).isSome = true := by
  rw [forbiddenPattern?, Option.isSome_map, List.find?_isSome]
  rfl

/-! ### The occurrences in order -/

mutual

/-- The addresses of the forbidden keys, in the order of the scan. -/
def forbiddenAddresses : Json → List (List Step)
  | .array items => itemAddresses 0 items
  | .object members => memberAddresses 0 members
  | _ => []

def itemAddresses (place : Nat) : List Json → List (List Step)
  | [] => []
  | item :: rest =>
      (forbiddenAddresses item).map (.item place :: ·) ++
        itemAddresses (place + 1) rest

def memberAddresses (place : Nat) :
    List (JsString × Json) → List (List Step)
  | [] => []
  | (key, value) :: rest =>
      ((forbiddenPattern? key).toList.map fun _ => [.member place key]) ++
        (forbiddenAddresses value).map (.member place key :: ·) ++
        memberAddresses (place + 1) rest

end

theorem entryOf_cons (path : JsString) (step : Step) {address : List Step}
    (nonempty : address ≠ []) :
    entryOf path (step :: address) = entryOf (path ++ step.text) address := by
  rw [entryOf, entryOf, List.flatMap_cons, ← List.append_assoc]
  obtain ⟨next, others, rfl⟩ := List.exists_cons_of_ne_nil nonempty
  rw [List.getLast?_cons_cons]

mutual

theorem address_ne_nil : (value : Json) →
    ∀ address ∈ forbiddenAddresses value, address ≠ []
  | .null, _, member | .bool _, _, member | .number _, _, member
  | .string _, _, member => by cases member
  | .array items, address, member => itemAddress_ne_nil 0 items address member
  | .object members, address, member =>
      memberAddress_ne_nil 0 members address member

theorem itemAddress_ne_nil (place : Nat) : (items : List Json) →
    ∀ address ∈ itemAddresses place items, address ≠ []
  | [], _, member => by cases member
  | item :: rest, address, member => by
      rcases List.mem_append.mp member with isHere | isLater
      · obtain ⟨others, _, rfl⟩ := List.mem_map.mp isHere
        exact List.cons_ne_nil _ _
      · exact itemAddress_ne_nil (place + 1) rest address isLater

theorem memberAddress_ne_nil (place : Nat) :
    (members : List (JsString × Json)) →
    ∀ address ∈ memberAddresses place members, address ≠ []
  | [], _, member => by cases member
  | (key, value) :: rest, address, member => by
      rcases List.mem_append.mp member with isHere | isLater
      · rcases List.mem_append.mp isHere with isKey | inValue
        · obtain ⟨_, _, rfl⟩ := List.mem_map.mp isKey
          exact List.cons_ne_nil _ _
        · obtain ⟨others, _, rfl⟩ := List.mem_map.mp inValue
          exact List.cons_ne_nil _ _
      · exact memberAddress_ne_nil (place + 1) rest address isLater

end

/-! ### The scan is complete -/

theorem map_entryOf_cons (path : JsString) (step : Step)
    {addresses : List (List Step)} (nonempty : ∀ address ∈ addresses, address ≠ []) :
    (addresses.map (step :: ·)).map (entryOf path) =
      addresses.map (entryOf (path ++ step.text)) := by
  rw [List.map_map]
  apply List.map_congr_left
  intro address member
  exact entryOf_cons path step (nonempty address member)

mutual

theorem scan_eq (path : JsString) : (value : Json) →
    scanForbiddenSecrets path value =
      (forbiddenAddresses value).map (entryOf path)
  | .null | .bool _ | .number _ | .string _ => rfl
  | .array items => scanItems_eq path 0 items
  | .object members => scanMembers_eq path 0 members

theorem scanItems_eq (path : JsString) (place : Nat) : (items : List Json) →
    scanItems path place items =
      (itemAddresses place items).map (entryOf path)
  | [] => rfl
  | item :: rest => by
      rw [scanItems, itemAddresses, List.map_append,
        map_entryOf_cons path _ (address_ne_nil item),
        scan_eq _ item, scanItems_eq path (place + 1) rest, Step.text,
        ← List.append_assoc path, ← List.append_assoc path]

theorem scanMembers_eq (path : JsString) (place : Nat) :
    (members : List (JsString × Json)) →
    scanMembers path members =
      (memberAddresses place members).map (entryOf path)
  | [] => rfl
  | (key, value) :: rest => by
      have isKey : ((forbiddenPattern? key).toList.map
          fun _ => [Step.member place key]).map (entryOf path) =
            (forbiddenPattern? key).toList.map fun pattern =>
              ⟨path ++ js "." ++ key, pattern⟩ := by
        cases found : forbiddenPattern? key with
        | none => rfl
        | some pattern =>
            simp [entryOf, Step.text, found]
      rw [scanMembers, memberAddresses, List.map_append, List.map_append,
        isKey, map_entryOf_cons path _ (address_ne_nil value),
        scan_eq _ value, scanMembers_eq path (place + 1) rest, Step.text,
        List.append_assoc path]

end

/-! ### The addresses are the occurrences -/

theorem occurs_array_iff {items : List Json} {address : List Step} :
    Occurs (.array items) address ↔ ∃ place item others,
      items[place]? = some item ∧ address = .item place :: others ∧
        Occurs item others := by
  constructor
  · intro occurs
    cases occurs with
    | inItem found occurs => exact ⟨_, _, _, found, rfl, occurs⟩
  · rintro ⟨place, item, others, found, rfl, occurs⟩
    exact .inItem found occurs

theorem occurs_object_iff {members : List (JsString × Json)}
    {address : List Step} :
    Occurs (.object members) address ↔ ∃ place key value others,
      members[place]? = some (key, value) ∧
        address = .member place key :: others ∧
          (others = [] ∧ IsForbidden key ∨ Occurs value others) := by
  constructor
  · intro occurs
    cases occurs with
    | here found forbidden =>
        exact ⟨_, _, _, _, found, rfl, Or.inl ⟨rfl, forbidden⟩⟩
    | inMember found occurs =>
        exact ⟨_, _, _, _, found, rfl, Or.inr occurs⟩
  · rintro ⟨place, key, value, others, found, rfl, ⟨rfl, forbidden⟩ | occurs⟩
    · exact .here found forbidden
    · exact .inMember found occurs

theorem mem_keyAddresses {place : Nat} {key : JsString}
    {address : List Step} :
    address ∈ (forbiddenPattern? key).toList.map
        (fun _ => [Step.member place key]) ↔
      address = [.member place key] ∧ IsForbidden key := by
  rw [isForbidden_iff]
  cases forbiddenPattern? key with
  | none => simp
  | some pattern => simp

mutual

theorem mem_forbiddenAddresses : (value : Json) → (address : List Step) →
    (address ∈ forbiddenAddresses value ↔ Occurs value address)
  | .null, _ | .bool _, _ | .number _, _ | .string _, _ =>
      ⟨(fun member => by cases member), fun occurs => by cases occurs⟩
  | .array items, address => by
      rw [forbiddenAddresses, mem_itemAddresses 0 items address,
        occurs_array_iff]
      simp only [Nat.zero_add]
  | .object members, address => by
      rw [forbiddenAddresses, mem_memberAddresses 0 members address,
        occurs_object_iff]
      simp only [Nat.zero_add]

theorem mem_itemAddresses (place : Nat) : (items : List Json) →
    (address : List Step) → (address ∈ itemAddresses place items ↔
      ∃ offset item others, items[offset]? = some item ∧
        address = .item (place + offset) :: others ∧ Occurs item others)
  | [], address => by simp [itemAddresses]
  | item :: rest, address => by
      rw [itemAddresses, List.mem_append, List.mem_map,
        mem_itemAddresses (place + 1) rest address]
      constructor
      · rintro (⟨others, member, rfl⟩ | ⟨offset, later, others, found, rfl,
          occurs⟩)
        · exact ⟨0, item, others, rfl, rfl,
            (mem_forbiddenAddresses item others).mp member⟩
        · exact ⟨offset + 1, later, others, found, by
            rw [Nat.add_right_comm, Nat.add_assoc], occurs⟩
      · rintro ⟨offset, found, others, isAt, rfl, occurs⟩
        cases offset with
        | zero =>
            cases isAt
            exact Or.inl ⟨others,
              (mem_forbiddenAddresses item others).mpr occurs, rfl⟩
        | succ offset =>
            exact Or.inr ⟨offset, found, others, isAt, by
              rw [Nat.add_right_comm, Nat.add_assoc], occurs⟩

theorem mem_memberAddresses (place : Nat) :
    (members : List (JsString × Json)) → (address : List Step) →
    (address ∈ memberAddresses place members ↔
      ∃ offset key value others, members[offset]? = some (key, value) ∧
        address = .member (place + offset) key :: others ∧
          (others = [] ∧ IsForbidden key ∨ Occurs value others))
  | [], address => by simp [memberAddresses]
  | (key, value) :: rest, address => by
      rw [memberAddresses, List.mem_append, List.mem_append,
        mem_keyAddresses, List.mem_map,
        mem_memberAddresses (place + 1) rest address]
      constructor
      · rintro ((⟨rfl, forbidden⟩ | ⟨others, member, rfl⟩) |
          ⟨offset, laterKey, later, others, found, rfl, occurs⟩)
        · exact ⟨0, key, value, [], rfl, rfl, Or.inl ⟨rfl, forbidden⟩⟩
        · exact ⟨0, key, value, others, rfl, rfl,
            Or.inr ((mem_forbiddenAddresses value others).mp member)⟩
        · exact ⟨offset + 1, laterKey, later, others, found, by
            rw [Nat.add_right_comm, Nat.add_assoc], occurs⟩
      · rintro ⟨offset, foundKey, found, others, isAt, rfl, occurs⟩
        cases offset with
        | zero =>
            cases isAt
            rcases occurs with ⟨rfl, forbidden⟩ | occurs
            · exact Or.inl (Or.inl ⟨rfl, forbidden⟩)
            · exact Or.inl (Or.inr ⟨others,
                (mem_forbiddenAddresses value others).mpr occurs, rfl⟩)
        | succ offset =>
            exact Or.inr ⟨offset, foundKey, found, others, isAt, by
              rw [Nat.add_right_comm, Nat.add_assoc], occurs⟩

end

/-! ### No address twice -/

theorem nodup_map_cons (step : Step) {addresses : List (List Step)}
    (nodup : addresses.Nodup) : (addresses.map (step :: ·)).Nodup := by
  apply List.Pairwise.map _ _ nodup
  intro first second different same
  injection same with _ same
  exact different same

mutual

theorem nodup_forbiddenAddresses : (value : Json) →
    (forbiddenAddresses value).Nodup
  | .null | .bool _ | .number _ | .string _ => List.nodup_nil
  | .array items => nodup_itemAddresses 0 items
  | .object members => nodup_memberAddresses 0 members

theorem nodup_itemAddresses (place : Nat) : (items : List Json) →
    (itemAddresses place items).Nodup
  | [] => List.nodup_nil
  | item :: rest => by
      rw [itemAddresses, List.nodup_append]
      refine ⟨nodup_map_cons _ (nodup_forbiddenAddresses item),
        nodup_itemAddresses (place + 1) rest, ?_⟩
      intro here isHere later isLater same
      obtain ⟨others, _, rfl⟩ := List.mem_map.mp isHere
      obtain ⟨offset, _, _, _, laterEq, _⟩ :=
        (mem_itemAddresses (place + 1) rest later).mp isLater
      rw [laterEq] at same
      injection same with sameStep _
      injection sameStep with samePlace
      omega

theorem nodup_memberAddresses (place : Nat) :
    (members : List (JsString × Json)) →
    (memberAddresses place members).Nodup
  | [] => List.nodup_nil
  | (key, value) :: rest => by
      have keyNodup : ((forbiddenPattern? key).toList.map
          fun _ => [Step.member place key]).Nodup := by
        cases forbiddenPattern? key with
        | none => exact List.nodup_nil
        | some pattern => simp
      rw [memberAddresses, List.nodup_append, List.nodup_append]
      refine ⟨⟨keyNodup, nodup_map_cons _ (nodup_forbiddenAddresses value), ?_⟩,
        nodup_memberAddresses (place + 1) rest, ?_⟩
      · intro ofKey isKey below inValue same
        obtain ⟨others, member, rfl⟩ := List.mem_map.mp inValue
        rw [(mem_keyAddresses.mp isKey).1] at same
        injection same with _ isNil
        exact address_ne_nil value others member isNil.symm
      · intro here isHere later isLater same
        obtain ⟨offset, laterKey, _, _, _, laterEq, _⟩ :=
          (mem_memberAddresses (place + 1) rest later).mp isLater
        have headPlace : ∃ others, here = .member place key :: others := by
          rcases List.mem_append.mp isHere with isKey | inValue
          · exact ⟨[], (mem_keyAddresses.mp isKey).1⟩
          · obtain ⟨others, _, rfl⟩ := List.mem_map.mp inValue
            exact ⟨others, rfl⟩
        obtain ⟨others, rfl⟩ := headPlace
        rw [laterEq] at same
        injection same with sameStep _
        injection sameStep with samePlace _
        omega

end

/-! ### The gate -/

theorem scansExactly (path : JsString) (value : Json) :
    ScansExactly path value :=
  ⟨forbiddenAddresses value, nodup_forbiddenAddresses value,
    mem_forbiddenAddresses value, scan_eq path value⟩

/-- A scan without an entry has met no forbidden key. -/
theorem not_occurs_of_scan {path : JsString} {value : Json}
    (clean : scanForbiddenSecrets path value = []) (address : List Step) :
    ¬ Occurs value address := by
  intro occurs
  rw [scan_eq, List.map_eq_nil_iff] at clean
  have member := (mem_forbiddenAddresses value address).mpr occurs
  rw [clean] at member
  cases member

theorem shipsOnlyClean (nb : NotebookDocument) : ShipsOnlyClean nb := by
  intro envelope shipped config isConfig address
  rw [shipHydrate, decideHydrate, if_neg (not_not.mpr rfl)] at shipped
  obtain ⟨rts, isRts, rtsConfig⟩ := Option.bind_eq_some_iff.mp isConfig
  simp only [isRts, rtsConfig] at shipped
  split at shipped
  · cases shipped
  · obtain ⟨observedMajor, _, decided⟩ := Option.map_eq_some_iff.mp shipped
    split at decided
    · cases decided
    · split at decided
      · cases decided
      · rename_i clean
        exact not_occurs_of_scan (not_not.mp clean) address

/-- The scan reports every occurrence of a forbidden key once, and a notebook
with one is not shipped. -/
theorem secretGate (nb : NotebookDocument) (path : JsString) (value : Json) :
    ScansExactly path value ∧ ShipsOnlyClean nb :=
  ⟨scansExactly path value, shipsOnlyClean nb⟩

end RtsNotebook.Notebook.MetadataLoader
