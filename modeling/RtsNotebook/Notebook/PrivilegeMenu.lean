import RtsNotebook.Library.Infixes
import RtsNotebook.Notebook.HeaderChips

/-!
# The menu of privilege grants

`buildMenuItems` renders each grant as a line of text, and `parseMenuPick` takes
the first grant whose line is the picked one.
-/

namespace RtsNotebook.Notebook.HeaderChips

open RtsNotebook.Library RtsNotebook.Js

/-- `e.scope.magics === 'all' ? 'all' : e.scope.magics.join(',')` -/
def Magics.menuText : Magics → JsString
  | .all => js "all"
  | .names items => join (js ",") items

/-- The line of a grant. -/
def menuItem (e : MagicEmitPrivilegeEntry) : JsString :=
  js "Revoke: " ++ e.agentId ++ js " in " ++ e.zoneId ++ js " (" ++
    e.magics.menuText ++ js ")"

/-- `buildMenuItems` -/
def buildMenuItems (entries : List MagicEmitPrivilegeEntry) :
    List JsString :=
  if entries.length = 0 then
    [js "(no active grants)"]
  else
    entries.map menuItem

/-- `parseMenuPick` -/
def parseMenuPick (pick : JsString)
    (entries : List MagicEmitPrivilegeEntry) :
    Option MagicEmitPrivilegeEntry :=
  if pick = [] ∨ (js "Revoke: ").isPrefixOf pick = false then
    none
  else
    entries.find? fun e => pick = menuItem e

/-- The parameters of a `revoke_magic_emit_privilege` action. -/
structure RevokeAction where
  agentId : JsString
  zoneId : JsString
  deriving DecidableEq

/-- `openPrivilegeMenu`, with the grant that it returns and the actions that it
emits.  The sink is given the items and the placeholder. -/
def openPrivilegeMenu (registry : PrivilegeRegistry)
    (pickSink : List JsString → JsString → Option JsString) :
    Option MagicEmitPrivilegeEntry × List RevokeAction :=
  let entries := registry.list
  let placeholder :=
    if entries.length = 0 then
      js "No active grants -- use the cell toolbar to grant a privilege"
    else
      js "Pick a grant to revoke"
  match pickSink (buildMenuItems entries) placeholder with
  | none => (none, [])
  | some picked =>
      match parseMenuPick picked entries with
      | none => (none, [])
      | some target =>
          (some target,
            [{ agentId := target.agentId, zoneId := target.zoneId }])

/-- The operator picks the item at a position. -/
def picksAt (index : Nat) (items : List JsString) (_placeholder : JsString) :
    Option JsString :=
  items[index]?

/-- Two grants for the same agent and zone. -/
def SameGrant (e other : MagicEmitPrivilegeEntry) : Prop :=
  e.agentId = other.agentId ∧ e.zoneId = other.zoneId

/-- The item at a position is read back as a grant for the agent and the zone of
the entry there, and picking it revokes that grant and nothing else. -/
def PicksEntry (registry : PrivilegeRegistry) (index : Nat) : Prop :=
  ∀ e, registry.list[index]? = some e →
    (∃ item target, (buildMenuItems registry.list)[index]? = some item ∧
      parseMenuPick item registry.list = some target ∧ SameGrant target e) ∧
    (openPrivilegeMenu registry (picksAt index)).2 =
      [{ agentId := e.agentId, zoneId := e.zoneId }]

section

variable {entries : List MagicEmitPrivilegeEntry}
  {e other : MagicEmitPrivilegeEntry} {registry : PrivilegeRegistry}
  {index : Nat}

theorem SameGrant.symm (same : SameGrant e other) : SameGrant other e :=
  ⟨same.1.symm, same.2.symm⟩

theorem SameGrant.trans {third : MagicEmitPrivilegeEntry}
    (same : SameGrant e other) (next : SameGrant other third) :
    SameGrant e third :=
  ⟨same.1.trans next.1, same.2.trans next.2⟩

/-! ### The first grant with the picked line -/

theorem buildMenuItems_getElem? (found : entries[index]? = some e) :
    (buildMenuItems entries)[index]? = some (menuItem e) := by
  have nonempty : entries.length ≠ 0 := by
    rintro empty
    rw [List.eq_nil_of_length_eq_zero empty] at found
    cases found
  rw [buildMenuItems, if_neg nonempty, List.getElem?_map, found,
    Option.map_some]

theorem parseMenuPick_menuItem :
    parseMenuPick (menuItem e) entries =
      entries.find? fun other => menuItem e = menuItem other := by
  have isPrefix : (js "Revoke: ").isPrefixOf (menuItem e) = true := by
    rw [List.isPrefixOf_iff_prefix]
    exact ⟨_, by simp only [menuItem, List.append_assoc]; rfl⟩
  have nonempty : menuItem e ≠ [] := by
    intro empty
    rw [empty] at isPrefix
    cases isPrefix
  rw [parseMenuPick, if_neg]
  rintro (empty | notPrefix)
  · exact nonempty empty
  · rw [isPrefix] at notPrefix
    cases notPrefix

/-- Picking the item of an entry takes the first entry with the same line. -/
theorem picksEntry_iff (found : registry.list[index]? = some e) :
    PicksEntry registry index ↔
      ∀ target, registry.list.find?
        (fun other => menuItem e = menuItem other) = some target →
          SameGrant target e := by
  have item := buildMenuItems_getElem? found
  have member : e ∈ registry.list := List.mem_of_getElem? found
  obtain ⟨first, isFirst⟩ : ∃ first, registry.list.find?
      (fun other => menuItem e = menuItem other) = some first := by
    rw [← Option.isSome_iff_exists, List.find?_isSome]
    exact ⟨e, member, by simp⟩
  have parsed : parseMenuPick (menuItem e) registry.list = some first :=
    parseMenuPick_menuItem.trans isFirst
  have revoked : (openPrivilegeMenu registry (picksAt index)).2 =
      [{ agentId := first.agentId, zoneId := first.zoneId }] := by
    simp only [openPrivilegeMenu, picksAt, item, parsed]
  constructor
  · intro picks target isTarget
    obtain ⟨⟨pickedItem, picked, isItem, isPicked, same⟩, _⟩ := picks e found
    rw [item, Option.some.injEq] at isItem
    rw [← isItem, parseMenuPick_menuItem, isTarget,
      Option.some.injEq] at isPicked
    exact isPicked ▸ same
  · intro sameFirst entry isEntry
    obtain rfl : e = entry := Option.some.inj (found.symm.trans isEntry)
    have same := sameFirst first isFirst
    refine ⟨⟨menuItem e, first, item, parsed, same⟩, ?_⟩
    rw [revoked, same.1, same.2]

/-- Every pick from the menu revokes the grant that was picked if and only if no
two grants for a different agent or zone read the same in the menu. -/
theorem picksEvery_iff_distinctLines (registry : PrivilegeRegistry) :
    (∀ index, PicksEntry registry index) ↔
      registry.list.Pairwise fun e other =>
        menuItem e = menuItem other → SameGrant e other := by
  constructor
  · intro picks
    rw [List.pairwise_iff_getElem]
    intro index later isBelow laterBelow _ sameLine
    have atIndex := List.getElem?_eq_getElem isBelow
    have atLater := List.getElem?_eq_getElem laterBelow
    have readIndex := (picksEntry_iff atIndex).mp (picks index)
    have readLater := (picksEntry_iff atLater).mp (picks later)
    -- Both picks are read as the first entry with that line.
    rw [← sameLine] at readLater
    cases first : registry.list.find? fun other =>
        menuItem registry.list[index] = menuItem other with
    | none =>
        have absent := List.find?_eq_none.mp first _
          (List.getElem_mem isBelow)
        simp at absent
    | some target =>
        exact (readIndex target first).symm.trans (readLater target first)
  · intro apart index
    by_cases isBelow : index < registry.list.length
    · rw [picksEntry_iff (List.getElem?_eq_getElem isBelow)]
      intro target isFirst
      have sameLine := List.find?_some isFirst
      rw [decide_eq_true_eq] at sameLine
      have member := List.mem_of_find?_eq_some isFirst
      have backward : registry.list.Pairwise fun other e =>
          menuItem e = menuItem other → SameGrant e other :=
        apart.imp fun same sameLine => (same sameLine.symm).symm
      exact List.Pairwise.forall_of_forall_of_flip
        (fun _ _ _ => ⟨rfl, rfl⟩) apart backward member
        (List.getElem_mem isBelow) sameLine.symm
    · intro e found
      rw [List.getElem?_eq_none (Nat.le_of_not_lt isBelow)] at found
      cases found

/-- The agent `a in b` in the zone `c`, and the agent `a` in the zone
`b in c`. -/
def nestedNames : PrivilegeRegistry where
  entries :=
    [{ agentId := js "a in b", zoneId := js "c", grantedAt := js "1",
        magics := .all },
      { agentId := js "a", zoneId := js "b in c", grantedAt := js "2",
        magics := .all }]
  changes := 1

/-- Picking the second grant revokes the first one. -/
theorem nestedNames_revokesOther : ¬ ∀ index, PicksEntry nestedNames index := by
  intro picks
  obtain ⟨_, revoked⟩ := picks 1 _ rfl
  revert revoked
  decide +kernel

/-! ### Where two lines can be the same -/

/-- An agent id and a zone id without the beginning of what follows them. -/
def IsPlain (e : MagicEmitPrivilegeEntry) : Prop :=
  ¬ js " in" <:+: e.agentId ∧ ¬ js " (" <:+: e.zoneId

theorem sameGrant_of_plain (plain : IsPlain e) (otherPlain : IsPlain other)
    (sameLine : menuItem e = menuItem other) : SameGrant e other := by
  simp only [menuItem, List.append_assoc, List.append_cancel_left_eq]
    at sameLine
  have noBlank : unit ' ' ∉ js "in" := by decide
  have noParen : unit ' ' ∉ js "(" := by decide
  have afterAgent := @split_eq_or_crossing _ _ _ _ (js " ") _ _ _ noBlank sameLine
  rcases afterAgent with ⟨sameAgent, sameZone⟩ | inFirst | inSecond
  · have afterZone := @split_eq_or_crossing _ _ _ _ [] _ _ _ noParen sameZone
    rcases afterZone with ⟨sameZone, _⟩ | inFirst | inSecond
    · exact ⟨sameAgent, sameZone⟩
    · exact absurd inFirst plain.2
    · exact absurd inSecond otherPlain.2
  · exact absurd inFirst plain.1
  · exact absurd inSecond otherPlain.1

/-- Grants with plain ids are picked right. -/
theorem picksEvery_of_plain (registry : PrivilegeRegistry)
    (plain : ∀ e ∈ registry.list, IsPlain e) (index : Nat) :
    PicksEntry registry index :=
  (picksEvery_iff_distinctLines registry).mpr
    (List.Pairwise.imp_of_mem
      (fun isMember isOther _ sameLine =>
        sameGrant_of_plain (plain _ isMember) (plain _ isOther) sameLine)
      (List.pairwise_of_forall (R := fun _ _ => True) fun _ _ => trivial))
    index

end

end RtsNotebook.Notebook.HeaderChips
