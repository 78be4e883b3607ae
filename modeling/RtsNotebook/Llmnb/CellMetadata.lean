import RtsNotebook.Js.Members
import RtsNotebook.Messaging.RunMime

/-!
# The metadata of a markdown cell

`sanitizeMarkdownCellMetadata` of the serializer, and `readCellMetadataSlot`,
with which the rest of the extension reads what the serializer leaves.  Both
know a namespaced shape, `rts.cell`, and an older flat one.
-/

namespace RtsNotebook.Llmnb

open RtsNotebook.Js RtsNotebook.Messaging

abbrev Members := List (JsString × Json)

/-- `MARKUP_RENDERED_KINDS` -/
def MARKUP_RENDERED_KINDS : List JsString :=
  [js "markdown", js "section"]

/-- `typeof kind === 'string' && MARKUP_RENDERED_KINDS.has(kind)` -/
def isMarkupKind : Option Json → Bool
  | some (.string kind) => kind ∈ MARKUP_RENDERED_KINDS
  | _ => false

/-- The namespaced slot `rts.cell`. -/
def sanitizeCell (cell : Members) : Members :=
  let cell := deleteMember (js "bound_agent_id") cell
  if isMarkupKind (cell.lookup (js "kind")) then
    cell
  else
    assignMember (js "kind") (.string (js "markdown")) cell

/-- The older flat fields of `rts`. -/
def sanitizeFlat (rts : Members) : Members :=
  let rts := deleteMember (js "bound_agent_id") rts
  match rts.lookup (js "kind") with
  | some (.string kind) =>
      if kind ∈ MARKUP_RENDERED_KINDS then
        rts
      else
        assignMember (js "kind") (.string (js "markdown")) rts
  | _ => rts

/-- `rts.cell`, where it is an object. -/
def cellOf? (rts : Members) : Option Members :=
  (rts.lookup (js "cell")).bind Json.asRecord?

/-- Both shapes of `rts`. -/
def sanitizeRts (rts : Members) : Members :=
  let cell :=
    match cellOf? rts with
    | some cell => sanitizeCell cell
    | none => [(js "kind", .string (js "markdown"))]
  sanitizeFlat (assignMember (js "cell") (.object cell) rts)

/-- `metadata.rts`, where it is an object, and an empty object otherwise. -/
def rtsOf (metadata : Members) : Members :=
  ((metadata.lookup (js "rts")).bind Json.asRecord?).getD []

/-- `sanitizeMarkdownCellMetadata`, on the members of the metadata. -/
def sanitizeMembers (metadata : Members) : Members :=
  assignMember (js "rts") (.object (sanitizeRts (rtsOf metadata))) metadata

/-- `sanitizeMarkdownCellMetadata` -/
def sanitizeMarkdownCellMetadata (metadata : Json) : Json :=
  .object (sanitizeMembers metadata.ownMembers)

/-- `const { kind, promoted, bound_agent_id } = rts` -/
def flatSlot (rts : Json) : Json :=
  .object ([js "kind", js "promoted", js "bound_agent_id"].filterMap
    fun key => (rts.member? key).map fun value => (key, value))

/-- `readCellMetadataSlot` -/
def readCellMetadataSlot (metadata : Option Json) : Json :=
  match metadata.filter isObject with
  | none => .object []
  | some metadata =>
      match (metadata.member? (js "rts")).filter Json.truthy with
      | none => .object []
      | some rts =>
          match (rts.member? (js "cell")).filter isObject with
          | some cell => cell
          | none => flatSlot rts

/-! ### The slot -/

theorem notIndex_cell : arrayIndex? (js "cell") = none := by
  decide

theorem notIndex_rts : arrayIndex? (js "rts") = none := by
  decide

theorem kind_ne_bound : js "kind" ≠ js "bound_agent_id" := by
  decide

variable {cell rts metadata : Members} {key : JsString}

theorem sanitizeCell_bound :
    (sanitizeCell cell).lookup (js "bound_agent_id") = none := by
  rw [sanitizeCell]
  split
  · rw [lookup_deleteMember, if_pos rfl]
  · rw [lookup_assignMember, if_neg (Ne.symm kind_ne_bound),
      lookup_deleteMember, if_pos rfl]

theorem sanitizeCell_kind :
    (sanitizeCell cell).lookup (js "kind") =
      if isMarkupKind (cell.lookup (js "kind")) then cell.lookup (js "kind")
      else some (.string (js "markdown")) := by
  have kept : (deleteMember (js "bound_agent_id") cell).lookup (js "kind") =
      cell.lookup (js "kind") := by
    rw [lookup_deleteMember, if_neg kind_ne_bound]
  rw [sanitizeCell]
  rw [kept]
  split
  · exact kept
  · rw [lookup_assignMember, if_pos rfl]

theorem sanitizeCell_other (notKind : key ≠ js "kind")
    (notBound : key ≠ js "bound_agent_id") :
    (sanitizeCell cell).lookup key = cell.lookup key := by
  have kept : (deleteMember (js "bound_agent_id") cell).lookup key =
      cell.lookup key := by
    rw [lookup_deleteMember, if_neg notBound]
  rw [sanitizeCell]
  split
  · exact kept
  · rw [lookup_assignMember, if_neg notKind, kept]

theorem isMarkupKind_markdown :
    isMarkupKind (some (.string (js "markdown"))) = true := by
  decide

/-- A slot without an agent whose kind is rendered as markup stays. -/
theorem sanitizeCell_of_clean
    (noBound : cell.lookup (js "bound_agent_id") = none)
    (isMarkup : isMarkupKind (cell.lookup (js "kind")) = true) :
    sanitizeCell cell = cell := by
  rw [sanitizeCell, deleteMember_of_absent noBound]
  rw [if_pos isMarkup]

theorem sanitizeCell_sanitizeCell :
    sanitizeCell (sanitizeCell cell) = sanitizeCell cell := by
  apply sanitizeCell_of_clean sanitizeCell_bound
  rw [sanitizeCell_kind]
  split
  · assumption
  · exact isMarkupKind_markdown

/-! ### The flat fields -/

/-- A flat kind that is a string is one that is rendered as markup. -/
def FlatKindFits (rts : Members) : Prop :=
  ∀ kind, rts.lookup (js "kind") = some (.string kind) →
    kind ∈ MARKUP_RENDERED_KINDS

theorem sanitizeFlat_of_clean
    (noBound : rts.lookup (js "bound_agent_id") = none)
    (fits : FlatKindFits rts) : sanitizeFlat rts = rts := by
  rw [sanitizeFlat, deleteMember_of_absent noBound]
  split
  · rename_i kind hasKind
    rw [if_pos (fits kind hasKind)]
  · rfl

theorem sanitizeFlat_other (notKind : key ≠ js "kind")
    (notBound : key ≠ js "bound_agent_id") :
    (sanitizeFlat rts).lookup key = rts.lookup key := by
  have kept : (deleteMember (js "bound_agent_id") rts).lookup key =
      rts.lookup key := by
    rw [lookup_deleteMember, if_neg notBound]
  rw [sanitizeFlat]
  split
  · split
    · exact kept
    · rw [lookup_assignMember, if_neg notKind, kept]
  · exact kept

theorem sanitizeFlat_bound :
    (sanitizeFlat rts).lookup (js "bound_agent_id") = none := by
  have gone : (deleteMember (js "bound_agent_id") rts).lookup
      (js "bound_agent_id") = none := by
    rw [lookup_deleteMember, if_pos rfl]
  rw [sanitizeFlat]
  split
  · split
    · exact gone
    · rw [lookup_assignMember, if_neg (Ne.symm kind_ne_bound), gone]
  · exact gone

theorem sanitizeFlat_fits : FlatKindFits (sanitizeFlat rts) := by
  intro kind hasKind
  rw [sanitizeFlat] at hasKind
  split at hasKind
  · rename_i before wasKind
    split at hasKind
    · rename_i isMarkup
      rw [wasKind] at hasKind
      cases hasKind
      exact isMarkup
    · rw [lookup_assignMember, if_pos rfl] at hasKind
      cases hasKind
      decide
  · rename_i notString
    exact absurd hasKind (notString kind)

/-! ### Both shapes -/

theorem sanitizeRts_hasCell :
    (sanitizeRts rts).lookup (js "cell") =
      some (.object (match cellOf? rts with
        | some cell => sanitizeCell cell
        | none => [(js "kind", .string (js "markdown"))])) := by
  rw [sanitizeRts, sanitizeFlat_other (by decide) (by decide),
    lookup_assignMember, if_pos rfl]

theorem sanitizeRts_cell :
    cellOf? (sanitizeRts rts) =
      some (match cellOf? rts with
        | some cell => sanitizeCell cell
        | none => [(js "kind", .string (js "markdown"))]) := by
  rw [cellOf?, sanitizeRts_hasCell]
  rfl

theorem sanitizeRts_other (notCell : key ≠ js "cell")
    (notKind : key ≠ js "kind") (notBound : key ≠ js "bound_agent_id") :
    (sanitizeRts rts).lookup key = rts.lookup key := by
  rw [sanitizeRts, sanitizeFlat_other notKind notBound, lookup_assignMember,
    if_neg notCell]

theorem sanitizeRts_sanitizeRts :
    sanitizeRts (sanitizeRts rts) = sanitizeRts rts := by
  have cellAfter := @sanitizeRts_cell rts
  have sameCell : ∀ slot, cellOf? (sanitizeRts rts) = some slot →
      sanitizeCell slot = slot := by
    intro slot isSlot
    rw [cellAfter] at isSlot
    rw [← Option.some.inj isSlot]
    split
    · exact sanitizeCell_sanitizeCell
    · exact sanitizeCell_of_clean (by decide) (by decide)
  conv_lhs => rw [sanitizeRts]
  rw [cellAfter]
  dsimp only
  rw [sameCell _ cellAfter, assignMember_self notIndex_cell sanitizeRts_hasCell]
  apply sanitizeFlat_of_clean
  · exact sanitizeFlat_bound
  · exact sanitizeFlat_fits

theorem rtsOf_sanitizeMembers :
    rtsOf (sanitizeMembers metadata) = sanitizeRts (rtsOf metadata) := by
  rw [rtsOf, sanitizeMembers, lookup_assignMember, if_pos rfl]
  rfl

theorem sanitizeMembers_sanitizeMembers :
    sanitizeMembers (sanitizeMembers metadata) = sanitizeMembers metadata := by
  have hasRts : (sanitizeMembers metadata).lookup (js "rts") =
      some (.object (sanitizeRts (rtsOf metadata))) := by
    rw [sanitizeMembers, lookup_assignMember, if_pos rfl]
  conv_lhs => rw [sanitizeMembers]
  rw [rtsOf_sanitizeMembers, sanitizeRts_sanitizeRts,
    assignMember_self notIndex_rts hasRts]

/-- Sanitising twice is sanitising once, whatever the metadata is. -/
theorem sanitizeMarkdownCellMetadata_idempotent (metadata : Json) :
    sanitizeMarkdownCellMetadata (sanitizeMarkdownCellMetadata metadata) =
      sanitizeMarkdownCellMetadata metadata :=
  congrArg Json.object sanitizeMembers_sanitizeMembers

/-! ### Sections -/

/-- Metadata in which `rts`, if present, is an object, and `rts.cell`, if
present, is an object. -/
structure CellMetadata where
  members : Members
  rtsIsRecord : ∀ value, members.lookup (js "rts") = some value →
    ∃ own, value = .object own
  cellIsRecord : ∀ value, (rtsOf members).lookup (js "cell") = some value →
    ∃ own, value = .object own

/-- The kind that the rest of the extension reads. -/
def effectiveKind (metadata : Members) : Option Json :=
  (readCellMetadataSlot (some (.object metadata))).member? (js "kind")

/-- What sanitising is to do: nothing the second time, no agent in either
shape, every other field as it was, and a section stays a section. -/
structure Sanitizes (metadata : Members) : Prop where
  idempotent : sanitizeMembers (sanitizeMembers metadata) =
    sanitizeMembers metadata
  unbound : (rtsOf (sanitizeMembers metadata)).lookup (js "bound_agent_id") =
      none ∧
    ((cellOf? (rtsOf (sanitizeMembers metadata))).getD []).lookup
      (js "bound_agent_id") = none
  sameMetadata : ∀ key, key ≠ js "rts" →
    (sanitizeMembers metadata).lookup key = metadata.lookup key
  sameRts : ∀ key, key ≠ js "cell" → key ≠ js "kind" →
    key ≠ js "bound_agent_id" →
    (rtsOf (sanitizeMembers metadata)).lookup key =
      (rtsOf metadata).lookup key
  sameCell : ∀ key, key ≠ js "kind" → key ≠ js "bound_agent_id" →
    ((cellOf? (rtsOf (sanitizeMembers metadata))).getD []).lookup key =
      ((cellOf? (rtsOf metadata)).getD []).lookup key
  keepsSection : effectiveKind metadata = some (.string (js "section")) →
    effectiveKind (sanitizeMembers metadata) = some (.string (js "section"))

/-- The flat shape of a section, without a slot. -/
def LegacySection (metadata : Members) : Prop :=
  (rtsOf metadata).lookup (js "cell") = none ∧
    (rtsOf metadata).lookup (js "kind") = some (.string (js "section"))

theorem slot_of_rts (hasRts : metadata.lookup (js "rts") =
      some (.object rts)) :
    readCellMetadataSlot (some (.object metadata)) =
      match (rts.lookup (js "cell")).filter isObject with
      | some cell => cell
      | none => flatSlot (.object rts) := by
  have isSlot : isObject (.object metadata) = true := rfl
  have isTrue : Json.truthy (.object rts) = true := rfl
  rw [readCellMetadataSlot, Option.filter_some, if_pos isSlot]
  dsimp only [Json.member?]
  rw [hasRts, Option.filter_some, if_pos isTrue]

theorem slot_of_noRts (noRts : metadata.lookup (js "rts") = none) :
    readCellMetadataSlot (some (.object metadata)) = .object [] := by
  have isSlot : isObject (.object metadata) = true := rfl
  rw [readCellMetadataSlot, Option.filter_some, if_pos isSlot]
  dsimp only [Json.member?]
  rw [noRts, Option.filter_none]

theorem member?_flatSlot (rts : Json) {key : JsString}
    (picked : key ∈ [js "kind", js "promoted", js "bound_agent_id"]) :
    (flatSlot rts).member? key = rts.member? key :=
  (Library.lookup_pick (fun key => rts.member? key) _ key).trans
    (if_pos picked)

theorem flatSlot_kind :
    (flatSlot (.object rts)).member? (js "kind") = rts.lookup (js "kind") :=
  member?_flatSlot (.object rts) List.mem_cons_self

theorem markdown_ne_section :
    some (Json.string (js "markdown")) ≠ some (.string (js "section")) := by
  intro same
  have sameText : js "markdown" = js "section" :=
    Json.string.inj (Option.some.inj same)
  exact absurd sameText (by decide)

/-- After sanitising, the kind stands in the slot. -/
theorem effectiveKind_sanitized :
    effectiveKind (sanitizeMembers metadata) =
      match cellOf? (rtsOf metadata) with
      | some cell => (sanitizeCell cell).lookup (js "kind")
      | none => some (.string (js "markdown")) := by
  have hasRts : (sanitizeMembers metadata).lookup (js "rts") =
      some (.object (sanitizeRts (rtsOf metadata))) := by
    rw [sanitizeMembers, lookup_assignMember, if_pos rfl]
  have hasCell := @sanitizeRts_hasCell (rtsOf metadata)
  rw [effectiveKind, slot_of_rts hasRts, hasCell]
  cases cellOf? (rtsOf metadata) with
  | none => rfl
  | some cell => rfl

/-- Before, it stands there or is the flat one. -/
theorem effectiveKind_record (metadata : CellMetadata) :
    effectiveKind metadata.members =
      match cellOf? (rtsOf metadata.members) with
      | some cell => cell.lookup (js "kind")
      | none => (rtsOf metadata.members).lookup (js "kind") := by
  obtain ⟨members, rtsIsRecord, cellIsRecord⟩ := metadata
  dsimp only
  cases hasRts : members.lookup (js "rts") with
  | none =>
      have rtsEq : rtsOf members = [] := by
        rw [rtsOf, hasRts]
        rfl
      rw [effectiveKind, slot_of_noRts hasRts, rtsEq]
      rfl
  | some value =>
      obtain ⟨rts, rfl⟩ := rtsIsRecord value hasRts
      have rtsEq : rtsOf members = rts := by
        rw [rtsOf, hasRts]
        rfl
      rw [rtsEq] at cellIsRecord ⊢
      rw [effectiveKind, slot_of_rts hasRts, cellOf?]
      cases hasCell : rts.lookup (js "cell") with
      | none => exact flatSlot_kind
      | some value =>
          obtain ⟨cell, rfl⟩ := cellIsRecord value hasCell
          rfl

/-- Metadata of the two shapes is sanitised as it should be if and only if it
is not that of a section in the flat shape. -/
theorem sanitizes_iff_not_legacySection (metadata : CellMetadata) :
    Sanitizes metadata.members ↔ ¬ LegacySection metadata.members := by
  have before := effectiveKind_record metadata
  have after := @effectiveKind_sanitized metadata.members
  constructor
  · rintro sanitizes ⟨noCell, isSection⟩
    have noSlot : cellOf? (rtsOf metadata.members) = none := by
      rw [cellOf?, noCell]
      rfl
    rw [noSlot] at before after
    have lost := sanitizes.keepsSection (before.trans isSection)
    exact markdown_ne_section (after.symm.trans lost)
  · intro notLegacy
    have hasCell := @sanitizeRts_cell (rtsOf metadata.members)
    refine ⟨sanitizeMembers_sanitizeMembers, ⟨?_, ?_⟩, ?_, ?_, ?_, ?_⟩
    · rw [rtsOf_sanitizeMembers]
      exact sanitizeFlat_bound
    · rw [rtsOf_sanitizeMembers, hasCell, Option.getD_some]
      split
      · exact sanitizeCell_bound
      · decide
    · intro key notRts
      rw [sanitizeMembers, lookup_assignMember, if_neg notRts]
    · intro key notCell notKind notBound
      rw [rtsOf_sanitizeMembers, sanitizeRts_other notCell notKind notBound]
    · intro key notKind notBound
      rw [rtsOf_sanitizeMembers, hasCell, Option.getD_some]
      cases cellOf? (rtsOf metadata.members) with
      | some cell => exact sanitizeCell_other notKind notBound
      | none =>
          dsimp only
          rw [Library.lookup_cons_eq, if_neg notKind]
          rfl
    · intro isSection
      rw [before] at isSection
      rw [after]
      cases slot : cellOf? (rtsOf metadata.members) with
      | some cell =>
          rw [slot] at isSection
          dsimp only at isSection ⊢
          rw [sanitizeCell_kind, isSection]
          rfl
      | none =>
          rw [slot] at isSection
          have noCell : (rtsOf metadata.members).lookup (js "cell") = none := by
            cases found : (rtsOf metadata.members).lookup (js "cell") with
            | none => rfl
            | some value =>
                obtain ⟨own, rfl⟩ := metadata.cellIsRecord value found
                rw [cellOf?, found] at slot
                cases slot
          exact absurd ⟨noCell, isSection⟩ notLegacy

/-- `{ rts: { kind: 'section' } }` -/
def flatSection : Members :=
  [(js "rts", .object [(js "kind", .string (js "section"))])]

/-- It is read as a section before it is sanitised, and as markdown
afterwards. -/
theorem flatSection_becomesMarkdown :
    flatSection.lookup (js "rts") =
        some (.object [(js "kind", .string (js "section"))]) ∧
      (rtsOf flatSection).lookup (js "cell") = none ∧
      ¬ Sanitizes flatSection := by
  refine ⟨rfl, rfl, fun sanitizes => ?_⟩
  have before : effectiveKind flatSection = some (.string (js "section")) :=
    rfl
  have kept := sanitizes.keepsSection before
  have after : effectiveKind (sanitizeMembers flatSection) =
      some (.string (js "markdown")) := effectiveKind_sanitized
  exact markdown_ne_section (after.symm.trans kept)

end RtsNotebook.Llmnb
