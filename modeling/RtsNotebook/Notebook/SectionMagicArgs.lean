import RtsNotebook.Notebook.SectionCell
import RtsNotebook.Notebook.SpawnForms

/-!
# The arguments of a section magic

The forms in which `@@section` takes a title and a section id, as
`parseSectionMagicArgs` reads them.  The expressions for the named arguments
are not anchored, so a name at the end of a quoted title opens an argument at
the closing quote of the title.
-/

namespace RtsNotebook.Notebook.SectionCell

open RtsNotebook.Js RtsNotebook.Library RtsNotebook.Notebook.CellDirective

/-- A title that is not empty and holds no double quote. -/
structure IsTitle (title : JsString) : Prop where
  nonempty : title ≠ []
  noQuote : quote ∉ title

/-- A section id that is not empty and holds no double quote and no white
space. -/
structure IsSectionId (sectionId : JsString) : Prop where
  nonempty : sectionId ≠ []
  unquoted : IsUnquoted sectionId

/-- `"<title>"` -/
def quotedTitle (title : JsString) : JsString :=
  js "\"" ++ (title ++ js "\"")

/-- `title:"<title>"` -/
def namedTitle (title : JsString) : JsString :=
  js "title:" ++ quotedTitle title

/-- `<form> id:"<sectionId>"` -/
def withId (form sectionId : JsString) : JsString :=
  form ++ (js " id:" ++ quote :: (sectionId ++ [quote]))

/-- The title and the id come back from every form that holds both, and the
title alone from every form without the id. -/
structure RecoversSection (title sectionId : JsString) : Prop where
  quoted : parseSectionMagicArgs (withId (quotedTitle title) sectionId) =
    ⟨some title, some sectionId⟩
  named : parseSectionMagicArgs (withId (namedTitle title) sectionId) =
    ⟨some title, some sectionId⟩
  plain : IsSolid title → ¬ js "id:" <+: title →
    parseSectionMagicArgs (withId title sectionId) =
      ⟨some title, some sectionId⟩
  quotedAlone : parseSectionMagicArgs (quotedTitle title) = ⟨some title, none⟩
  namedAlone : parseSectionMagicArgs (namedTitle title) = ⟨some title, none⟩
  plainAlone : IsSolid title → ¬ js "id:" <+: title →
    parseSectionMagicArgs title = ⟨some title, none⟩

section

variable {name text value before rest title sectionId : JsString}

/-! ### Quoted arguments -/

theorem quotedArg?_eq_some_iff :
    quotedArg? name text = some value ↔ value ≠ [] ∧ quote ∉ value ∧
      ∃ rest, text = name ++ quote :: (value ++ quote :: rest) := by
  unfold quotedArg?
  rw [Option.bind_eq_bind, Option.bind_eq_some_iff]
  constructor
  · rintro ⟨opened, isAfter, matched⟩
    rw [after?_eq_some_iff] at isAfter
    have whole := List.takeWhile_append_dropWhile
      (p := fun codeUnit => decide (codeUnit ≠ quote)) (l := opened)
    have stops := List.head?_dropWhile_not
      (fun codeUnit => decide (codeUnit ≠ quote)) opened
    rw [run_eq] at matched
    split at matched
    · cases matched
    · cases matched
    · rename_i found closing others nonempty runEq
      injection matched with valueEq
      injection runEq with foundEq restEq
      have noQuote : quote ∉ found := by
        intro member
        rw [← foundEq] at member
        have held := List.mem_takeWhile_imp member
        simp at held
      rw [restEq] at stops
      have closingEq : closing = quote := by simpa using stops
      rw [foundEq, restEq, closingEq] at whole
      subst valueEq
      refine ⟨?_, noQuote, others, ?_⟩
      · rintro rfl
        exact nonempty rfl
      · rw [isAfter, ← whole, List.append_assoc]
        rfl
  · rintro ⟨nonempty, noQuote, rest, textEq⟩
    refine ⟨value ++ quote :: rest, after?_eq_some_iff.mpr ?_, ?_⟩
    · rw [textEq, List.append_assoc]
      rfl
    · rw [run_quote noQuote]
      obtain ⟨first, others, rfl⟩ := List.exists_cons_of_ne_nil nonempty
      rfl

/-- An argument that is read at the start of a text has its name before the
first quote. -/
theorem eq_name_of_quotedArg? (unnamed : quote ∉ name)
    (noQuote : quote ∉ before)
    (matched : quotedArg? name (before ++ quote :: rest) = some value) :
    before = name := by
  obtain ⟨_, _, others, textEq⟩ := quotedArg?_eq_some_iff.mp matched
  exact (eq_of_append_quote noQuote unnamed textEq).1

/-- A quote that the name does not stand before opens no argument. -/
theorem search_quotedArg?_skip (unnamed : quote ∉ name)
    (noQuote : quote ∉ before) (notBefore : ¬ name <:+ before) :
    search (quotedArg? name) (before ++ quote :: rest) =
      search (quotedArg? name) rest := by
  have split : before ++ quote :: rest = before ++ [quote] ++ rest := by
    rw [List.append_assoc, List.singleton_append]
  rw [split]
  apply search_append
  intro codeUnit part isSuffix
  rw [Option.eq_none_iff_forall_ne_some]
  intro found matched
  rcases List.suffix_concat_iff.mp isSuffix with isNil | ⟨inner, partEq, inBefore⟩
  · cases isNil
  · rw [partEq, List.append_assoc, List.singleton_append] at matched
    have innerEq := eq_name_of_quotedArg? unnamed
      (fun member => noQuote (inBefore.mem member)) matched
    exact notBefore (innerEq ▸ inBefore)

theorem search_quotedArg?_quote (unnamed : quote ∉ name) (named : name ≠ []) :
    search (quotedArg? name) (quote :: rest) =
      search (quotedArg? name) rest := by
  have skips := @search_quotedArg?_skip name [] rest unnamed List.not_mem_nil
  exact skips (mt List.suffix_nil.mp named)

/-- A quote that the name stands before opens an argument, if another one
closes it. -/
theorem search_quotedArg?_found (unnamed : quote ∉ name)
    (noQuote : quote ∉ before) (isBefore : name <:+ before)
    (nonempty : value ≠ []) (valueFree : quote ∉ value) :
    search (quotedArg? name) (before ++ quote :: (value ++ quote :: rest)) =
      some value := by
  obtain ⟨start, rfl⟩ := isBefore
  have matched : quotedArg? name
      (name ++ quote :: (value ++ quote :: rest)) = some value :=
    quotedArg?_eq_some_iff.mpr ⟨nonempty, valueFree, rest, rfl⟩
  rw [List.append_assoc, search_append, search_of_match matched]
  intro codeUnit part isSuffix
  rw [Option.eq_none_iff_forall_ne_some]
  intro found matchedBefore
  rw [← List.append_assoc] at matchedBefore
  have sameName := eq_name_of_quotedArg? unnamed
    (fun member => by
      rcases List.mem_append.mp member with inPart | inName
      · exact noQuote (List.mem_append_left _ (isSuffix.mem inPart))
      · exact unnamed inName) matchedBefore
  have lengths := congrArg List.length sameName
  rw [List.length_append, List.length_cons] at lengths
  omega

/-- An argument needs two quotes. -/
theorem search_quotedArg?_alone (few : text.count quote ≤ 1) :
    search (quotedArg? name) text = none := by
  rw [search_eq_none_iff]
  intro part isSuffix
  rw [Option.eq_none_iff_forall_ne_some]
  intro found matched
  obtain ⟨_, _, others, partEq⟩ := quotedArg?_eq_some_iff.mp matched
  have fewer := isSuffix.sublist.count_le quote
  rw [partEq, List.count_append, List.count_cons_self, List.count_append,
    List.count_cons_self] at fewer
  omega

/-! ### The forms -/

theorem withId_eq (title sectionId : JsString) :
    withId (quotedTitle title) sectionId =
      quote :: (title ++ quote ::
        (js " id:" ++ quote :: (sectionId ++ [quote]))) := by
  rw [withId, quotedTitle, List.append_assoc, List.append_assoc]
  rfl

/-- The id that is read behind the opening quote of a title. -/
theorem search_id_inTitle (isTitle : IsTitle title)
    (isId : IsSectionId sectionId) :
    search (quotedArg? (js "id:"))
        (title ++ quote :: (js " id:" ++ quote :: (sectionId ++ [quote]))) =
      some (if js "id:" <:+ title then js " id:" else sectionId) := by
  by_cases endsInId : js "id:" <:+ title
  · rw [if_pos endsInId, search_quotedArg?_found (by decide) isTitle.noQuote
      endsInId (by decide) (by decide)]
  · rw [if_neg endsInId, search_quotedArg?_skip (by decide) isTitle.noQuote
      endsInId, search_quotedArg?_found (by decide) (by decide) (by decide)
      isId.nonempty isId.unquoted.noQuote]

/-- The named title that is read behind the opening quote of a title. -/
theorem search_title_inTitle (isTitle : IsTitle title)
    (isId : IsSectionId sectionId) :
    search (quotedArg? (js "title:"))
        (title ++ quote :: (js " id:" ++ quote :: (sectionId ++ [quote]))) =
      if js "title:" <:+ title then some (js " id:") else none := by
  by_cases endsInTitle : js "title:" <:+ title
  · rw [if_pos endsInTitle, search_quotedArg?_found (by decide)
      isTitle.noQuote endsInTitle (by decide) (by decide)]
  · rw [if_neg endsInTitle, search_quotedArg?_skip (by decide)
      isTitle.noQuote endsInTitle, search_quotedArg?_skip (by decide)
      (by decide) (by decide)]
    apply search_quotedArg?_alone
    rw [List.count_append, List.count_eq_zero.mpr isId.unquoted.noQuote,
      List.count_singleton_self]

/-- A text between quotes is bare. -/
theorem trim_between_quotes (text : JsString) :
    trim (quote :: (text ++ [quote])) = quote :: (text ++ [quote]) := by
  apply trimBy_of_bare
  apply bare_of_ends
  · rfl
  · rw [← List.cons_append, List.getLast?_concat]
    decide

/-- A title in quotes at the start of the trimmed arguments. -/
theorem quotedArg?_title (isTitle : IsTitle title) (rest : JsString) :
    quotedArg? [] (quote :: (title ++ quote :: rest)) = some title :=
  quotedArg?_eq_some_iff.mpr ⟨isTitle.nonempty, isTitle.noQuote, rest, rfl⟩

theorem parse_quoted (isTitle : IsTitle title)
    (isId : IsSectionId sectionId) :
    parseSectionMagicArgs (withId (quotedTitle title) sectionId) =
      ⟨some (if js "title:" <:+ title then js " id:" else title),
        some (if js "id:" <:+ title then js " id:" else sectionId)⟩ := by
  have between : withId (quotedTitle title) sectionId =
      quote :: ((title ++ quote :: (js " id:" ++ quote :: sectionId)) ++
        [quote]) := by
    simp only [withId_eq, List.append_assoc, List.cons_append]
  have trimmed : trim (withId (quotedTitle title) sectionId) =
      quote :: (title ++ quote ::
        (js " id:" ++ quote :: (sectionId ++ [quote]))) := by
    rw [between, trim_between_quotes, ← between, withId_eq]
  rw [parseSectionMagicArgs, trimmed, quotedArg?_title isTitle, withId_eq,
    search_quotedArg?_quote (by decide) (by decide),
    search_quotedArg?_quote (by decide) (by decide),
    search_id_inTitle isTitle isId, search_title_inTitle isTitle isId]
  by_cases endsInTitle : js "title:" <:+ title
  · rw [if_pos endsInTitle, if_pos endsInTitle]
    rfl
  · rw [if_neg endsInTitle, if_neg endsInTitle]
    rfl

/-- A named title is found at the start. -/
theorem search_namedTitle (isTitle : IsTitle title) (rest : JsString) :
    search (quotedArg? (js "title:"))
      (js "title:" ++ quote :: (title ++ quote :: rest)) = some title :=
  search_quotedArg?_found (by decide) (by decide) (List.suffix_refl _)
    isTitle.nonempty isTitle.noQuote

theorem parse_named (isTitle : IsTitle title)
    (isId : IsSectionId sectionId) :
    parseSectionMagicArgs (withId (namedTitle title) sectionId) =
      ⟨some title,
        some (if js "id:" <:+ title then js " id:" else sectionId)⟩ := by
  have named : withId (namedTitle title) sectionId =
      js "title:" ++ quote :: (title ++ quote ::
        (js " id:" ++ quote :: (sectionId ++ [quote]))) := by
    rw [withId, namedTitle, List.append_assoc, ← withId, withId_eq]
  rw [parseSectionMagicArgs, named, search_namedTitle isTitle,
    search_quotedArg?_skip (by decide) (by decide) (by decide),
    search_id_inTitle isTitle isId]
  rfl

theorem parse_quotedAlone (isTitle : IsTitle title) :
    parseSectionMagicArgs (quotedTitle title) = ⟨some title, none⟩ := by
  have alone (name : JsString) (unnamed : quote ∉ name) (named : name ≠ []) :
      search (quotedArg? name) (quote :: (title ++ [quote])) = none := by
    rw [search_quotedArg?_quote unnamed named]
    apply search_quotedArg?_alone
    rw [List.count_append, List.count_eq_zero.mpr isTitle.noQuote,
      List.count_singleton_self]
  have form : quotedTitle title = quote :: (title ++ [quote]) := rfl
  rw [parseSectionMagicArgs, form, alone _ (by decide) (by decide),
    alone _ (by decide) (by decide), trim_between_quotes,
    quotedArg?_title isTitle]
  rfl

theorem parse_namedAlone (isTitle : IsTitle title) :
    parseSectionMagicArgs (namedTitle title) = ⟨some title, none⟩ := by
  have form : namedTitle title =
      js "title:" ++ quote :: (title ++ quote :: []) := rfl
  have noId : search (quotedArg? (js "id:"))
      (js "title:" ++ quote :: (title ++ quote :: [])) = none := by
    rw [search_quotedArg?_skip (by decide) (by decide) (by decide)]
    apply search_quotedArg?_alone
    rw [List.count_append, List.count_eq_zero.mpr isTitle.noQuote,
      List.count_singleton_self]
  rw [parseSectionMagicArgs, form, noId, search_namedTitle isTitle]
  rfl

/-- A title without white space and quotes is the first word. -/
theorem plainTitle_eq (isTitle : IsTitle title) (solid : IsSolid title)
    (notId : ¬ js "id:" <+: title) {rest : JsString}
    (stops : ∀ stop ∈ rest.head?, isWhiteSpace stop = true) :
    ((quotedArg? [] (title ++ rest)).orElse fun _ =>
      (leadingWord? (title ++ rest)).filter fun word =>
        !(js "id:").isPrefixOf word) = some title := by
  have notQuoted : quotedArg? [] (title ++ rest) = none := by
    rw [Option.eq_none_iff_forall_ne_some]
    intro found matched
    obtain ⟨_, _, others, textEq⟩ := quotedArg?_eq_some_iff.mp matched
    obtain ⟨first, title', rfl⟩ :=
      List.exists_cons_of_ne_nil isTitle.nonempty
    injection textEq with firstEq _
    apply isTitle.noQuote
    rw [firstEq]
    exact List.mem_cons_self
  have passes : (!(js "id:").isPrefixOf title) = true := by
    rw [Bool.not_eq_true', ← Bool.not_eq_true, List.isPrefixOf_iff_prefix]
    exact notId
  rw [notQuoted, Option.orElse_none,
    solid.leadingWord? isTitle.nonempty stops, Option.filter_some,
    if_pos passes]

theorem parse_plain (isTitle : IsTitle title) (isId : IsSectionId sectionId)
    (solid : IsSolid title) (notId : ¬ js "id:" <+: title) :
    parseSectionMagicArgs (withId title sectionId) =
      ⟨some title, some sectionId⟩ := by
  have form : withId title sectionId =
      (title ++ js " id:") ++ quote :: (sectionId ++ quote :: []) := by
    rw [withId, List.append_assoc]
  have noQuote : quote ∉ title ++ js " id:" := by
    intro member
    rcases List.mem_append.mp member with inTitle | inName
    · exact isTitle.noQuote inTitle
    · revert inName
      decide
  have endsInId : js "id:" <:+ title ++ js " id:" :=
    (show js "id:" <:+ js " id:" by decide).trans (List.suffix_append _ _)
  have notTitle : ¬ js "title:" <:+ title ++ js " id:" := by
    intro endsInTitle
    have shorter := List.suffix_of_suffix_length_le
      (show js "id:" <:+ js " id:" by decide |>.trans
        (List.suffix_append title _)) endsInTitle (by decide)
    revert shorter
    decide
  have noTitle : search (quotedArg? (js "title:")) (withId title sectionId) =
      none := by
    rw [form, search_quotedArg?_skip (by decide) noQuote notTitle]
    apply search_quotedArg?_alone
    rw [List.count_append, List.count_eq_zero.mpr isId.unquoted.noQuote,
      List.count_singleton_self]
  have trimmed : trim (withId title sectionId) = withId title sectionId := by
    apply trimBy_of_bare
    constructor
    · rw [withId, List.head?_append_of_ne_nil _ isTitle.nonempty]
      exact solid.bare.head
    · rw [form, ← List.cons_append, ← List.append_assoc,
        List.getLast?_concat]
      intro last isLast
      cases isLast
      decide
  have foundId : search (quotedArg? (js "id:")) (withId title sectionId) =
      some sectionId := by
    rw [form, search_quotedArg?_found (by decide) noQuote endsInId
      isId.nonempty isId.unquoted.noQuote]
  have stops : ∀ stop ∈ (js " id:" ++ quote :: (sectionId ++ [quote])).head?,
      isWhiteSpace stop = true := by
    intro stop isHead
    rw [← Option.some.inj isHead]
    decide
  have foundTitle := plainTitle_eq isTitle solid notId stops
  rw [← withId] at foundTitle
  rw [parseSectionMagicArgs, trimmed, noTitle, Option.orElse_none, foundTitle,
    foundId]

theorem parse_plainAlone (isTitle : IsTitle title) (solid : IsSolid title)
    (notId : ¬ js "id:" <+: title) :
    parseSectionMagicArgs title = ⟨some title, none⟩ := by
  have alone (name : JsString) : search (quotedArg? name) title = none := by
    apply search_quotedArg?_alone
    rw [List.count_eq_zero.mpr isTitle.noQuote]
    omega
  have trimmed : trim title = title := trimBy_of_bare solid.bare
  have first := @plainTitle_eq title isTitle solid notId []
    (fun _ isHead => by cases isHead)
  rw [List.append_nil] at first
  rw [parseSectionMagicArgs, alone, alone, trimmed, Option.orElse_none, first]

/-- Every form gives back what it holds if and only if the title ends in no
name of an argument. -/
theorem recoversSection_iff (isTitle : IsTitle title)
    (isId : IsSectionId sectionId) :
    RecoversSection title sectionId ↔
      ¬ js "id:" <:+ title ∧ ¬ js "title:" <:+ title := by
  constructor
  · intro recovers
    have quoted := recovers.quoted
    rw [parse_quoted isTitle isId] at quoted
    injection quoted with titleEq idEq
    constructor
    · intro endsInId
      rw [if_pos endsInId] at idEq
      injection idEq with idEq
      have noBlank : unit ' ' ∉ sectionId :=
        isId.unquoted.solid.notMem (by decide)
      rw [← idEq] at noBlank
      exact noBlank (by decide)
    · intro endsInTitle
      rw [if_pos endsInTitle] at titleEq
      injection titleEq with titleEq
      rw [← titleEq] at endsInTitle
      revert endsInTitle
      decide
  · rintro ⟨notId, notTitle⟩
    refine ⟨?_, ?_, parse_plain isTitle isId, parse_quotedAlone isTitle,
      parse_namedAlone isTitle, parse_plainAlone isTitle⟩
    · rw [parse_quoted isTitle isId, if_neg notTitle, if_neg notId]
    · rw [parse_named isTitle isId, if_neg notId]

theorem isSectionId_tests : IsSectionId (js "sec_tests") where
  nonempty := by decide
  unquoted :=
    { solid := by
        have noneHolds : (js "sec_tests").all (fun codeUnit =>
            decide (isWhiteSpace codeUnit = false)) = true := by decide
        intro codeUnit member
        exact of_decide_eq_true (List.all_eq_true.mp noneHolds codeUnit member)
      noQuote := by decide }

/-- A title that begins with the name of an argument. -/
theorem multiWord_recovered :
    RecoversSection (js "title: id: of a section") (js "sec_tests") :=
  (recoversSection_iff ⟨by decide, by decide⟩ isSectionId_tests).mpr
    ⟨by decide, by decide⟩

/-- A title that ends in `id:` gives the section another id. -/
theorem endsInId_notRecovered : ¬ ∀ title sectionId,
    IsTitle title → IsSectionId sectionId → RecoversSection title sectionId := by
  intro recoversAll
  have recovers := recoversAll (js "foo id:") (js "sec_tests")
    ⟨by decide, by decide⟩ isSectionId_tests
  have parsed := congrArg SectionArgs.sectionId recovers.quoted
  revert parsed
  decide +kernel

end

end RtsNotebook.Notebook.SectionCell
