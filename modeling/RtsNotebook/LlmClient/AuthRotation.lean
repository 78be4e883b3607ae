import RtsNotebook.LlmClient.Auth

/-!
# A new token in an old file

What `_read_token_from_env_file` reads after `_do_init` has gone through.  The
writer replaces the lines that begin with the name and leaves the others, in
particular one where the name is indented.  The reader takes such a line too,
so the new token is read exactly where the first line that the reader takes is
one that the writer replaces, or holds the token already.
-/

namespace RtsNotebook.LlmClient.Auth

open RtsNotebook.Library RtsNotebook.Python RtsNotebook.Js

/-- What is written for an existing line. -/
def replaced (name token line : PyString) : PyString :=
  if startsAssignment name line then assignment name token else line

/-- The lines that are written. -/
def finalLines (name token : PyString) (existing : List PyString) :
    List PyString :=
  existing.map (replaced name token) ++
    if existing.any (startsAssignment name) then []
    else [assignment name token]

/-- The name may be set: it is not, or it is to be overwritten. -/
def MaySet (name : PyString) (force : Bool) (existing : List PyString) :
    Prop :=
  force = true ∨ ∀ line ∈ existing, startsAssignment name line = false

/-- A line that is neither blank nor replaced. -/
def isOther (name line : PyString) : Bool :=
  strip line ≠ [] && !startsAssignment name line

section

variable {name token : PyString} {force : Bool}

theorem replaced_of_not_starts {line : PyString}
    (other : startsAssignment name line = false) :
    replaced name token line = line := by
  rw [replaced, other, if_neg Bool.false_ne_true]

/-! ### The lines that are written -/

theorem newLines?_of_maySet {existing : List PyString}
    (maySet : MaySet name force existing) :
    newLines? name token force existing =
      some (existing.map (replaced name token),
        existing.any (startsAssignment name)) := by
  induction existing with
  | nil =>
      rfl
  | cons line rest inductionHypothesis =>
      have later : MaySet name force rest :=
        maySet.imp_right fun free other member =>
          free other (List.mem_cons_of_mem _ member)
      rw [newLines?, inductionHypothesis later, List.map_cons, List.any_cons]
      cases starts : startsAssignment name line with
      | true =>
          have forced : force = true :=
            maySet.resolve_right fun free => by
              rw [free line List.mem_cons_self] at starts
              cases starts
          rw [if_pos rfl, forced, if_neg (by decide), replaced, starts,
            if_pos rfl, Bool.true_or]
          rfl
      | false =>
          rw [if_neg Bool.false_ne_true, replaced_of_not_starts starts,
            Bool.false_or]
          rfl

theorem newLines?_of_not_maySet {existing : List PyString}
    (isSet : ¬ MaySet name force existing) :
    newLines? name token force existing = none := by
  induction existing with
  | nil =>
      exact absurd (Or.inr (by simp)) isSet
  | cons line rest inductionHypothesis =>
      rw [MaySet, not_or, Bool.not_eq_true] at isSet
      rw [newLines?]
      cases starts : startsAssignment name line with
      | true =>
          rw [if_pos rfl, isSet.1]
          rfl
      | false =>
          have later : ¬ MaySet name force rest := by
            rw [MaySet, not_or, Bool.not_eq_true]
            exact ⟨isSet.1, fun free =>
              isSet.2 (List.forall_mem_cons.mpr ⟨starts, free⟩)⟩
          rw [if_neg Bool.false_ne_true, inductionHypothesis later,
            Option.map_none]

theorem assignment_mem_finalLines (existing : List PyString) :
    assignment name token ∈ finalLines name token existing := by
  rw [finalLines, List.mem_append]
  cases starts : existing.any (startsAssignment name) with
  | true =>
      obtain ⟨line, isLine, starts⟩ := List.any_eq_true.mp starts
      apply Or.inl
      refine List.mem_map.mpr ⟨line, isLine, ?_⟩
      rw [replaced, starts, if_pos rfl]
  | false =>
      exact Or.inr List.mem_cons_self

/-- Every line that is written is an old one or the assignment. -/
theorem mem_finalLines {existing : List PyString} {line : PyString}
    (isLine : line ∈ finalLines name token existing) :
    line ∈ existing ∨ line = assignment name token := by
  rw [finalLines, List.mem_append] at isLine
  rcases isLine with isReplaced | isAdded
  · obtain ⟨old, isOld, rfl⟩ := List.mem_map.mp isReplaced
    rw [replaced]
    split
    · exact Or.inr rfl
    · exact Or.inl isOld
  · split at isAdded
    · cases isAdded
    · exact Or.inr (List.mem_singleton.mp isAdded)

theorem others_sublist_finalLines (existing : List PyString) :
    (existing.filter (isOther name)).Sublist
      (finalLines name token existing) := by
  refine List.Sublist.trans ?_ (List.sublist_append_left _ _)
  induction existing with
  | nil =>
      exact List.Sublist.refl []
  | cons line rest inductionHypothesis =>
      rw [List.map_cons, List.filter_cons]
      split
      case isTrue other =>
        rw [isOther, Bool.and_eq_true, Bool.not_eq_true'] at other
        rw [replaced_of_not_starts other.2]
        exact inductionHypothesis.cons_cons line
      case isFalse =>
        exact inductionHypothesis.cons _

/-! ### Empty lines at the end -/

theorem sublist_rdropWhile {kept lines : List PyString}
    (sublist : kept.Sublist lines) (noBlank : ∀ line ∈ kept, line ≠ []) :
    kept.Sublist (lines.rdropWhile (· = [])) := by
  rw [← List.rdropWhile_append_rtakeWhile (p := (· = [])) (l := lines),
    List.sublist_append_iff] at sublist
  obtain ⟨first, second, rfl, inLines, inBlanks⟩ := sublist
  have noSecond : second = [] := by
    apply List.eq_nil_iff_forall_not_mem.mpr
    intro line isLine
    have blank := List.mem_rtakeWhile_imp (inBlanks.mem isLine)
    exact noBlank line (List.mem_append_right _ isLine) (by simpa using blank)
  rw [noSecond, List.append_nil]
  exact inLines

theorem findSome?_rdropWhile (name : PyString) (lines : List PyString) :
    (lines.rdropWhile (· = [])).findSome? (readLine? name) =
      lines.findSome? (readLine? name) := by
  have noBlank :
      (lines.rtakeWhile (· = [])).findSome? (readLine? name) = none := by
    rw [List.findSome?_eq_none_iff]
    intro line isLine
    have blank : line = [] := by
      simpa using List.mem_rtakeWhile_imp isLine
    rw [blank, readLine?_nil]
  conv_rhs =>
    rw [← List.rdropWhile_append_rtakeWhile (p := (· = [])) (l := lines),
      List.findSome?_append, noBlank, Option.or_none]

/-! ### The first assignment -/

/-- Whether a line, once it is stripped, begins with the name. -/
def assigns (name line : PyString) : Bool :=
  startsAssignment name (strip line)

/-- A line that, once it is stripped, assigns the token, bare or in quotes. -/
def HoldsToken (name token line : PyString) : Prop :=
  ∃ value, strip line = assignment name value ∧
    stripChar 0x27 (stripChar 0x22 (strip value)) = token

theorem readLine?_eq_none_of_not_assigns {line : PyString}
    (skipped : assigns name line = false) : readLine? name line = none := by
  rw [assigns] at skipped
  simp [readLine?, skipped]

/-- The reader takes exactly the lines that assign. -/
theorem isSome_readLine? (isName : IsName name) (line : PyString) :
    (readLine? name line).isSome = assigns name line := by
  cases takes : assigns name line with
  | false =>
      rw [readLine?_eq_none_of_not_assigns takes, Option.isSome_none]
  | true =>
      obtain ⟨value, stripped⟩ := (startsAssignment_iff _ _).mp takes
      rw [readLine?_of_strip isName stripped, Option.isSome_some]

theorem readLine?_eq_some_iff (isName : IsName name) (line : PyString) :
    readLine? name line = some token ↔ HoldsToken name token line := by
  constructor
  · intro isRead
    have takes : assigns name line = true := by
      rw [← isSome_readLine? isName, isRead, Option.isSome_some]
    obtain ⟨value, stripped⟩ := (startsAssignment_iff _ _).mp takes
    rw [readLine?_of_strip isName stripped] at isRead
    exact ⟨value, stripped, Option.some.inj isRead⟩
  · rintro ⟨value, stripped, rfl⟩
    exact readLine?_of_strip isName stripped

theorem starts_eq_false (isName : IsName name) {line : PyString}
    (skipped : assigns name line = false) :
    startsAssignment name line = false := by
  rw [← Bool.not_eq_true]
  intro starts
  rw [← isSome_readLine? isName,
    readLine?_of_startsAssignment isName starts] at skipped
  cases skipped

theorem findSome?_replaced_of_skipped (isName : IsName name)
    {lines : List PyString}
    (skipped : ∀ line ∈ lines, assigns name line = false) :
    (lines.map (replaced name token)).findSome? (readLine? name) = none := by
  rw [List.findSome?_eq_none_iff]
  intro line isLine
  obtain ⟨old, isOld, rfl⟩ := List.mem_map.mp isLine
  have noValue := skipped old isOld
  rw [replaced_of_not_starts (starts_eq_false isName noValue)]
  exact readLine?_eq_none_of_not_assigns noValue

/-- The token is read off the written lines exactly where the first line that
assigns is replaced, or holds the token already. -/
theorem findSome?_finalLines_iff (isName : IsName name)
    (isToken : IsToken token) (existing : List PyString) :
    (finalLines name token existing).findSome? (readLine? name) =
        some token ↔
      ∀ line, existing.find? (assigns name) = some line →
        startsAssignment name line = true ∨ HoldsToken name token line := by
  cases first : existing.find? (assigns name) with
  | none =>
      have skipped : ∀ line ∈ existing, assigns name line = false := by
        simpa using List.find?_eq_none.mp first
      have unset : existing.any (startsAssignment name) = false := by
        rw [List.any_eq_false]
        intro line isLine
        rw [starts_eq_false isName (skipped line isLine)]
        exact Bool.false_ne_true
      refine iff_of_true ?_ nofun
      rw [finalLines, unset, if_neg Bool.false_ne_true,
        List.findSome?_append, findSome?_replaced_of_skipped isName skipped,
        Option.none_or, List.findSome?_cons, readLine?_assignment isName
        isToken]
  | some line =>
      obtain ⟨takes, before, after, rfl, skipped⟩ :=
        List.find?_eq_some_iff_append.mp first
      have skipped : ∀ line ∈ before, assigns name line = false := by
        simpa using skipped
      rw [← isSome_readLine? isName] at takes
      obtain ⟨value, isValue⟩ := Option.isSome_iff_exists.mp takes
      rw [finalLines, List.map_append, List.append_assoc,
        List.findSome?_append, findSome?_replaced_of_skipped isName skipped,
        Option.none_or, List.map_cons, List.cons_append, List.findSome?_cons]
      simp only [Option.some.injEq, forall_eq',
        ← readLine?_eq_some_iff isName]
      cases starts : startsAssignment name line with
      | true =>
          rw [replaced, starts, if_pos rfl,
            readLine?_assignment isName isToken]
          simp
      | false =>
          rw [replaced_of_not_starts starts, isValue]
          simp

/-! ### The file that is written -/

theorem IsToken.valid (isToken : IsToken token) :
    ∀ codePoint ∈ token, codePoint.isValidChar := by
  intro codePoint member
  have bounds :=
    isTokenCharacter_bounds (isToken.characters codePoint member)
  rw [Nat.isValidChar]
  omega

theorem valid_assignment (isName : IsName name) (isToken : IsToken token) :
    ∀ codePoint ∈ assignment name token, codePoint.isValidChar := by
  have equals : py "=" = [0x3D] := rfl
  rw [assignment, equals, List.forall_mem_append, List.forall_mem_append]
  exact ⟨⟨isName.valid, by simp [Nat.isValidChar]⟩, isToken.valid⟩

theorem noBreak_assignment (isName : IsName name) (isToken : IsToken token) :
    ∀ codePoint ∈ assignment name token, isLineBreak codePoint = false := by
  have equals : py "=" = [0x3D] := rfl
  have noBreak : ∀ codePoint, isSpace codePoint = false →
      isLineBreak codePoint = false := by
    intro codePoint noSpace
    rw [← Bool.not_eq_true]
    intro breaks
    rw [isSpace_of_isLineBreak breaks] at noSpace
    cases noSpace
  rw [assignment, equals, List.forall_mem_append, List.forall_mem_append]
  refine ⟨⟨fun codePoint member => ?_, by simp [isLineBreak]⟩,
    fun codePoint member => ?_⟩
  · exact noBreak codePoint (isName.noSpace codePoint member)
  · exact noBreak codePoint
      (not_space_of_isTokenCharacter (isToken.characters codePoint member))

theorem isLine_assignment (isName : IsName name) (isToken : IsToken token) :
    IsLine (assignment name token) :=
  fun codePoint member =>
    ⟨valid_assignment isName isToken codePoint member,
      noBreak_assignment isName isToken codePoint member⟩

/-- The lines of a file that exists and is read, or of none. -/
theorem isLine_of_existingLines? {file : Option (List UInt8)}
    {existing : List PyString} (isRead : existingLines? file = some existing) :
    ∀ line ∈ existing, IsLine line := by
  cases file with
  | none =>
      cases isRead
      simp
  | some content =>
      obtain ⟨text, isText, rfl⟩ := Option.map_eq_some_iff.mp isRead
      exact isLine_of_readText? isText

/-- The text that is written holds the written lines, without empty ones at
the end, and reads so. -/
theorem exists_written (isName : IsName name) (isToken : IsToken token)
    (lineEnd : LineEnd) {file : Option (List UInt8)}
    {existing : List PyString} (isRead : existingLines? file = some existing) :
    ∃ content,
      encodeText? lineEnd
          (rstripChar 0x0A (joinLines (finalLines name token existing)) ++
            [0x0A]) = some content ∧
        existingLines? (some content) =
          some ((finalLines name token existing).rdropWhile (· = [])) ∧
        splitLines (readTextReplacing content) =
          (finalLines name token existing).rdropWhile (· = []) := by
  have each : ∀ line ∈ finalLines name token existing, IsLine line := by
    intro line isWritten
    rcases mem_finalLines isWritten with isOld | rfl
    · exact isLine_of_existingLines? isRead line isOld
    · exact isLine_assignment isName isToken
  have someText : ∃ line ∈ finalLines name token existing, line ≠ [] :=
    ⟨_, assignment_mem_finalLines existing, by
      simp [assignment, isName.nonempty]⟩
  exact exists_writtenLines lineEnd each someText

end

/-! ### Initialising and reading -/

/-- Nothing keeps `_do_init` from writing: the file is not tracked and is
read, and the name may be set in it. -/
structure Accepted (tracked force : Bool) (name : PyString)
    (file : Option (List UInt8)) (existing : List PyString) : Prop where
  untracked : (file.isSome && tracked) = false
  isRead : existingLines? file = some existing
  maySet : MaySet name force existing

/-- What provisioning a token is to do: a success makes the reader return the
token and keeps the other lines in their order, and a failure leaves the file
as it was. -/
structure Provisions (tracked force : Bool) (lineEnd : LineEnd)
    (name token : PyString) (file : Option (List UInt8)) : Prop where
  reads : (doInit tracked force lineEnd name token file).1 = .exit 0 →
    readTokenFromEnvFile (doInit tracked force lineEnd name token file).2
      name = some token
  keeps : (doInit tracked force lineEnd name token file).1 = .exit 0 →
    ∀ before, existingLines? file = some before →
      ∃ after,
        existingLines? (doInit tracked force lineEnd name token file).2 =
            some after ∧
          (before.filter (isOther name)).Sublist after
  unchanged : (doInit tracked force lineEnd name token file).1 ≠ .exit 0 →
    (doInit tracked force lineEnd name token file).2 = file

/-- Where nothing keeps `_do_init` from writing, the first line that assigns
begins with the name unstripped, or holds the token already. -/
def FirstIsReplaced (tracked force : Bool) (name token : PyString)
    (file : Option (List UInt8)) : Prop :=
  ∀ existing, Accepted tracked force name file existing →
    ∀ line, existing.find? (assigns name) = some line →
      startsAssignment name line = true ∨ HoldsToken name token line

section

variable {tracked force : Bool} {lineEnd : LineEnd} {name token : PyString}
variable {file : Option (List UInt8)}

theorem doInit_of_accepted {existing : List PyString} {content : List UInt8}
    (accepted : Accepted tracked force name file existing)
    (encoded :
      encodeText? lineEnd
        (rstripChar 0x0A (joinLines (finalLines name token existing)) ++
          [0x0A]) = some content) :
    doInit tracked force lineEnd name token file =
      (.exit 0, some content) := by
  have added :
      (if existing.any (startsAssignment name) then
          existing.map (replaced name token)
        else
          existing.map (replaced name token) ++ [assignment name token]) =
        finalLines name token existing := by
    rw [finalLines]
    split
    · rw [List.append_nil]
    · rfl
  rw [doInit, accepted.untracked, if_neg Bool.false_ne_true,
    accepted.isRead]
  simp only [newLines?_of_maySet accepted.maySet, added, encoded]

theorem doInit_of_not_accepted (lineEnd : LineEnd) (token : PyString)
    (refused : ∀ existing, ¬ Accepted tracked force name file existing) :
    (doInit tracked force lineEnd name token file).1 ≠ .exit 0 ∧
      (doInit tracked force lineEnd name token file).2 = file := by
  rw [doInit]
  cases untracked : (file.isSome && tracked) with
  | true =>
      exact ⟨by simp, rfl⟩
  | false =>
      rw [if_neg Bool.false_ne_true]
      cases isRead : existingLines? file with
      | none =>
          exact ⟨by simp, rfl⟩
      | some existing =>
          have isSet : ¬ MaySet name force existing := fun maySet =>
            refused existing ⟨untracked, isRead, maySet⟩
          simp [newLines?_of_not_maySet isSet]

theorem Accepted.eq {first second : List PyString}
    (one : Accepted tracked force name file first)
    (other : Accepted tracked force name file second) : first = second :=
  Option.some.inj (one.isRead.symm.trans other.isRead)

/-- What the reader reads after a success. -/
theorem readToken_of_accepted (lineEnd : LineEnd) (isName : IsName name)
    (isToken : IsToken token) {existing : List PyString}
    (accepted : Accepted tracked force name file existing) :
    (doInit tracked force lineEnd name token file).1 = .exit 0 ∧
      readTokenFromEnvFile (doInit tracked force lineEnd name token file).2
          name =
        (finalLines name token existing).findSome? (readLine? name) := by
  obtain ⟨content, encoded, -, replacing⟩ :=
    exists_written isName isToken lineEnd accepted.isRead
  rw [doInit_of_accepted accepted encoded]
  refine ⟨rfl, ?_⟩
  rw [readTokenFromEnvFile, Option.bind_some, replacing, findSome?_rdropWhile]

/-- The lines that are kept after a success. -/
theorem others_kept_of_accepted (lineEnd : LineEnd) (isName : IsName name)
    (isToken : IsToken token) {existing : List PyString}
    (accepted : Accepted tracked force name file existing) :
    ∃ after,
      existingLines? (doInit tracked force lineEnd name token file).2 =
          some after ∧
        (existing.filter (isOther name)).Sublist after := by
  obtain ⟨content, encoded, isWritten, -⟩ :=
    exists_written isName isToken lineEnd accepted.isRead
  rw [doInit_of_accepted accepted encoded]
  refine ⟨_, isWritten, ?_⟩
  apply sublist_rdropWhile (others_sublist_finalLines existing)
  rintro line isLine rfl
  have other := (List.mem_filter.mp isLine).2
  rw [isOther, Bool.and_eq_true] at other
  exact absurd other.1 (by decide)

end

/-- A file with some text. -/
def envFile (text : String) : Option (List UInt8) :=
  some (utf8 text.toList)

theorem existingLines?_envFile (text : String) :
    existingLines? (envFile text) =
      some (splitLines (readNewlines (py text))) := by
  rw [envFile, existingLines?, readText?, decodeUtf8?_utf8]
  rfl

def exampleName : PyString := py "LLMNB_AUTH_TOKEN"

def exampleToken : PyString := py "k3Y-9_x"

theorem exampleName_isName : IsName exampleName :=
  ⟨by decide, by decide, by decide, by decide, by decide⟩

theorem exampleToken_isToken : IsToken exampleToken :=
  ⟨by decide, by decide⟩

end RtsNotebook.LlmClient.Auth
