import RtsNotebook.Library.Trimming
import RtsNotebook.Python.TextFiles

/-!
# `llmnb auth init`

`_do_init` writes a fresh token into an `.env` file, and
`_read_token_from_env_file` reads it for `auth verify`.  The writer takes a line
as an assignment where it begins with the name and an equals sign; the reader
strips the line first and takes the first assignment that it finds.

A file is its octets, `none` where it does not exist.  Whether git tracks the
file and the token that `secrets` generates are arguments; the warning about a
file that is not ignored changes nothing and is left out.
-/

namespace RtsNotebook.LlmClient.Auth

open RtsNotebook.Library RtsNotebook.Python

/-- How a call ends: with an exit code, or with an exception. -/
inductive Ending where
  | exit (code : Nat)
  | raised
  deriving DecidableEq, Repr

/-- `f"{name}={token}"` -/
def assignment (name token : PyString) : PyString :=
  name ++ py "=" ++ token

/-- `line.startswith(f"{name}=")` -/
def startsAssignment (name line : PyString) : Bool :=
  (name ++ py "=").isPrefixOf line

/-- `existing_lines`; `none` is the exception of a file that is no UTF-8. -/
def existingLines? : Option (List UInt8) → Option (List PyString)
  | none => some []
  | some content => (readText? content).map splitLines

/-- The loop over the existing lines, with `new_lines` and `matched`; `none` is
the return where the name is set and must not be overwritten. -/
def newLines? (name token : PyString) (force : Bool) :
    List PyString → Option (List PyString × Bool)
  | [] => some ([], false)
  | line :: rest =>
      if startsAssignment name line then
        if !force then
          none
        else
          (newLines? name token force rest).map fun (newLines, _) =>
            (assignment name token :: newLines, true)
      else
        (newLines? name token force rest).map fun (newLines, wasMatched) =>
          (line :: newLines, wasMatched)

/-- `_do_init`, with the file that it leaves. -/
def doInit (tracked force : Bool) (lineEnd : LineEnd)
    (name token : PyString) (file : Option (List UInt8)) :
    Ending × Option (List UInt8) :=
  if file.isSome && tracked then
    (.exit 2, file)
  else
    match existingLines? file with
    | none => (.raised, file)
    | some existing =>
        match newLines? name token force existing with
        | none => (.exit 2, file)
        | some (newLines, wasMatched) =>
            let newLines :=
              if wasMatched then newLines
              else newLines ++ [assignment name token]
            let text := rstripChar 0x0A (joinLines newLines) ++ [0x0A]
            match encodeText? lineEnd text with
            | some content => (.exit 0, some content)
            -- The file is open for writing when the text cannot be encoded.
            | none => (.raised, some [])

/-- The body of the loop of `_read_token_from_env_file`: the value of an
assignment. -/
def readLine? (name line : PyString) : Option PyString :=
  let line := strip line
  if line = [] ∨ (py "#").isPrefixOf line = true then
    none
  else if startsAssignment name line then
    let value := (line.dropWhile (· ≠ 0x3D)).drop 1
    some (stripChar 0x27 (stripChar 0x22 (strip value)))
  else
    none

/-- `_read_token_from_env_file` -/
def readTokenFromEnvFile (file : Option (List UInt8)) (name : PyString) :
    Option PyString :=
  file.bind fun content =>
    (splitLines (readTextReplacing content)).findSome? (readLine? name)

/-! ### Names and tokens -/

/-- What an identifier is, as far as it matters here. -/
structure IsName (name : PyString) : Prop where
  nonempty : name ≠ []
  valid : ∀ codePoint ∈ name, codePoint.isValidChar
  noSpace : ∀ codePoint ∈ name, isSpace codePoint = false
  noEquals : 0x3D ∉ name
  noComment : name.head? ≠ some 0x23

/-- The characters of URL-safe base64. -/
def isTokenCharacter (codePoint : Nat) : Bool :=
  (0x41 ≤ codePoint && codePoint ≤ 0x5A) ||
    (0x61 ≤ codePoint && codePoint ≤ 0x7A) ||
    (0x30 ≤ codePoint && codePoint ≤ 0x39) ||
    codePoint = 0x2D || codePoint = 0x5F

/-- What `secrets.token_urlsafe` generates. -/
structure IsToken (token : PyString) : Prop where
  nonempty : token ≠ []
  characters : ∀ codePoint ∈ token, isTokenCharacter codePoint = true

theorem isTokenCharacter_bounds {codePoint : Nat}
    (character : isTokenCharacter codePoint = true) :
    0x2D ≤ codePoint ∧ codePoint ≤ 0x7A := by
  simp only [isTokenCharacter, Bool.or_eq_true, Bool.and_eq_true,
    decide_eq_true_eq] at character
  omega

theorem not_space_of_isTokenCharacter {codePoint : Nat}
    (character : isTokenCharacter codePoint = true) :
    isSpace codePoint = false := by
  have bounds := isTokenCharacter_bounds character
  rw [isSpace, decide_eq_false_iff_not]
  simp only [List.mem_cons, List.not_mem_nil, or_false]
  omega

/-- Nothing is stripped off a list none of whose items is to be stripped. -/
theorem trimBy_eq_self {holds : Nat → Bool} {text : PyString}
    (none_holds : ∀ codePoint ∈ text, holds codePoint = false) :
    trimBy holds text = text :=
  trimBy_of_bare
    { head := fun codePoint isHead =>
        none_holds codePoint (List.mem_of_head? isHead)
      last := fun codePoint isLast =>
        none_holds codePoint (List.mem_of_getLast? isLast) }

theorem IsToken.strip {token : PyString} (isToken : IsToken token) :
    Python.strip token = token :=
  trimBy_eq_self fun codePoint member =>
    not_space_of_isTokenCharacter (isToken.characters codePoint member)

theorem IsToken.stripChar {token : PyString} (isToken : IsToken token)
    {mark : Nat} (notCharacter : mark < 0x2D) :
    Python.stripChar mark token = token := by
  apply trimBy_eq_self
  intro codePoint member
  have bounds :=
    isTokenCharacter_bounds (isToken.characters codePoint member)
  rw [decide_eq_false_iff_not]
  omega

/-! ### One line -/

section

variable {name token : PyString}

/-- A name with an equals sign has no white space at its ends. -/
theorem IsName.bare (isName : IsName name) :
    Bare isSpace (name ++ py "=") where
  head := by
    intro codePoint isHead
    rw [List.head?_append_of_ne_nil _ isName.nonempty] at isHead
    exact isName.noSpace codePoint (List.mem_of_head? isHead)
  last := by
    intro codePoint isLast
    rw [List.getLast?_append_of_ne_nil _ (by decide)] at isLast
    cases isLast
    decide

theorem IsName.not_comment (isName : IsName name) (rest : PyString) :
    (py "#").isPrefixOf (name ++ rest) = false := by
  have noComment := isName.noComment
  have hash : py "#" = [0x23] := rfl
  obtain ⟨first, others, rfl⟩ := List.exists_cons_of_ne_nil isName.nonempty
  have different : first ≠ 0x23 := by
    simpa using noComment
  rw [hash, List.cons_append, List.isPrefixOf, Bool.and_eq_false_iff]
  exact Or.inl (beq_false_of_ne different.symm)

/-- What follows the first equals sign of an assignment. -/
theorem IsName.value_eq (isName : IsName name) (value : PyString) :
    ((assignment name value).dropWhile (· ≠ 0x3D)).drop 1 = value := by
  have equals : py "=" = [0x3D] := rfl
  have inName : ∀ codePoint ∈ name, decide (codePoint ≠ 0x3D) = true := by
    intro codePoint member
    rw [decide_eq_true_eq]
    rintro rfl
    exact isName.noEquals member
  rw [assignment, equals, List.append_assoc,
    dropWhile_append_of_holds inName, List.singleton_append,
    List.dropWhile_cons_of_neg (by simp), List.drop_one, List.tail_cons]

theorem startsAssignment_iff (name line : PyString) :
    startsAssignment name line = true ↔
      ∃ value, line = assignment name value := by
  rw [startsAssignment, List.isPrefixOf_iff_prefix]
  constructor
  · rintro ⟨value, rfl⟩
    exact ⟨value, rfl⟩
  · rintro ⟨value, rfl⟩
    exact ⟨value, rfl⟩

/-- The value of a line that is an assignment once it is stripped. -/
theorem readLine?_of_strip (isName : IsName name) {line value : PyString}
    (stripped : strip line = assignment name value) :
    readLine? name line =
      some (stripChar 0x27 (stripChar 0x22 (strip value))) := by
  have notComment :
      (py "#").isPrefixOf (assignment name value) = false := by
    rw [assignment, List.append_assoc]
    exact isName.not_comment _
  have nonempty : assignment name value ≠ [] := by
    simp [assignment, isName.nonempty]
  have starts :
      startsAssignment name (assignment name value) = true :=
    (startsAssignment_iff _ _).mpr ⟨value, rfl⟩
  rw [readLine?, stripped]
  simp only [nonempty, notComment, starts, Bool.false_eq_true, or_self,
    if_false, if_true, isName.value_eq]

theorem strip_assignment (isName : IsName name) (value : PyString) :
    strip (assignment name value) =
      assignment name (value.rdropWhile isSpace) :=
  trimBy_append_of_bare isName.bare (by simp [isName.nonempty]) value

/-- The reader takes every line that the writer takes as an assignment. -/
theorem readLine?_of_startsAssignment (isName : IsName name)
    {line : PyString} (starts : startsAssignment name line = true) :
    (readLine? name line).isSome = true := by
  obtain ⟨value, rfl⟩ := (startsAssignment_iff name line).mp starts
  rw [readLine?_of_strip isName (strip_assignment isName value),
    Option.isSome_some]

/-- The reader reads the token off the line that the writer writes. -/
theorem readLine?_assignment (isName : IsName name)
    (isToken : IsToken token) :
    readLine? name (assignment name token) = some token := by
  have noSpace : token.rdropWhile isSpace = token := by
    apply rdropWhile_eq_self
    intro codePoint isLast
    exact not_space_of_isTokenCharacter
      (isToken.characters codePoint (List.mem_of_getLast? isLast))
  have stripped := strip_assignment isName token
  rw [noSpace] at stripped
  rw [readLine?_of_strip isName stripped, isToken.strip,
    isToken.stripChar (by decide), isToken.stripChar (by decide)]

theorem readLine?_nil (name : PyString) : readLine? name [] = none := rfl

end

end RtsNotebook.LlmClient.Auth
