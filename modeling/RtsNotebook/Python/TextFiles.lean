import RtsNotebook.Js.TextDecoder
import RtsNotebook.Library.Lines
import RtsNotebook.Python.Lines

/-!
# Text files in Python

`Path.read_text` and `Path.write_text` with the encoding UTF-8.  In text mode
every line end is read as a newline, and a newline is written as the line end
of the platform.  A text whose lines are split off, joined by newlines and
written is read back as the same lines.
-/

namespace RtsNotebook.Python

open RtsNotebook.Library RtsNotebook.Js

/-- The two line ends that `os.linesep` can be. -/
inductive LineEnd where
  | newline
  | returnNewline
  deriving DecidableEq, Repr

/-- `os.linesep` -/
def LineEnd.linesep : LineEnd → PyString
  | .newline => [0x0A]
  | .returnNewline => [0x0D, 0x0A]

/-- What reading in text mode makes of the line ends of a file. -/
def readNewlines (text : PyString) : PyString :=
  (foldReturns 0x0D 0x0A text).map fun codePoint =>
    if codePoint = 0x0D then 0x0A else codePoint

/-- What writing in text mode makes of the newlines of a text. -/
def writeNewlines (lineEnd : LineEnd) (text : PyString) : PyString :=
  text.flatMap fun codePoint =>
    if codePoint = 0x0A then lineEnd.linesep else [codePoint]

/-- `path.read_text(encoding="utf-8")` of a file with some octets; `none` is
the exception where they are malformed. -/
def readText? (content : List UInt8) : Option PyString :=
  (decodeUtf8? content).map fun characters =>
    readNewlines (characters.map Char.toNat)

/-- `path.read_text(encoding="utf-8", errors="replace")` -/
def readTextReplacing (content : List UInt8) : PyString :=
  readNewlines ((decodeScalars content).map Char.toNat)

/-- The octets that `path.write_text(text, encoding="utf-8")` writes; `none` is
the exception where the text holds a surrogate. -/
def encodeText? (lineEnd : LineEnd) (text : PyString) :
    Option (List UInt8) :=
  if ∀ codePoint ∈ text, codePoint.isValidChar then
    some (utf8 ((writeNewlines lineEnd text).map Char.ofNat))
  else
    none

/-- `text.rstrip(mark)` for one character. -/
def rstripChar (mark : Nat) (text : PyString) : PyString :=
  text.rdropWhile (· = mark)

/-! ### Line ends -/

theorem newline_ne_return {holds : Prop} : ¬ (0x0A = 0x0D ∧ holds) :=
  fun isReturn => absurd isReturn.1 (by decide)

theorem foldReturns_writeNewlines (lineEnd : LineEnd) {text : PyString}
    (noReturn : 0x0D ∉ text) :
    foldReturns 0x0D 0x0A (writeNewlines lineEnd text) = text := by
  induction text with
  | nil =>
      rfl
  | cons codePoint rest inductionHypothesis =>
      rw [List.mem_cons, not_or] at noReturn
      have later := inductionHypothesis noReturn.2
      rw [writeNewlines, List.flatMap_cons]
      by_cases isNewline : codePoint = 0x0A
      · subst isNewline
        cases lineEnd with
        | newline =>
            simp only [if_pos, LineEnd.linesep, List.singleton_append]
            rw [foldReturns, if_neg newline_ne_return]
            exact congrArg _ later
        | returnNewline =>
            simp only [if_pos, LineEnd.linesep, List.cons_append,
              List.nil_append]
            rw [foldReturns, if_pos ⟨rfl, rfl⟩, foldReturns,
              if_neg newline_ne_return]
            exact congrArg _ later
      · rw [if_neg isNewline, List.singleton_append, foldReturns,
          if_neg fun isReturn => noReturn.1 isReturn.1.symm]
        exact congrArg _ later

/-- A text without returns is read as it was written. -/
theorem readNewlines_writeNewlines (lineEnd : LineEnd) {text : PyString}
    (noReturn : 0x0D ∉ text) :
    readNewlines (writeNewlines lineEnd text) = text := by
  rw [readNewlines, foldReturns_writeNewlines lineEnd noReturn]
  refine (List.map_congr_left fun codePoint member => ?_).trans
    (List.map_id text)
  refine if_neg ?_
  rintro rfl
  exact noReturn member

theorem valid_of_mem_writeNewlines {lineEnd : LineEnd} {text : PyString}
    (valid : ∀ codePoint ∈ text, codePoint.isValidChar) {written : Nat}
    (member : written ∈ writeNewlines lineEnd text) :
    written.isValidChar := by
  obtain ⟨codePoint, isPart, isWritten⟩ := List.mem_flatMap.mp member
  split at isWritten
  · cases lineEnd with
    | newline =>
        simp only [LineEnd.linesep, List.mem_singleton] at isWritten
        subst isWritten
        decide
    | returnNewline =>
        simp only [LineEnd.linesep, List.mem_cons, List.not_mem_nil,
          or_false] at isWritten
        rcases isWritten with rfl | rfl <;> decide
  · rw [List.mem_singleton.mp isWritten]
    exact valid codePoint isPart

theorem map_toNat_ofNat {text : PyString}
    (valid : ∀ codePoint ∈ text, codePoint.isValidChar) :
    (text.map Char.ofNat).map Char.toNat = text := by
  rw [List.map_map]
  refine (List.map_congr_left fun codePoint member => ?_).trans
    (List.map_id text)
  exact Encodes.toNat_ofNat (valid codePoint member)

/-- A text that can be encoded is read as it was written, whether malformed
octets are replaced or not. -/
theorem exists_encoded (lineEnd : LineEnd) {text : PyString}
    (valid : ∀ codePoint ∈ text, codePoint.isValidChar)
    (noReturn : 0x0D ∉ text) :
    ∃ content, encodeText? lineEnd text = some content ∧
      readText? content = some text ∧ readTextReplacing content = text := by
  have characters :
      readNewlines
          (((writeNewlines lineEnd text).map Char.ofNat).map Char.toNat) =
        text := by
    rw [map_toNat_ofNat fun written => valid_of_mem_writeNewlines valid,
      readNewlines_writeNewlines lineEnd noReturn]
  refine ⟨_, if_pos valid, ?_, ?_⟩
  · rw [readText?, decodeUtf8?_utf8, Option.map_some, characters]
  · rw [readTextReplacing, decodeScalars_utf8, characters]

theorem valid_of_readText? {content : List UInt8} {text : PyString}
    (isText : readText? content = some text) :
    ∀ codePoint ∈ text, codePoint.isValidChar := by
  obtain ⟨characters, -, rfl⟩ := Option.map_eq_some_iff.mp isText
  intro codePoint member
  obtain ⟨old, isOld, rfl⟩ := List.mem_map.mp member
  split
  · decide
  · obtain ⟨character, -, rfl⟩ :=
      List.mem_map.mp ((foldReturns_sublist _ _ _).mem isOld)
    exact character.valid

/-! ### Lines -/

theorem noBreak_of_mem_splitLinesFrom {begun text : PyString}
    (begunOk : ∀ codePoint ∈ begun, isLineBreak codePoint = false) :
    ∀ line ∈ splitLinesFrom begun text, ∀ codePoint ∈ line,
      isLineBreak codePoint = false := by
  have reversed : ∀ codePoint ∈ begun.reverse,
      isLineBreak codePoint = false := fun codePoint member =>
    begunOk codePoint (List.mem_reverse.mp member)
  fun_induction splitLinesFrom begun text with
  | case1 =>
      simp
  | case2 begun nonempty =>
      simpa using begunOk
  | case3 begun rest inductionHypothesis =>
      rw [List.forall_mem_cons]
      exact ⟨reversed, inductionHypothesis (by simp) (by simp)⟩
  | case4 begun codePoint rest notReturn breaks inductionHypothesis =>
      rw [List.forall_mem_cons]
      exact ⟨reversed, inductionHypothesis (by simp) (by simp)⟩
  | case5 begun codePoint rest notReturn noBreak inductionHypothesis =>
      have longer : ∀ other ∈ codePoint :: begun,
          isLineBreak other = false := by
        rw [List.forall_mem_cons]
        exact ⟨by simpa using noBreak, begunOk⟩
      exact inductionHypothesis longer fun other member =>
        longer other (List.mem_reverse.mp member)

/-- No line that is split off holds a line break. -/
theorem noBreak_of_mem_splitLines {text line : PyString}
    (isLine : line ∈ splitLines text) :
    ∀ codePoint ∈ line, isLineBreak codePoint = false :=
  noBreak_of_mem_splitLinesFrom (by simp) line isLine

theorem mem_of_mem_splitLinesFrom (begun text : PyString) :
    ∀ line ∈ splitLinesFrom begun text, ∀ codePoint ∈ line,
      codePoint ∈ begun ∨ codePoint ∈ text := by
  fun_induction splitLinesFrom begun text with
  | case1 =>
      simp
  | case2 begun nonempty =>
      simp
  | case3 begun rest inductionHypothesis =>
      rw [List.forall_mem_cons]
      refine ⟨fun codePoint member => ?_, fun line isLine other member => ?_⟩
      · exact Or.inl (List.mem_reverse.mp member)
      · have later :=
          (inductionHypothesis line isLine other member).resolve_left
            List.not_mem_nil
        exact Or.inr (List.mem_cons_of_mem _ (List.mem_cons_of_mem _ later))
  | case4 begun codePoint rest notReturn breaks inductionHypothesis =>
      rw [List.forall_mem_cons]
      refine ⟨fun codePoint member => ?_, fun line isLine other member => ?_⟩
      · exact Or.inl (List.mem_reverse.mp member)
      · have later :=
          (inductionHypothesis line isLine other member).resolve_left
            List.not_mem_nil
        exact Or.inr (List.mem_cons_of_mem _ later)
  | case5 begun codePoint rest notReturn noBreak inductionHypothesis =>
      intro line isLine other member
      have found := inductionHypothesis line isLine other member
      simp only [List.mem_cons] at found ⊢
      tauto

/-- The lines of a text hold nothing that the text does not hold. -/
theorem mem_of_mem_splitLines {text line : PyString}
    (isLine : line ∈ splitLines text) {codePoint : Nat}
    (member : codePoint ∈ line) : codePoint ∈ text :=
  (mem_of_mem_splitLinesFrom [] text line isLine codePoint member).resolve_left
    List.not_mem_nil

/-- Lines without breaks that are ended by newlines are split off again. -/
theorem splitLines_terminated {lines : List PyString}
    (noBreak : ∀ line ∈ lines, ∀ codePoint ∈ line,
      isLineBreak codePoint = false) :
    splitLines (terminated 0x0A lines) = lines := by
  induction lines with
  | nil =>
      rfl
  | cons line rest inductionHypothesis =>
      rw [List.forall_mem_cons] at noBreak
      have continues : ∀ codePoint ∈ line,
          (!isLineBreak codePoint) = true := by
        simpa using noBreak.1
      rw [terminated_cons, splitLines,
        splitLinesFrom_eq [] _ (Or.inr (by simp)),
        takeWhile_append_newline (by decide),
        List.takeWhile_eq_self_iff.mpr continues, afterBreak,
        dropWhile_append_of_holds continues,
        List.dropWhile_cons_of_neg (by decide)]
      simp only [List.reverse_nil, List.nil_append]
      rw [if_neg newline_ne_return, inductionHypothesis noBreak.2]

theorem joinLines_append_newline {lines : List PyString}
    (nonempty : lines ≠ []) :
    joinLines lines ++ [0x0A] = terminated 0x0A lines := by
  induction lines with
  | nil =>
      exact absurd rfl nonempty
  | cons line rest inductionHypothesis =>
      by_cases last : rest = []
      · subst last
        simp [joinLines, terminated]
      · rw [joinLines_cons line last, terminated_cons, List.append_assoc,
          List.cons_append, inductionHypothesis last]

theorem terminated_append (first second : List PyString) :
    terminated 0x0A (first ++ second) =
      terminated 0x0A first ++ terminated 0x0A second :=
  List.flatMap_append

theorem terminated_blank {lines : List PyString}
    (blank : ∀ line ∈ lines, line = []) :
    terminated 0x0A lines = List.replicate lines.length 0x0A := by
  induction lines with
  | nil =>
      rfl
  | cons line rest inductionHypothesis =>
      rw [List.forall_mem_cons] at blank
      rw [terminated_cons, inductionHypothesis blank.2, blank.1]
      rfl

theorem joinLines_of_last (initial : List PyString) (last : PyString)
    {blanks : List PyString} (blank : ∀ line ∈ blanks, line = []) :
    joinLines (initial ++ last :: blanks) =
      (terminated 0x0A initial ++ last) ++
        List.replicate blanks.length 0x0A := by
  refine (List.append_left_inj [0x0A]).mp ?_
  rw [joinLines_append_newline (by simp), terminated_append, terminated_cons,
    terminated_blank blank, List.append_assoc, List.append_assoc,
    ← List.replicate_succ', List.replicate_succ]

theorem rstrip_of_last (initial : List PyString) {last : PyString}
    (hasText : last ≠ []) (noNewline : 0x0A ∉ last)
    {blanks : List PyString} (blank : ∀ line ∈ blanks, line = []) :
    rstripChar 0x0A (joinLines (initial ++ last :: blanks)) =
      terminated 0x0A initial ++ last := by
  rw [joinLines_of_last initial last blank, rstripChar,
    rdropWhile_append_of_holds (by simp)]
  apply rdropWhile_eq_self
  intro codePoint isLast
  rw [List.getLast?_append_of_ne_nil _ hasText] at isLast
  have member := List.mem_of_getLast? isLast
  have different : codePoint ≠ 0x0A := by
    rintro rfl
    exact noNewline member
  simpa using different

/-- `"\n".join(lines).rstrip("\n") + "\n"` ends every line with a newline,
but for the empty lines at the end. -/
theorem rstrip_joinLines {lines : List PyString}
    (noNewline : ∀ line ∈ lines, 0x0A ∉ line)
    (someText : ∃ line ∈ lines, line ≠ []) :
    rstripChar 0x0A (joinLines lines) ++ [0x0A] =
      terminated 0x0A (lines.rdropWhile (· = [])) := by
  have kept : lines.rdropWhile (· = []) ≠ [] := by
    obtain ⟨line, isLine, hasText⟩ := someText
    intro allBlank
    rw [List.rdropWhile_eq_nil_iff] at allBlank
    exact hasText (by simpa using allBlank line isLine)
  have hasText : (lines.rdropWhile (· = [])).getLast kept ≠ [] := by
    simpa using List.rdropWhile_last_not (· = []) lines kept
  have isLine : (lines.rdropWhile (· = [])).getLast kept ∈ lines :=
    (List.rdropWhile_prefix (· = []) lines).mem (List.getLast_mem kept)
  have blank : ∀ line ∈ lines.rtakeWhile (· = []), line = [] := by
    intro line member
    simpa using List.mem_rtakeWhile_imp member
  have parts := List.dropLast_append_getLast kept
  have whole : lines = (lines.rdropWhile (· = [])).dropLast ++
      (lines.rdropWhile (· = [])).getLast kept ::
        lines.rtakeWhile (· = []) := by
    rw [← List.singleton_append, ← List.append_assoc, parts,
      List.rdropWhile_append_rtakeWhile]
  have stripped :=
    rstrip_of_last (lines.rdropWhile (· = [])).dropLast hasText
      (noNewline _ isLine) blank
  rw [← whole] at stripped
  calc
    rstripChar 0x0A (joinLines lines) ++ [0x0A] =
        terminated 0x0A ((lines.rdropWhile (· = [])).dropLast ++
          [(lines.rdropWhile (· = [])).getLast kept]) := by
      rw [stripped, terminated_append, terminated_cons, List.append_assoc]
      rfl
    _ = terminated 0x0A (lines.rdropWhile (· = [])) := by
      rw [parts]

/-! ### Lines that are written and read back -/

/-- What a line of a text file can be: characters without a line break. -/
def IsLine (line : PyString) : Prop :=
  ∀ codePoint ∈ line, codePoint.isValidChar ∧ isLineBreak codePoint = false

theorem IsLine.not_mem {line : PyString} (isLine : IsLine line)
    {codePoint : Nat} (breaks : isLineBreak codePoint = true) :
    codePoint ∉ line := by
  intro member
  rw [(isLine codePoint member).2] at breaks
  cases breaks

theorem isLine_of_readText? {content : List UInt8} {text : PyString}
    (isText : readText? content = some text) :
    ∀ line ∈ splitLines text, IsLine line :=
  fun _ isLine codePoint member =>
    ⟨valid_of_readText? isText codePoint (mem_of_mem_splitLines isLine member),
      noBreak_of_mem_splitLines isLine codePoint member⟩

/-- Lines that are joined, stripped of the newlines at their end and written
are read back without the empty lines at their end. -/
theorem exists_writtenLines (lineEnd : LineEnd) {lines : List PyString}
    (each : ∀ line ∈ lines, IsLine line)
    (someText : ∃ line ∈ lines, line ≠ []) :
    ∃ content,
      encodeText? lineEnd (rstripChar 0x0A (joinLines lines) ++ [0x0A]) =
          some content ∧
        (readText? content).map splitLines =
          some (lines.rdropWhile (· = [])) ∧
        splitLines (readTextReplacing content) =
          lines.rdropWhile (· = []) := by
  have keptEach : ∀ line ∈ lines.rdropWhile (· = []), IsLine line :=
    fun line isKept => each line ((List.rdropWhile_prefix _ _).mem isKept)
  rw [rstrip_joinLines
    (fun line isLine => (each line isLine).not_mem (by decide)) someText]
  generalize lines.rdropWhile (· = []) = kept at keptEach
  have valid : ∀ codePoint ∈ terminated 0x0A kept, codePoint.isValidChar :=
    forall_mem_terminated (by decide) fun line isLine codePoint member =>
      (keptEach line isLine codePoint member).1
  have noReturn : ∀ codePoint ∈ terminated 0x0A kept, codePoint ≠ 0x0D := by
    refine forall_mem_terminated (by decide) ?_
    rintro line isLine codePoint member rfl
    exact (keptEach line isLine).not_mem (by decide) member
  have split : splitLines (terminated 0x0A kept) = kept :=
    splitLines_terminated fun line isLine codePoint member =>
      (keptEach line isLine codePoint member).2
  obtain ⟨content, encoded, isText, replacing⟩ :=
    exists_encoded lineEnd valid fun member => noReturn _ member rfl
  refine ⟨content, encoded, ?_, ?_⟩
  · rw [isText, Option.map_some, split]
  · rw [replacing, split]

end RtsNotebook.Python
