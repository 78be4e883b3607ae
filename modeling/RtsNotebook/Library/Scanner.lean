import Mathlib.Data.List.Basic

/-!
# Scanners

A scanner reads a value off the front of a list or fails.  Two properties say
what a scanner makes of a text that goes on behind its end with a given symbol:
it may give the same value, or it may fail where it failed as well.  Both are
closed under the ways to build scanners.
-/

namespace RtsNotebook.Library

/-- Read a value and give back the rest. -/
abbrev Scanner (Symbol : Type) := StateT (List Symbol) Option

namespace Scanner

variable {Symbol Value Other : Type}

/-- The next symbol, if it is of a kind. -/
def satisfying (holds : Symbol → Bool) : Scanner Symbol Symbol
  | [] => none
  | symbol :: rest => if holds symbol then some (symbol, rest) else none

def next : Scanner Symbol Symbol :=
  satisfying fun _ => true

def expect [DecidableEq Symbol] (expected : Symbol) : Scanner Symbol Symbol :=
  satisfying fun symbol => symbol = expected

/-- The symbols of a kind, as many as there are. -/
def run (holds : Symbol → Bool) : Scanner Symbol (List Symbol) :=
  fun text => some (text.takeWhile holds, text.dropWhile holds)

/-- As many symbols of a kind as there are, and at least one. -/
def someRun (holds : Symbol → Bool) : Scanner Symbol (List Symbol) := do
  let first ← satisfying holds
  let others ← run holds
  pure (first :: others)

/-- Whether a symbol comes next, which is then read. -/
def accepts [DecidableEq Symbol] (expected : Symbol) : Scanner Symbol Bool :=
  (do
    let _ ← expect expected
    pure true) <|>
  pure false

/-- Whether a symbol comes next, which is left where it is. -/
def aheadIs [DecidableEq Symbol] (expected : Symbol) : Scanner Symbol Bool :=
  fun text => some (text.head? = some expected, text)

/-- The symbols before the next one of a kind, which is read as well. -/
def upTo [DecidableEq Symbol] (close : Symbol) : Scanner Symbol (List Symbol)
  | [] => none
  | symbol :: rest =>
      if symbol = close then
        some ([], rest)
      else
        (upTo close rest).map fun output => (symbol :: output.1, output.2)

/-- Values up to a closing symbol, which is read as well. -/
def valuesUpTo [DecidableEq Symbol] (close : Symbol)
    (scanner : Scanner Symbol Value) : Nat → Scanner Symbol (List Value)
  | 0 => do
      let _ ← expect close
      pure []
  | fuel + 1 => (do
      let _ ← expect close
      pure []) <|> (do
      let value ← scanner
      let values ← valuesUpTo close scanner fuel
      pure (value :: values))

/-- As many values as there may be up to a closing symbol. -/
def manyUpTo [DecidableEq Symbol] (close : Symbol)
    (scanner : Scanner Symbol Value) : Scanner Symbol (List Value) :=
  fun text => valuesUpTo close scanner text.length text

/-- The values of the whole text, one after the other. -/
def all (scanner : Scanner Symbol Value) :
    Nat → List Symbol → Option (List Value)
  | _, [] => some []
  | 0, _ => none
  | fuel + 1, symbol :: text =>
      (scanner (symbol :: text)).bind fun output =>
        (all scanner fuel output.2).map (output.1 :: ·)

/-! ### Texts that go on -/

/-- What is left is a part of the text. -/
def Shortens (scanner : Scanner Symbol Value) : Prop :=
  ∀ text value rest, scanner text = some (value, rest) →
    rest.length ≤ text.length

/-- Where the text goes on with a symbol, the scanner reads what it read
before. -/
structure Extends (stop : Symbol) (scanner : Scanner Symbol Value) : Prop where
  reads : ∀ text value tail rest, scanner text = some (value, tail) →
    scanner (text ++ stop :: rest) = some (value, tail ++ stop :: rest)
  shortens : Shortens scanner

/-- Where the text goes on with a symbol, the scanner reads the same or fails as
before. -/
structure StopsAt (stop : Symbol) (scanner : Scanner Symbol Value) : Prop where
  reads : ∀ text rest, scanner (text ++ stop :: rest) =
    (scanner text).map fun output => (output.1, output.2 ++ stop :: rest)
  shortens : Shortens scanner

section

variable {stop : Symbol} {scanner another : Scanner Symbol Value}
  {andThen : Value → Scanner Symbol Other} {holds : Symbol → Bool}

theorem bind_apply (text : List Symbol) :
    (scanner >>= andThen) text =
      (scanner text).bind fun output => andThen output.1 output.2 := by
  cases read : scanner text with
  | none => simp [bind, StateT.bind, read]
  | some output => simp [bind, StateT.bind, read]

theorem orElse_apply (text : List Symbol) :
    (scanner <|> another) text = (scanner text).or (another text) := by
  cases read : scanner text with
  | none => simp [HOrElse.hOrElse, OrElse.orElse, Alternative.orElse,
      StateT.orElse, read, Option.orElse]
  | some output => simp [HOrElse.hOrElse, OrElse.orElse, Alternative.orElse,
      StateT.orElse, read, Option.orElse]

/-! ### What is left -/

theorem shortens_pure (value : Value) :
    Shortens (pure value : Scanner Symbol Value) := by
  intro text read rest isRead
  cases isRead
  exact Nat.le_refl _

theorem shortens_satisfying : Shortens (satisfying holds) := by
  intro text value rest isRead
  cases text with
  | nil => cases isRead
  | cons symbol text =>
      rw [satisfying] at isRead
      by_cases held : holds symbol = true
      · rw [if_pos held] at isRead
        cases isRead
        exact Nat.le_succ _
      · rw [if_neg held] at isRead
        cases isRead

theorem Shortens.bind (shortens : Shortens scanner)
    (shortensThen : ∀ value, Shortens (andThen value)) :
    Shortens (scanner >>= andThen) := by
  intro text value rest isRead
  rw [bind_apply] at isRead
  obtain ⟨output, first, second⟩ := Option.bind_eq_some_iff.mp isRead
  exact Nat.le_trans (shortensThen output.1 output.2 value rest second)
    (shortens text output.1 output.2 first)

theorem Shortens.orElse (shortens : Shortens scanner)
    (alsoShortens : Shortens another) : Shortens (scanner <|> another) := by
  intro text value rest isRead
  rw [orElse_apply] at isRead
  rcases Option.or_eq_some_iff.mp isRead with first | ⟨_, second⟩
  · exact shortens text value rest first
  · exact alsoShortens text value rest second

theorem shortens_expect [DecidableEq Symbol] (expected : Symbol) :
    Shortens (expect expected) :=
  shortens_satisfying

theorem shortens_valuesUpTo [DecidableEq Symbol] {close : Symbol}
    (shortens : Shortens scanner) (fuel : Nat) :
    Shortens (valuesUpTo close scanner fuel) := by
  have closing : Shortens (do
      let _ ← expect close
      pure [] : Scanner Symbol (List Value)) :=
    (shortens_expect close).bind fun _ => shortens_pure []
  induction fuel with
  | zero => exact closing
  | succ fuel inductionHypothesis =>
      exact closing.orElse (shortens.bind fun value =>
        inductionHypothesis.bind fun values => shortens_pure (value :: values))

/-! ### Ways to build scanners -/

theorem StopsAt.extends (stops : StopsAt stop scanner) :
    Extends stop scanner where
  reads text value tail rest read := by
    rw [stops.reads, read, Option.map_some]
  shortens := stops.shortens

theorem stopsAt_pure (value : Value) :
    StopsAt stop (pure value : Scanner Symbol Value) where
  reads _ _ := rfl
  shortens := shortens_pure value

theorem stopsAt_failure :
    StopsAt stop (failure : Scanner Symbol Value) where
  reads _ _ := rfl
  shortens _ _ _ isRead := by cases isRead

theorem stopsAt_satisfying (refuses : holds stop = false) :
    StopsAt stop (satisfying holds) where
  reads text rest := by
    cases text with
    | nil =>
        simp [satisfying, refuses]
    | cons symbol text =>
        rw [List.cons_append, satisfying, satisfying]
        by_cases held : holds symbol = true
        · rw [if_pos held, if_pos held, Option.map_some]
        · rw [if_neg held, if_neg held, Option.map_none]
  shortens := shortens_satisfying

theorem extends_satisfying : Extends stop (satisfying holds) where
  reads text value tail rest read := by
    cases text with
    | nil => cases read
    | cons symbol text =>
        rw [satisfying] at read
        by_cases held : holds symbol = true
        · rw [if_pos held] at read
          cases read
          rw [List.cons_append, satisfying, if_pos held]
        · rw [if_neg held] at read
          cases read
  shortens := shortens_satisfying

theorem extends_next : Extends stop (next : Scanner Symbol Symbol) :=
  extends_satisfying

theorem stopsAt_expect [DecidableEq Symbol] {expected : Symbol}
    (different : stop ≠ expected) : StopsAt stop (expect expected) :=
  stopsAt_satisfying (decide_eq_false different)

theorem stopsAt_run (refuses : holds stop = false) :
    StopsAt stop (run holds) where
  reads text rest := by
    have parts : (text ++ stop :: rest).takeWhile holds =
          text.takeWhile holds ∧
        (text ++ stop :: rest).dropWhile holds =
          text.dropWhile holds ++ stop :: rest := by
      induction text with
      | nil => simp [refuses]
      | cons symbol text inductionHypothesis =>
          cases held : holds symbol with
          | true => simp [held, inductionHypothesis]
          | false => simp [held]
    rw [run, run, parts.1, parts.2, Option.map_some]
  shortens text value rest isRead := by
    cases isRead
    exact (List.dropWhile_sublist _).length_le

theorem StopsAt.bind (stops : StopsAt stop scanner)
    (stopsThen : ∀ value, StopsAt stop (andThen value)) :
    StopsAt stop (scanner >>= andThen) where
  reads text rest := by
    rw [bind_apply, bind_apply, stops.reads]
    cases scanner text with
    | none => rfl
    | some output => exact (stopsThen output.1).reads output.2 rest
  shortens := stops.shortens.bind fun value => (stopsThen value).shortens

theorem Extends.bind (extend : Extends stop scanner)
    (extendThen : ∀ value, Extends stop (andThen value)) :
    Extends stop (scanner >>= andThen) where
  reads text value tail rest read := by
    rw [bind_apply] at read ⊢
    obtain ⟨output, first, second⟩ := Option.bind_eq_some_iff.mp read
    rw [extend.reads text output.1 output.2 rest first]
    exact (extendThen output.1).reads output.2 value tail rest second
  shortens := extend.shortens.bind fun value => (extendThen value).shortens

theorem StopsAt.orElse (stops : StopsAt stop scanner)
    (alsoStops : StopsAt stop another) :
    StopsAt stop (scanner <|> another) where
  reads text rest := by
    rw [orElse_apply, orElse_apply, stops.reads, alsoStops.reads]
    cases scanner text with
    | none => rfl
    | some output => rfl
  shortens := stops.shortens.orElse alsoStops.shortens

theorem StopsAt.orElse_extends (stops : StopsAt stop scanner)
    (extend : Extends stop another) :
    Extends stop (scanner <|> another) where
  reads text value tail rest read := by
    rw [orElse_apply] at read ⊢
    rw [stops.reads]
    rcases Option.or_eq_some_iff.mp read with first | ⟨fails, second⟩
    · rw [first, Option.map_some, Option.some_or]
    · rw [fails, Option.map_none, Option.none_or]
      exact extend.reads text value tail rest second
  shortens := stops.shortens.orElse extend.shortens

theorem StopsAt.ite {condition : Prop} [Decidable condition]
    (stops : StopsAt stop scanner) (alsoStops : StopsAt stop another) :
    StopsAt stop (if condition then scanner else another) := by
  by_cases held : condition
  · rwa [if_pos held]
  · rwa [if_neg held]

theorem Extends.ite {condition : Prop} [Decidable condition]
    (extend : Extends stop scanner) (alsoExtend : Extends stop another) :
    Extends stop (if condition then scanner else another) := by
  by_cases held : condition
  · rwa [if_pos held]
  · rwa [if_neg held]

theorem extends_pure (value : Value) :
    Extends stop (pure value : Scanner Symbol Value) :=
  (stopsAt_pure value).extends

theorem stopsAt_someRun (refuses : holds stop = false) :
    StopsAt stop (someRun holds) :=
  (stopsAt_satisfying refuses).bind fun first =>
    (stopsAt_run refuses).bind fun others => stopsAt_pure (first :: others)

theorem stopsAt_accepts [DecidableEq Symbol] {expected : Symbol}
    (different : stop ≠ expected) : StopsAt stop (accepts expected) :=
  ((stopsAt_expect different).bind fun _ => stopsAt_pure true).orElse
    (stopsAt_pure false)

theorem stopsAt_aheadIs [DecidableEq Symbol] {expected : Symbol}
    (different : stop ≠ expected) : StopsAt stop (aheadIs expected) where
  reads text rest := by
    cases text with
    | nil => simp [aheadIs, different]
    | cons symbol text => simp [aheadIs]
  shortens text value rest isRead := by
    cases isRead
    exact Nat.le_refl _

theorem extends_upTo [DecidableEq Symbol] {close : Symbol} :
    Extends stop (upTo close) where
  reads text value tail rest read := by
    induction text generalizing value tail with
    | nil => cases read
    | cons symbol text inductionHypothesis =>
        rw [upTo] at read
        rw [List.cons_append, upTo]
        by_cases closes : symbol = close
        · rw [if_pos closes] at read
          cases read
          rw [if_pos closes]
        · rw [if_neg closes] at read
          obtain ⟨output, readRest, isRead⟩ := Option.map_eq_some_iff.mp read
          cases isRead
          rw [if_neg closes, inductionHypothesis _ _ readRest, Option.map_some]
  shortens text value rest isRead := by
    induction text generalizing value rest with
    | nil => cases isRead
    | cons symbol text inductionHypothesis =>
        rw [upTo] at isRead
        by_cases closes : symbol = close
        · rw [if_pos closes] at isRead
          cases isRead
          exact Nat.le_succ _
        · rw [if_neg closes] at isRead
          obtain ⟨output, readRest, same⟩ := Option.map_eq_some_iff.mp isRead
          cases same
          exact Nat.le_succ_of_le (inductionHypothesis _ _ readRest)

/-- Fuel that is enough for a text is enough for a longer one. -/
theorem valuesUpTo_extends [DecidableEq Symbol] {close : Symbol}
    (extend : Extends stop scanner) (different : stop ≠ close)
    {fuel more : Nat} (enough : fuel ≤ more) {text : List Symbol}
    {values : List Value} {tail : List Symbol} (rest : List Symbol)
    (read : valuesUpTo close scanner fuel text = some (values, tail)) :
    valuesUpTo close scanner more (text ++ stop :: rest) =
      some (values, tail ++ stop :: rest) := by
  have closing : StopsAt stop (do
      let _ ← expect close
      pure [] : Scanner Symbol (List Value)) :=
    (stopsAt_expect different).bind fun _ => stopsAt_pure []
  induction fuel generalizing more text values tail with
  | zero =>
      rw [valuesUpTo] at read
      have closed := closing.extends.reads _ _ _ rest read
      cases more with
      | zero => exact closed
      | succ more =>
          rw [valuesUpTo, orElse_apply, closed, Option.some_or]
  | succ fuel inductionHypothesis =>
      obtain ⟨more, rfl⟩ := Nat.exists_eq_add_of_le' enough
      rw [valuesUpTo, orElse_apply] at read
      rw [← Nat.add_assoc, valuesUpTo, orElse_apply, closing.reads]
      rcases Option.or_eq_some_iff.mp read with closes | ⟨open_, goesOn⟩
      · rw [closes, Option.map_some, Option.some_or]
      · rw [open_, Option.map_none, Option.none_or]
        rw [bind_apply] at goesOn ⊢
        obtain ⟨first, readFirst, readOthers⟩ :=
          Option.bind_eq_some_iff.mp goesOn
        rw [bind_apply] at readOthers
        obtain ⟨others, isOthers, isValues⟩ :=
          Option.bind_eq_some_iff.mp readOthers
        cases isValues
        rw [extend.reads _ _ _ rest readFirst, Option.bind_some, bind_apply,
          inductionHypothesis (Nat.le_add_left fuel more) isOthers]
        rfl

theorem extends_manyUpTo [DecidableEq Symbol] {close : Symbol}
    (extend : Extends stop scanner) (different : stop ≠ close) :
    Extends stop (manyUpTo close scanner) where
  reads text values tail rest read := by
    refine valuesUpTo_extends extend different ?_ rest read
    rw [List.length_append]
    exact Nat.le_add_right _ _
  shortens text := shortens_valuesUpTo extend.shortens text.length text

/-! ### Whole texts -/

/-- More fuel than needed changes nothing. -/
theorem all_of_le {fuel more : Nat} {text : List Symbol} {values : List Value}
    (enough : fuel ≤ more) (read : all scanner fuel text = some values) :
    all scanner more text = some values := by
  induction fuel generalizing more text values with
  | zero =>
      cases text with
      | nil => cases more <;> exact read
      | cons symbol text => cases read
  | succ fuel inductionHypothesis =>
      cases text with
      | nil => cases more <;> exact read
      | cons symbol text =>
          obtain ⟨more, rfl⟩ := Nat.exists_eq_add_of_le' enough
          rw [all] at read
          obtain ⟨output, first, readTail⟩ := Option.bind_eq_some_iff.mp read
          obtain ⟨others, isOthers, isValues⟩ :=
            Option.map_eq_some_iff.mp readTail
          have readMore := inductionHypothesis
            (Nat.le_add_left fuel more) isOthers
          rw [← Nat.add_assoc, all, first, Option.bind_some, readMore,
            Option.map_some, isValues]

/-- A text that goes on with a symbol has the values of both parts. -/
theorem all_append (extend : Extends stop scanner) {fuel more : Nat}
    {text rest : List Symbol} {values others : List Value}
    (read : all scanner fuel text = some values)
    (readRest : all scanner more (stop :: rest) = some others) :
    all scanner (fuel + more) (text ++ stop :: rest) =
      some (values ++ others) := by
  induction fuel generalizing text values with
  | zero =>
      cases text with
      | nil =>
          cases read
          exact all_of_le (Nat.le_add_left more 0) readRest
      | cons symbol text => cases read
  | succ fuel inductionHypothesis =>
      cases text with
      | nil =>
          cases read
          exact all_of_le (Nat.le_add_left more _) readRest
      | cons symbol text =>
          rw [all] at read
          obtain ⟨output, first, readTail⟩ := Option.bind_eq_some_iff.mp read
          obtain ⟨tailValues, isTail, rfl⟩ :=
            Option.map_eq_some_iff.mp readTail
          have extended := extend.reads _ _ _ rest first
          have fuelEq : fuel + 1 + more = fuel + more + 1 := by omega
          rw [List.cons_append] at extended
          rw [List.cons_append, fuelEq, all, extended, Option.bind_some,
            inductionHypothesis isTail, Option.map_some, List.cons_append]

/-- A scanner that begins with a symbol needs no more fuel than there are
symbols. -/
theorem all_next_eq_of_le {begin_ : Symbol → Scanner Symbol Value}
    (shortens : ∀ symbol, Shortens (begin_ symbol)) {fuel more : Nat}
    {text : List Symbol} (enough : text.length ≤ fuel)
    (alsoEnough : text.length ≤ more) :
    all (next >>= begin_) fuel text = all (next >>= begin_) more text := by
  induction fuel generalizing more text with
  | zero =>
      rw [List.eq_nil_of_length_eq_zero (Nat.le_zero.mp enough)]
      cases more <;> rfl
  | succ fuel inductionHypothesis =>
      cases text with
      | nil => cases more <;> rfl
      | cons symbol text =>
          cases more with
          | zero => cases alsoEnough
          | succ more =>
              have first : (next >>= begin_) (symbol :: text) =
                  begin_ symbol text := bind_apply (symbol :: text)
              rw [all, all, first]
              cases read : begin_ symbol text with
              | none => rfl
              | some output =>
                  have shorter := shortens symbol text _ _ read
                  rw [List.length_cons] at enough alsoEnough
                  rw [Option.bind_some, Option.bind_some]
                  rw [@inductionHypothesis more _ (by omega) (by omega)]

end

end Scanner

end RtsNotebook.Library
