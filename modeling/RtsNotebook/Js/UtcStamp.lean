import Mathlib.Algebra.Order.Field.Rat
import Mathlib.Data.Prod.Lex
import Mathlib.Tactic.Linarith
import RtsNotebook.Js.Text

/-!
# Timestamps in UTC

ISO 8601 timestamps of a calendar date and a time to the second, with any number
of further digits and a final `Z`, and the instants that they denote.  The
strings of two stamps with as many digits are ordered as their instants; in
general the stamp with fewer digits is the greater string.
-/

namespace RtsNotebook.Js

/-! ### The calendar -/

def isLeapYear (year : Nat) : Bool :=
  year % 4 = 0 ∧ (year % 100 ≠ 0 ∨ year % 400 = 0)

def daysInMonth (year : Nat) : Nat → Nat
  | 1 | 3 | 5 | 7 | 8 | 10 | 12 => 31
  | 4 | 6 | 9 | 11 => 30
  | 2 => if isLeapYear year then 29 else 28
  | _ => 0

/-- The days of the months of a year before one of them. -/
def daysBeforeMonth (year : Nat) : Nat → Nat
  | 0 => 0
  | month + 1 => daysBeforeMonth year month + daysInMonth year month

/-- The days before a year, from the year zero on. -/
def daysBeforeYear : Nat → Nat
  | 0 => 0
  | year + 1 => daysBeforeYear year + daysBeforeMonth year 13

/-- The number that some digits denote behind the decimal point. -/
def fractionValue : List (Fin 10) → ℚ
  | [] => 0
  | digit :: rest => (digit.val + fractionValue rest) / 10

/-! ### Stamps -/

/-- A date and a time of day.  A minute may have a leap second, and a day may
end with the time `24:00:00`. -/
structure UtcStamp where
  year : Nat
  month : Nat
  day : Nat
  hour : Nat
  minute : Nat
  second : Nat
  fraction : List (Fin 10)
  year_lt : year < 10000
  month_pos : 0 < month
  month_le : month ≤ 12
  day_pos : 0 < day
  day_le : day ≤ daysInMonth year month
  hour_le : hour ≤ 24
  minute_lt : minute < 60
  second_le : second ≤ 60
  midnight : hour = 24 →
    minute = 0 ∧ second = 0 ∧ ∀ digit ∈ fraction, digit = 0

/-- A digit as a code unit. -/
def digitUnit (digit : Nat) : UInt16 :=
  UInt16.ofNat (48 + digit)

/-- A number with leading zeros. -/
def pad : Nat → Nat → JsString
  | 0, _ => []
  | width + 1, value =>
      digitUnit (value / 10 ^ width) :: pad width (value % 10 ^ width)

namespace UtcStamp

/-- `YYYY-MM-DDThh:mm:ss` -/
def wholeText (stamp : UtcStamp) : JsString :=
  pad 4 stamp.year ++ unit '-' :: (pad 2 stamp.month ++ unit '-' ::
    (pad 2 stamp.day ++ unit 'T' :: (pad 2 stamp.hour ++ unit ':' ::
      (pad 2 stamp.minute ++ unit ':' :: pad 2 stamp.second))))

def digitsText (fraction : List (Fin 10)) : JsString :=
  fraction.map fun digit => digitUnit digit.val

/-- The digits behind the decimal point, where there are some. -/
def fractionText : List (Fin 10) → JsString
  | [] => []
  | digit :: rest => unit '.' :: digitsText (digit :: rest)

def text (stamp : UtcStamp) : JsString :=
  stamp.wholeText ++ (fractionText stamp.fraction ++ [unit 'Z'])

def dayNumber (stamp : UtcStamp) : Nat :=
  daysBeforeYear stamp.year + daysBeforeMonth stamp.year stamp.month +
    stamp.day

def minuteNumber (stamp : UtcStamp) : Nat :=
  (stamp.dayNumber * 24 + stamp.hour) * 60 + stamp.minute

/-- The minute and the seconds in it, of which a minute may have sixty-one. -/
def instant (stamp : UtcStamp) : Nat ×ₗ ℚ :=
  toLex (stamp.minuteNumber, stamp.second + fractionValue stamp.fraction)

/-- The date and the time to the second. -/
def whole (stamp : UtcStamp) : Nat × Nat × Nat × Nat × Nat × Nat :=
  (stamp.year, stamp.month, stamp.day, stamp.hour, stamp.minute, stamp.second)

/-- The first stamp adds to the second one digits that are not all zero. -/
structure Refines (finer coarser : UtcStamp) : Prop where
  whole : finer.whole = coarser.whole
  further : ∃ rest, finer.fraction = coarser.fraction ++ rest ∧
    ∃ digit ∈ rest, digit ≠ 0

end UtcStamp

/-! ### Strings of digits -/

section

variable {first second : JsString}

/-- Strings with beginnings of one length. -/
theorem append_lt_append_iff {before other : JsString}
    (sameLength : before.length = other.length) :
    before ++ first < other ++ second ↔
      before < other ∨ before = other ∧ first < second := by
  induction before generalizing other with
  | nil =>
      rw [List.eq_nil_of_length_eq_zero sameLength.symm]
      simp
  | cons codeUnit before inductionHypothesis =>
      cases other with
      | nil => cases sameLength
      | cons otherUnit other =>
          have tails := inductionHypothesis (Nat.succ.inj sameLength)
          rw [List.cons_append, List.cons_append, List.cons_lt_cons_iff,
            List.cons_lt_cons_iff, tails, List.cons.injEq]
          tauto

theorem cons_lt_cons_self {codeUnit : UInt16} :
    codeUnit :: first < codeUnit :: second ↔ first < second := by
  rw [List.cons_lt_cons_iff]
  have irreflexive : ¬ codeUnit < codeUnit := UInt16.lt_irrefl codeUnit
  simp [irreflexive]

theorem digitUnit_lt_iff : ∀ digit < 10, ∀ other < 10,
    (digitUnit digit < digitUnit other ↔ digit < other) := by
  decide

theorem digitUnit_eq_iff : ∀ digit < 10, ∀ other < 10,
    (digitUnit digit = digitUnit other ↔ digit = other) := by
  decide

theorem length_pad (width value : Nat) : (pad width value).length = width := by
  induction width generalizing value with
  | zero => rfl
  | succ width inductionHypothesis =>
      rw [pad, List.length_cons, inductionHypothesis]

/-- Numbers of one width are ordered as their strings. -/
theorem pad_lt_pad_iff {width value other : Nat} (value_lt : value < 10 ^ width)
    (other_lt : other < 10 ^ width) :
    pad width value < pad width other ↔ value < other := by
  induction width generalizing value other with
  | zero =>
      rw [pow_zero] at value_lt other_lt
      have valueZero : value = 0 := by omega
      have otherZero : other = 0 := by omega
      rw [valueZero, otherZero]
      simp [pad]
  | succ width inductionHypothesis =>
      have positive : 0 < 10 ^ width := Nat.pow_pos (by decide)
      rw [pow_succ] at value_lt other_lt
      have leading : value / 10 ^ width < 10 :=
        Nat.div_lt_of_lt_mul value_lt
      have otherLeading : other / 10 ^ width < 10 :=
        Nat.div_lt_of_lt_mul other_lt
      rw [pad, pad, List.cons_lt_cons_iff,
        digitUnit_lt_iff _ leading _ otherLeading,
        digitUnit_eq_iff _ leading _ otherLeading,
        inductionHypothesis (Nat.mod_lt _ positive) (Nat.mod_lt _ positive)]
      have valueSplit := Nat.div_add_mod value (10 ^ width)
      have otherSplit := Nat.div_add_mod other (10 ^ width)
      have valueRest := Nat.mod_lt value positive
      have otherRest := Nat.mod_lt other positive
      constructor
      · rintro (less | ⟨same, less⟩)
        · by_contra notLess
          exact Nat.not_lt.mpr (Nat.div_le_div_right (Nat.le_of_not_lt notLess))
            less
        · rw [← valueSplit, ← otherSplit, same]
          omega
      · intro less
        rcases Nat.lt_or_ge (value / 10 ^ width) (other / 10 ^ width)
          with below | notBelow
        · exact Or.inl below
        · have same : value / 10 ^ width = other / 10 ^ width :=
            Nat.le_antisymm (Nat.div_le_div_right (Nat.le_of_lt less)) notBelow
          refine Or.inr ⟨same, ?_⟩
          rw [← valueSplit, ← otherSplit, same] at less
          omega

end

theorem pad_eq_pad_iff {width value other : Nat} (value_lt : value < 10 ^ width)
    (other_lt : other < 10 ^ width) :
    pad width value = pad width other ↔ value = other := by
  constructor
  · intro same
    have notLess := pad_lt_pad_iff value_lt other_lt
    have notGreater := pad_lt_pad_iff other_lt value_lt
    rw [same] at notLess notGreater
    have below := mt notLess.mpr (List.lt_irrefl _)
    have above := mt notGreater.mpr (List.lt_irrefl _)
    omega
  · exact congrArg (pad width)

/-! ### Dates -/

theorem daysInMonth_le (year month : Nat) : daysInMonth year month ≤ 31 := by
  unfold daysInMonth
  split
  all_goals first | omega | (split <;> omega)

theorem daysBeforeMonth_add_le {year month later : Nat} (less : month < later) :
    daysBeforeMonth year month + daysInMonth year month ≤
      daysBeforeMonth year later := by
  induction later with
  | zero => cases less
  | succ later inductionHypothesis =>
      rw [daysBeforeMonth]
      rcases Nat.lt_succ_iff_lt_or_eq.mp less with less | rfl
      · have before := inductionHypothesis less
        omega
      · exact Nat.le_refl _

theorem daysBeforeYear_add_le {year later : Nat} (less : year < later) :
    daysBeforeYear year + daysBeforeMonth year 13 ≤ daysBeforeYear later := by
  induction later with
  | zero => cases less
  | succ later inductionHypothesis =>
      rw [daysBeforeYear]
      rcases Nat.lt_succ_iff_lt_or_eq.mp less with less | rfl
      · have before := inductionHypothesis less
        omega
      · exact Nat.le_refl _

namespace UtcStamp

variable {stamp other : UtcStamp}

/-- The order of the dates. -/
def DateBefore (stamp other : UtcStamp) : Prop :=
  stamp.year < other.year ∨ stamp.year = other.year ∧
    (stamp.month < other.month ∨ stamp.month = other.month ∧
      stamp.day < other.day)

/-- The order of the times to the second. -/
def TimeBefore (stamp other : UtcStamp) : Prop :=
  stamp.hour < other.hour ∨ stamp.hour = other.hour ∧
    (stamp.minute < other.minute ∨ stamp.minute = other.minute ∧
      stamp.second < other.second)

def SameDate (stamp other : UtcStamp) : Prop :=
  stamp.year = other.year ∧ stamp.month = other.month ∧ stamp.day = other.day

theorem dayNumber_lt (before : DateBefore stamp other) :
    stamp.dayNumber < other.dayNumber := by
  have inMonth := stamp.day_le
  have otherDay := other.day_pos
  have inYear : daysBeforeMonth stamp.year stamp.month +
      daysInMonth stamp.year stamp.month ≤ daysBeforeMonth stamp.year 13 :=
    daysBeforeMonth_add_le (Nat.lt_succ_of_le stamp.month_le)
  rw [dayNumber, dayNumber]
  rcases before with year | ⟨year, month | ⟨month, day⟩⟩
  · have years := daysBeforeYear_add_le year
    omega
  · have months := @daysBeforeMonth_add_le stamp.year _ _ month
    rw [← year]
    omega
  · rw [← year, ← month]
    omega

theorem dayNumber_eq (same : SameDate stamp other) :
    stamp.dayNumber = other.dayNumber := by
  rw [dayNumber, dayNumber, same.1, same.2.1, same.2.2]

theorem wholeText_lt_iff : stamp.wholeText < other.wholeText ↔
    DateBefore stamp other ∨ SameDate stamp other ∧ TimeBefore stamp other := by
  have day_lt (stamp : UtcStamp) : stamp.day < 10 ^ 2 := by
    have days := daysInMonth_le stamp.year stamp.month
    have inMonth := stamp.day_le
    omega
  have month_lt (stamp : UtcStamp) : stamp.month < 10 ^ 2 := by
    have months := stamp.month_le
    omega
  have hour_lt (stamp : UtcStamp) : stamp.hour < 10 ^ 2 := by
    have hours := stamp.hour_le
    omega
  have minute_lt (stamp : UtcStamp) : stamp.minute < 10 ^ 2 := by
    have minutes := stamp.minute_lt
    omega
  have second_lt (stamp : UtcStamp) : stamp.second < 10 ^ 2 := by
    have seconds := stamp.second_le
    omega
  have sameLength (width value other : Nat) :
      (pad width value).length = (pad width other).length := by
    rw [length_pad, length_pad]
  rw [wholeText, wholeText, append_lt_append_iff (sameLength _ _ _),
    cons_lt_cons_self, append_lt_append_iff (sameLength _ _ _),
    cons_lt_cons_self, append_lt_append_iff (sameLength _ _ _),
    cons_lt_cons_self, append_lt_append_iff (sameLength _ _ _),
    cons_lt_cons_self, append_lt_append_iff (sameLength _ _ _),
    cons_lt_cons_self, pad_lt_pad_iff stamp.year_lt other.year_lt,
    pad_eq_pad_iff stamp.year_lt other.year_lt,
    pad_lt_pad_iff (month_lt _) (month_lt _),
    pad_eq_pad_iff (month_lt _) (month_lt _),
    pad_lt_pad_iff (day_lt _) (day_lt _), pad_eq_pad_iff (day_lt _) (day_lt _),
    pad_lt_pad_iff (hour_lt _) (hour_lt _),
    pad_eq_pad_iff (hour_lt _) (hour_lt _),
    pad_lt_pad_iff (minute_lt _) (minute_lt _),
    pad_eq_pad_iff (minute_lt _) (minute_lt _),
    pad_lt_pad_iff (second_lt _) (second_lt _)]
  unfold DateBefore SameDate TimeBefore
  tauto

theorem sameDate_of_not_before (notBefore : ¬ DateBefore stamp other)
    (notBehind : ¬ DateBefore other stamp) : SameDate stamp other := by
  unfold DateBefore at notBefore notBehind
  unfold SameDate
  omega

theorem sameTime_of_not_before (notBefore : ¬ TimeBefore stamp other)
    (notBehind : ¬ TimeBefore other stamp) :
    stamp.hour = other.hour ∧ stamp.minute = other.minute ∧
      stamp.second = other.second := by
  unfold TimeBefore at notBefore notBehind
  omega

theorem whole_eq_of_not_lt (notBefore : ¬ stamp.wholeText < other.wholeText)
    (notBehind : ¬ other.wholeText < stamp.wholeText) :
    stamp.whole = other.whole := by
  rw [wholeText_lt_iff, not_or, not_and] at notBefore notBehind
  obtain ⟨year, month, day⟩ :=
    sameDate_of_not_before notBefore.1 notBehind.1
  obtain ⟨hour, minute, second⟩ := sameTime_of_not_before
    (notBefore.2 ⟨year, month, day⟩)
    (notBehind.2 ⟨year.symm, month.symm, day.symm⟩)
  rw [whole, whole, year, month, day, hour, minute, second]

/-! ### Digits behind the point -/

theorem fractionValue_nonneg (fraction : List (Fin 10)) :
    0 ≤ fractionValue fraction := by
  induction fraction with
  | nil => exact le_refl 0
  | cons digit rest inductionHypothesis =>
      have digitNonneg : (0 : ℚ) ≤ digit.val := Nat.cast_nonneg _
      rw [fractionValue]
      linarith

theorem fractionValue_lt_one (fraction : List (Fin 10)) :
    fractionValue fraction < 1 := by
  induction fraction with
  | nil => exact zero_lt_one
  | cons digit rest inductionHypothesis =>
      have digit_le : (digit.val : ℚ) ≤ 9 := by
        exact_mod_cast Nat.le_of_lt_succ digit.isLt
      rw [fractionValue]
      linarith

theorem fractionValue_eq_zero {fraction : List (Fin 10)}
    (zeros : ∀ digit ∈ fraction, digit = 0) : fractionValue fraction = 0 := by
  induction fraction with
  | nil => rfl
  | cons digit rest inductionHypothesis =>
      rw [fractionValue, zeros digit List.mem_cons_self,
        inductionHypothesis fun other isOther =>
          zeros other (List.mem_cons_of_mem digit isOther)]
      norm_num

theorem fractionValue_lt_append {rest : List (Fin 10)}
    (nonzero : ∃ digit ∈ rest, digit ≠ 0) (fraction : List (Fin 10)) :
    fractionValue fraction < fractionValue (fraction ++ rest) := by
  induction fraction with
  | nil =>
      rw [List.nil_append, fractionValue]
      obtain ⟨digit, isDigit, positive⟩ := nonzero
      induction rest with
      | nil => cases isDigit
      | cons first rest inductionHypothesis =>
          have restNonneg := fractionValue_nonneg rest
          rw [fractionValue]
          rcases List.mem_cons.mp isDigit with rfl | inRest
          · have digitPos : (0 : ℚ) < digit.val := by
              exact_mod_cast Nat.pos_of_ne_zero fun zero =>
                positive (Fin.ext zero)
            linarith
          · have firstNonneg : (0 : ℚ) ≤ first.val := Nat.cast_nonneg _
            have restPos := inductionHypothesis inRest
            linarith
  | cons digit fraction inductionHypothesis =>
      rw [List.cons_append, fractionValue, fractionValue]
      linarith

/-- A point and digits are less than the final letter. -/
theorem digitUnit_lt_end : ∀ digit : Fin 10,
    digitUnit digit.val < unit 'Z' := by
  decide

theorem digitsText_append_lt {rest : List (Fin 10)} (nonempty : rest ≠ [])
    (fraction : List (Fin 10)) :
    digitsText (fraction ++ rest) ++ [unit 'Z'] <
      digitsText fraction ++ [unit 'Z'] := by
  induction fraction with
  | nil =>
      obtain ⟨digit, rest, rfl⟩ := List.exists_cons_of_ne_nil nonempty
      exact List.cons_lt_cons_iff.mpr (Or.inl (digitUnit_lt_end digit))
  | cons digit fraction inductionHypothesis =>
      exact cons_lt_cons_self.mpr inductionHypothesis

/-- The fraction of a string that is not greater continues the other one, or is
not greater. -/
theorem fractionValue_le_of_digitsText {fraction coarser : List (Fin 10)}
    (notGreater : ¬ digitsText coarser ++ [unit 'Z'] <
      digitsText fraction ++ [unit 'Z']) :
    (∃ rest, fraction = coarser ++ rest) ∨
      fractionValue fraction ≤ fractionValue coarser := by
  induction coarser generalizing fraction with
  | nil => exact Or.inl ⟨fraction, rfl⟩
  | cons digit coarser inductionHypothesis =>
      cases fraction with
      | nil => exact Or.inr (fractionValue_nonneg _)
      | cons first fraction =>
          have units := digitUnit_lt_iff digit.val digit.isLt first.val
            first.isLt
          have notCons : ¬ (digitUnit digit.val < digitUnit first.val ∨
              digitUnit digit.val = digitUnit first.val ∧
                digitsText coarser ++ [unit 'Z'] <
                  digitsText fraction ++ [unit 'Z']) :=
            fun less => notGreater (List.cons_lt_cons_iff.mpr less)
          rw [not_or, units] at notCons
          rw [fractionValue, fractionValue]
          rcases Nat.lt_or_ge first.val digit.val with less | notLess
          · right
            have below := fractionValue_lt_one fraction
            have nonneg := fractionValue_nonneg coarser
            have step : (first.val : ℚ) + 1 ≤ digit.val := by
              exact_mod_cast less
            linarith
          · have same : first = digit :=
              Fin.ext (Nat.le_antisymm (Nat.le_of_not_lt notCons.1) notLess)
            subst same
            rcases inductionHypothesis fun less => notCons.2 ⟨rfl, less⟩
              with ⟨rest, rfl⟩ | notMore
            · exact Or.inl ⟨rest, rfl⟩
            · exact Or.inr (by linarith)

theorem fractionText_append_lt {rest : List (Fin 10)} (nonempty : rest ≠ [])
    (fraction : List (Fin 10)) :
    fractionText (fraction ++ rest) ++ [unit 'Z'] <
      fractionText fraction ++ [unit 'Z'] := by
  cases fraction with
  | nil =>
      obtain ⟨digit, rest, rfl⟩ := List.exists_cons_of_ne_nil nonempty
      exact List.cons_lt_cons_iff.mpr (Or.inl (by decide))
  | cons digit fraction =>
      exact cons_lt_cons_self.mpr
        (digitsText_append_lt nonempty (digit :: fraction))

theorem fractionValue_le_of_fractionText {fraction coarser : List (Fin 10)}
    (notGreater : ¬ fractionText coarser ++ [unit 'Z'] <
      fractionText fraction ++ [unit 'Z']) :
    (∃ rest, fraction = coarser ++ rest) ∨
      fractionValue fraction ≤ fractionValue coarser := by
  cases coarser with
  | nil => exact Or.inl ⟨fraction, rfl⟩
  | cons digit coarser =>
      cases fraction with
      | nil => exact Or.inr (fractionValue_nonneg _)
      | cons first fraction =>
          exact fractionValue_le_of_digitsText fun less =>
            notGreater (cons_lt_cons_self.mpr less)

/-! ### Instants -/

theorem instant_le_iff : stamp.instant ≤ other.instant ↔
    stamp.minuteNumber < other.minuteNumber ∨
      stamp.minuteNumber = other.minuteNumber ∧
        (stamp.second : ℚ) + fractionValue stamp.fraction ≤
          other.second + fractionValue other.fraction :=
  Prod.Lex.toLex_le_toLex

/-- An earlier time of the same day. -/
theorem instant_le_of_timeBefore (sameDay : stamp.dayNumber = other.dayNumber)
    (before : TimeBefore stamp other) : stamp.instant ≤ other.instant := by
  have stampMinute := stamp.minute_lt
  rw [instant_le_iff, minuteNumber, minuteNumber, sameDay]
  rcases before with hour | ⟨hour, minute | ⟨minute, second⟩⟩
  · left
    omega
  · left
    omega
  · refine Or.inr ⟨by rw [hour, minute], ?_⟩
    have below := fractionValue_lt_one stamp.fraction
    have nonneg := fractionValue_nonneg other.fraction
    have step : (stamp.second : ℚ) + 1 ≤ other.second := by
      exact_mod_cast second
    linarith

/-- An earlier day, which may end where the other one begins. -/
theorem instant_le_of_dayNumber_lt
    (earlier : stamp.dayNumber < other.dayNumber) :
    stamp.instant ≤ other.instant := by
  have stampHour := stamp.hour_le
  have stampMinute := stamp.minute_lt
  rw [instant_le_iff, minuteNumber, minuteNumber]
  by_cases isMidnight : stamp.hour = 24
  · obtain ⟨minute, second, zeros⟩ := stamp.midnight isMidnight
    rw [isMidnight, minute, second, fractionValue_eq_zero zeros]
    have nonneg := fractionValue_nonneg other.fraction
    have seconds : (0 : ℚ) ≤ other.second := Nat.cast_nonneg _
    rcases Nat.lt_or_ge ((stamp.dayNumber * 24 + 24) * 60 + 0)
        ((other.dayNumber * 24 + other.hour) * 60 + other.minute)
      with less | notLess
    · exact Or.inl less
    · refine Or.inr ⟨by omega, ?_⟩
      rw [Nat.cast_zero]
      linarith
  · left
    omega

theorem instant_le_of_wholeText_lt
    (before : stamp.wholeText < other.wholeText) :
    stamp.instant ≤ other.instant := by
  rcases wholeText_lt_iff.mp before with date | ⟨date, time⟩
  · exact instant_le_of_dayNumber_lt (dayNumber_lt date)
  · exact instant_le_of_timeBefore (dayNumber_eq date) time

theorem instant_le_of_whole_eq (same : stamp.whole = other.whole)
    (fractions : fractionValue stamp.fraction ≤ fractionValue other.fraction) :
    stamp.instant ≤ other.instant := by
  simp only [whole, Prod.mk.injEq] at same
  obtain ⟨year, month, day, hour, minute, second⟩ := same
  have sameDay := dayNumber_eq ⟨year, month, day⟩
  rw [instant_le_iff, minuteNumber, minuteNumber, sameDay, hour, minute, second]
  exact Or.inr ⟨rfl, by linarith⟩

theorem length_wholeText (stamp : UtcStamp) : stamp.wholeText.length = 19 := by
  simp [wholeText, length_pad]

theorem text_lt_iff : stamp.text < other.text ↔
    stamp.wholeText < other.wholeText ∨ stamp.wholeText = other.wholeText ∧
      fractionText stamp.fraction ++ [unit 'Z'] <
        fractionText other.fraction ++ [unit 'Z'] :=
  append_lt_append_iff (by rw [length_wholeText, length_wholeText])

theorem wholeText_eq (same : stamp.whole = other.whole) :
    stamp.wholeText = other.wholeText := by
  simp only [whole, Prod.mk.injEq] at same
  obtain ⟨year, month, day, hour, minute, second⟩ := same
  rw [wholeText, wholeText, year, month, day, hour, minute, second]

/-- The refined stamp is the greater string although it is earlier. -/
theorem Refines.text_lt (refines : Refines stamp other) :
    stamp.text < other.text := by
  obtain ⟨rest, fractionEq, digit, isDigit, _⟩ := refines.further
  refine text_lt_iff.mpr (Or.inr ⟨wholeText_eq refines.whole, ?_⟩)
  rw [fractionEq]
  exact fractionText_append_lt (List.ne_nil_of_mem isDigit) _

theorem Refines.instant_lt (refines : Refines stamp other) :
    other.instant < stamp.instant := by
  obtain ⟨rest, fractionEq, nonzero⟩ := refines.further
  have same := refines.whole
  simp only [UtcStamp.whole, Prod.mk.injEq] at same
  obtain ⟨year, month, day, hour, minute, second⟩ := same
  have sameDay := dayNumber_eq ⟨year, month, day⟩
  have less := fractionValue_lt_append nonzero other.fraction
  rw [← fractionEq] at less
  refine Prod.Lex.toLex_lt_toLex.mpr (Or.inr ⟨?_, ?_⟩)
  · rw [minuteNumber, minuteNumber, sameDay, hour, minute]
  · rw [second]
    dsimp only
    linarith

/-- A string that is not greater denotes an instant that is not later, unless it
refines the other stamp. -/
theorem refines_or_instant_le (notGreater : ¬ other.text < stamp.text) :
    Refines stamp other ∨ stamp.instant ≤ other.instant := by
  rw [text_lt_iff, not_or, not_and] at notGreater
  by_cases before : stamp.wholeText < other.wholeText
  · exact Or.inr (instant_le_of_wholeText_lt before)
  · have same := whole_eq_of_not_lt before notGreater.1
    have fractions := fractionValue_le_of_fractionText
      (notGreater.2 (wholeText_eq same).symm)
    rcases fractions with ⟨rest, fractionEq⟩ | notMore
    · by_cases nonzero : ∃ digit ∈ rest, digit ≠ 0
      · exact Or.inl ⟨same, rest, fractionEq, nonzero⟩
      · right
        refine instant_le_of_whole_eq same (le_of_eq ?_)
        push Not at nonzero
        have zeros : fractionValue rest = 0 := fractionValue_eq_zero nonzero
        have appended (fraction : List (Fin 10)) :
            fractionValue (fraction ++ rest) = fractionValue fraction := by
          induction fraction with
          | nil => exact zeros
          | cons digit fraction inductionHypothesis =>
              rw [List.cons_append, fractionValue, fractionValue,
                inductionHypothesis]
        rw [fractionEq, appended]
    · exact Or.inr (instant_le_of_whole_eq same notMore)

/-- A string denotes one instant. -/
theorem instant_eq_of_text_eq (same : stamp.text = other.text) :
    stamp.instant = other.instant := by
  have instant_le {stamp other : UtcStamp} (same : stamp.text = other.text) :
      stamp.instant ≤ other.instant := by
    have notGreater : ¬ other.text < stamp.text := by
      rw [same]
      exact List.lt_irrefl _
    rcases refines_or_instant_le notGreater with refines | notLater
    · have less := refines.text_lt
      rw [same] at less
      exact absurd less (List.lt_irrefl _)
    · exact notLater
  exact le_antisymm (instant_le same) (instant_le same.symm)

end UtcStamp

end RtsNotebook.Js
