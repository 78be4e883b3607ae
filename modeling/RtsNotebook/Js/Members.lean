import RtsNotebook.Js.Value
import RtsNotebook.Library.Lookups

/-!
# Members of an object

Setting and deleting members in the order of enumeration, over values of any
type, and the members that a spread copies.
-/

namespace RtsNotebook.Js

open RtsNotebook.Library (lookup_cons_eq)

section

variable {Value Other : Type*}

/-- `own[key] = value` in the order of enumeration: indices first, then the
other names as they came. -/
def assignMember (key : JsString) (value : Value) :
    List (JsString × Value) → List (JsString × Value)
  | [] => [(key, value)]
  | member :: rest =>
      if member.1 = key then
        (key, value) :: rest
      else
        match arrayIndex? key, arrayIndex? member.1 with
        | some index, some other =>
            if index < other then (key, value) :: member :: rest
            else member :: assignMember key value rest
        | some _, none => (key, value) :: member :: rest
        | none, _ => member :: assignMember key value rest

/-- `delete own[key]` -/
def deleteMember (key : JsString) (own : List (JsString × Value)) :
    List (JsString × Value) :=
  own.filter fun member => !decide (member.1 = key)

/-- An object that is filled member by member. -/
def fillMembers (members : List (JsString × Value)) :
    List (JsString × Value) :=
  members.foldl (fun own member => assignMember member.1 member.2 own) []

variable {key tested : JsString} {value : Value}
  {own : List (JsString × Value)}

/-- What an assignment puts before a member or behind it. -/
theorem lookup_assignMember :
    (assignMember key value own).lookup tested =
      if tested = key then some value else own.lookup tested := by
  induction own with
  | nil =>
      rw [assignMember, lookup_cons_eq]
  | cons member rest inductionHypothesis =>
      have behind : (member :: assignMember key value rest).lookup tested =
          if tested = member.1 then some member.2
          else if tested = key then some value else rest.lookup tested := by
        rw [lookup_cons_eq, inductionHypothesis]
      have before : ((key, value) :: member :: rest).lookup tested =
          if tested = key then some value
          else (member :: rest).lookup tested := lookup_cons_eq _ _ _
      have swapped (different : member.1 ≠ key) :
          (member :: assignMember key value rest).lookup tested =
            if tested = key then some value
            else (member :: rest).lookup tested := by
        rw [behind, lookup_cons_eq]
        by_cases isKey : tested = key
        · have notMember : tested ≠ member.1 := by
            rw [isKey]
            exact Ne.symm different
          rw [if_neg notMember, if_pos isKey, if_pos isKey]
        · rw [if_neg isKey, if_neg isKey]
      rw [assignMember]
      by_cases same : member.1 = key
      · rw [if_pos same, lookup_cons_eq, lookup_cons_eq, same]
        by_cases isKey : tested = key
        · rw [if_pos isKey, if_pos isKey]
        · rw [if_neg isKey, if_neg isKey, if_neg isKey]
      · rw [if_neg same]
        split
        · split
          · exact before
          · exact swapped same
        · exact before
        · exact swapped same

theorem mem_assignMember {member : JsString × Value}
    (isMember : member ∈ assignMember key value own) :
    member = (key, value) ∨ member ∈ own := by
  induction own with
  | nil => exact Or.inl (List.mem_singleton.mp isMember)
  | cons first rest inductionHypothesis =>
      have behind (inCons : member ∈ first :: assignMember key value rest) :
          member = (key, value) ∨ member ∈ first :: rest := by
        rcases List.mem_cons.mp inCons with isFirst | inRest
        · exact Or.inr (isFirst ▸ List.mem_cons_self)
        · exact (inductionHypothesis inRest).imp_right
            (List.mem_cons_of_mem first)
      have before (inCons : member ∈ (key, value) :: first :: rest) :
          member = (key, value) ∨ member ∈ first :: rest :=
        List.mem_cons.mp inCons
      rw [assignMember] at isMember
      split at isMember
      · exact (List.mem_cons.mp isMember).imp_right
          (List.mem_cons_of_mem first)
      · split at isMember
        · split at isMember
          · exact before isMember
          · exact behind isMember
        · exact before isMember
        · exact behind isMember

/-- A new name is added somewhere. -/
theorem assignMember_perm (absent : key ∉ own.map Prod.fst) :
    (assignMember key value own).Perm ((key, value) :: own) := by
  induction own with
  | nil => exact List.Perm.refl _
  | cons first rest inductionHypothesis =>
      rw [List.map_cons, List.mem_cons, not_or] at absent
      have behind : (first :: assignMember key value rest).Perm
          ((key, value) :: first :: rest) :=
        ((inductionHypothesis absent.2).cons first).trans
          (List.Perm.swap (key, value) first rest)
      rw [assignMember, if_neg (Ne.symm absent.1)]
      split
      · split
        · exact List.Perm.refl _
        · exact behind
      · exact List.Perm.refl _
      · exact behind

/-- A name that is no index is replaced where it stands. -/
theorem assignMember_self (notIndex : arrayIndex? key = none)
    (found : own.lookup key = some value) :
    assignMember key value own = own := by
  induction own with
  | nil => cases found
  | cons member rest inductionHypothesis =>
      rw [lookup_cons_eq] at found
      by_cases same : key = member.1
      · rw [if_pos same] at found
        have memberEq : (key, value) = member := by
          rw [same, ← Option.some.inj found]
        rw [assignMember, if_pos same.symm, memberEq]
      · rw [if_neg same] at found
        rw [assignMember, if_neg (Ne.symm same), notIndex]
        dsimp only
        rw [inductionHypothesis found]

theorem lookup_deleteMember :
    (deleteMember key own).lookup tested =
      if tested = key then none else own.lookup tested := by
  induction own with
  | nil => simp [deleteMember]
  | cons member rest inductionHypothesis =>
      rw [deleteMember, List.filter_cons]
      by_cases deleted : member.1 = key
      · have dropped : (!decide (member.1 = key)) = false := by simp [deleted]
        rw [dropped, if_neg Bool.false_ne_true, ← deleteMember,
          inductionHypothesis, lookup_cons_eq, deleted]
        by_cases isKey : tested = key
        · rw [if_pos isKey, if_pos isKey]
        · rw [if_neg isKey, if_neg isKey, if_neg isKey]
      · have kept : (!decide (member.1 = key)) = true := by simp [deleted]
        rw [if_pos kept, ← deleteMember, lookup_cons_eq, lookup_cons_eq,
          inductionHypothesis]
        by_cases isMember : tested = member.1
        · have notKey : tested ≠ key := by
            rw [isMember]
            exact deleted
          rw [if_pos isMember, if_neg notKey, if_pos isMember]
        · rw [if_neg isMember, if_neg isMember]

theorem deleteMember_of_absent (absent : own.lookup key = none) :
    deleteMember key own = own := by
  rw [deleteMember, List.filter_eq_self]
  intro member isMember
  have notFound := List.lookup_eq_none_iff.mp absent member isMember
  have different : member.1 ≠ key := by
    intro same
    simp [same] at notFound
  simp [different]

end

/-- The indices of an array or of a string, with what stands there. -/
def indexed (items : List Json) : List (JsString × Json) :=
  items.zipIdx.map fun (item, index) => (natDigits index, item)

/-- The own members of a value, as `{ ...value }` copies them and
`Object.entries` lists them. -/
def Json.ownMembers : Json → List (JsString × Json)
  | .object members => members
  | .array items => indexed items
  | .string text => indexed (text.map fun codeUnit => .string [codeUnit])
  | _ => []

/-- `typeof value === 'object' && !Array.isArray(value)` of a value that is not
`null`, with the members. -/
def Json.asRecord? : Json → Option (List (JsString × Json))
  | .object members => some members
  | _ => none

/-! ### The order of enumeration -/

/-- Whether a name comes before another one in an object. -/
def keyBefore (first second : JsString) : Bool :=
  match arrayIndex? first, arrayIndex? second with
  | some index, some other => index < other
  | some _, none => true
  | none, some _ => false
  | none, none => first ≠ second

/-- Members as `JSON.parse` leaves them: in the order of enumeration, and no
name twice. -/
def InOrder {Value : Type*} (members : List (JsString × Value)) : Prop :=
  members.Pairwise fun first second => keyBefore first.1 second.1 = true

instance {Value : Type*} (members : List (JsString × Value)) :
    Decidable (InOrder members) :=
  inferInstanceAs (Decidable (members.Pairwise
    fun first second => keyBefore first.1 second.1 = true))

theorem ne_of_keyBefore {first second : JsString}
    (before : keyBefore first second = true) : first ≠ second := by
  rintro rfl
  rw [keyBefore] at before
  cases hasIndex : arrayIndex? first with
  | none =>
      rw [hasIndex] at before
      exact of_decide_eq_true before rfl
  | some index =>
      rw [hasIndex] at before
      exact Nat.lt_irrefl index (of_decide_eq_true before)

section

variable {Value Other : Type*} {key : JsString} {value : Value}
  {own members : List (JsString × Value)}

/-- A name that comes last is added at the end. -/
theorem assignMember_last
    (last : ∀ member ∈ own, keyBefore member.1 key = true) :
    assignMember key value own = own ++ [(key, value)] := by
  induction own with
  | nil => rfl
  | cons member rest inductionHypothesis =>
      have before := last member List.mem_cons_self
      have behind := inductionHypothesis fun other isOther =>
        last other (List.mem_cons_of_mem _ isOther)
      rw [assignMember, if_neg (ne_of_keyBefore before)]
      rw [keyBefore] at before
      split
      · rename_i index other hasIndex hasOther
        rw [hasIndex, hasOther] at before
        rw [if_neg (Nat.lt_asymm (of_decide_eq_true before)), behind]
        rfl
      · rename_i index hasIndex noOther
        rw [hasIndex, noOther] at before
        cases before
      · rw [behind]
        rfl

theorem foldl_assignMember (inOrder : InOrder (own ++ members)) :
    members.foldl (fun own member => assignMember member.1 member.2 own) own =
      own ++ members := by
  induction members generalizing own with
  | nil => exact (List.append_nil own).symm
  | cons member rest inductionHypothesis =>
      have last : ∀ other ∈ own, keyBefore other.1 member.1 = true :=
        fun other isOther =>
          (List.pairwise_append.mp inOrder).2.2 other isOther member
            List.mem_cons_self
      have split : own ++ [member] ++ rest = own ++ member :: rest := by simp
      rw [List.foldl_cons, assignMember_last last]
      change rest.foldl _ (own ++ [member]) = _
      rw [inductionHypothesis (by rw [split]; exact inOrder), split]

/-- Filling an object with members in order gives the members. -/
theorem fillMembers_eq_self (inOrder : InOrder members) :
    fillMembers members = members :=
  @foldl_assignMember _ [] members inOrder

/-- The order is that of the names alone. -/
theorem InOrder.map {change : JsString × Value → JsString × Other}
    (sameKey : ∀ member, (change member).1 = member.1)
    (inOrder : InOrder members) : InOrder (members.map change) := by
  rw [InOrder, List.pairwise_map]
  simp only [sameKey]
  exact inOrder

theorem InOrder.filter (holds : JsString × Value → Bool)
    (inOrder : InOrder members) : InOrder (members.filter holds) :=
  List.Pairwise.filter holds inOrder

end

theorem assign_eq_assignMember (key : JsString) (value : JsValue)
    (own : List (JsString × JsValue)) :
    assign key value own = assignMember key value own := by
  induction own with
  | nil => rfl
  | cons member rest inductionHypothesis =>
      have behind : member :: assign key value rest =
          member :: assignMember key value rest :=
        congrArg (member :: ·) inductionHypothesis
      by_cases isKey : member.1 = key
      · rw [assign, assignMember, if_pos isKey, if_pos isKey]
      · rw [assign, assignMember, if_neg isKey, if_neg isKey]
        cases arrayIndex? key with
        | none => exact behind
        | some index =>
            cases arrayIndex? member.1 with
            | none => rfl
            | some other => exact congrArg (ite (index < other) _) behind

/-- A copy that is an object takes every name but `__proto__` as its own. -/
theorem copyMember_object {key : JsString} (notPrototype : key ≠ js "__proto__")
    (own : List (JsString × JsValue)) (value : JsValue) :
    (JsValue.object own).copyMember key value =
      .object (assignMember key value own) := by
  unfold JsValue.copyMember
  rw [if_neg fun isSetter => notPrototype isSetter.1, ← assign_eq_assignMember]
  rfl

/-! ### Indices -/

theorem digitValue_digitChar :
    ∀ digit < 10, digitValue 10 (unit (Nat.digitChar digit)) = some digit := by
  decide

/-- The digits of a number denote it. -/
theorem digitsValue_natDigits (value : Nat) :
    digitsValue 10 (natDigits value) = some value := by
  have nonempty : natDigits value ≠ [] := by
    rw [natDigits, ne_eq, List.map_eq_nil_iff]
    exact Nat.toDigits_ne_nil
  rw [digitsValue, if_neg nonempty]
  clear nonempty
  induction value using Nat.strongRecOn with
  | ind value inductionHypothesis =>
      by_cases small : value < 10
      · rw [natDigits, Nat.toDigits_of_lt_base small, List.map_singleton,
          List.foldl_cons, digitValue_digitChar value small]
        simp
      · have large : 10 ≤ value := Nat.le_of_not_lt small
        have remainder : value % 10 < 10 := Nat.mod_lt _ (by decide)
        have quotient := inductionHypothesis (value / 10)
          (Nat.div_lt_self (by omega) (by decide))
        rw [natDigits, Nat.toDigits_of_base_le (by decide) large,
          List.map_append, List.foldl_append, ← natDigits, quotient,
          List.map_singleton, List.foldl_cons,
          digitValue_digitChar _ remainder]
        simp [Nat.div_add_mod']

theorem natDigits_injective : Function.Injective natDigits := by
  intro first second same
  have sameValue := congrArg (digitsValue 10) same
  rw [digitsValue_natDigits, digitsValue_natDigits] at sameValue
  exact Option.some.inj sameValue

theorem arrayIndex?_natDigits (index : Nat) :
    arrayIndex? (natDigits index) =
      if index < 4294967295 then some index else none := by
  rw [arrayIndex?, digitsValue_natDigits, Option.filter_some]
  by_cases small : index < 4294967295
  · simp [small]
  · simp [small]

theorem keyBefore_natDigits {first second : Nat} (less : first < second) :
    keyBefore (natDigits first) (natDigits second) = true := by
  rw [keyBefore, arrayIndex?_natDigits, arrayIndex?_natDigits]
  by_cases smallSecond : second < 4294967295
  · rw [if_pos smallSecond, if_pos (Nat.lt_trans less smallSecond)]
    exact decide_eq_true less
  · rw [if_neg smallSecond]
    by_cases smallFirst : first < 4294967295
    · rw [if_pos smallFirst]
    · rw [if_neg smallFirst]
      exact decide_eq_true fun same =>
        Nat.ne_of_lt less (natDigits_injective same)

theorem inOrder_indexed (items : List Json) : InOrder (indexed items) := by
  rw [InOrder, List.pairwise_iff_getElem]
  intro first second firstBelow secondBelow less
  have keyAt {index : Nat} (below : index < (indexed items).length) :
      ((indexed items)[index]).1 = natDigits index := by
    simp [indexed]
  rw [keyAt firstBelow, keyAt secondBelow]
  exact keyBefore_natDigits less

end RtsNotebook.Js
