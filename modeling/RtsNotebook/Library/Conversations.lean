import Mathlib.Data.List.Basic
import Mathlib.Data.List.Nodup

/-!
# Conversations

A script says which dialog comes first and how an answered dialog goes on: it
is over, it asks another one, or it ends with an act.  Many conversations of
one script are open at the same time, and their replies come in any order, in
any environment.

Whatever is performed has been performed by one conversation, whose replies
lead to it by the script; and a conversation performs at most one act.
-/

namespace RtsNotebook.Library

/-- How an answered dialog goes on. -/
inductive Next (Dialog Act : Type*) where
  | closed
  | ask (dialog : Dialog)
  | act (act : Act)

/-- A script: the replies that a dialog admits, and how it goes on. -/
structure Script (Env Dialog Reply Act : Type*) where
  admits : Dialog → Reply → Bool
  answer : Env → Dialog → Reply → Next Dialog Act

section

variable {Env Dialog Reply Act : Type*} (script : Script Env Dialog Reply Act)

/-- The replies that lead from a first dialog to another one, each in an
environment that has been seen. -/
inductive Script.Leads (seen : Env → Prop) (first : Dialog) :
    List Reply → Dialog → Prop where
  | start : Leads seen first [] first
  | reply {replies : List Reply} {dialog next : Dialog} {env : Env}
      {reply : Reply} (leads : Leads seen first replies dialog)
      (isSeen : seen env) (admitted : script.admits dialog reply = true)
      (asked : script.answer env dialog reply = .ask next) :
      Leads seen first (replies ++ [reply]) next

/-- The replies lead to an act. -/
def Script.Performs (seen : Env → Prop) (first : Dialog)
    (replies : List Reply) (act : Act) : Prop :=
  ∃ earlier last dialog env, replies = earlier ++ [last] ∧
    script.Leads seen first earlier dialog ∧ seen env ∧
    script.admits dialog last = true ∧
    script.answer env dialog last = .act act

/-- The open dialogs, under the number of their conversation, and the acts that
were performed. -/
structure Desk (Dialog Act : Type*) where
  dialogs : List (Nat × Dialog)
  nextId : Nat
  performed : List (Nat × Act)

namespace Desk

def empty : Desk Dialog Act where
  dialogs := []
  nextId := 0
  performed := []

/-- Begin a conversation. -/
def start (desk : Desk Dialog Act) (dialog : Dialog) : Desk Dialog Act :=
  { desk with
    dialogs := desk.dialogs ++ [(desk.nextId, dialog)]
    nextId := desk.nextId + 1 }

/-- The conversations without one of them. -/
def close (desk : Desk Dialog Act) (id : Nat) : Desk Dialog Act :=
  { desk with dialogs := desk.dialogs.filter fun entry => entry.1 ≠ id }

/-- A dialog is answered; there is no answer to one that is not open, or that
it does not admit. -/
def reply (desk : Desk Dialog Act) (env : Env) (id : Nat) (reply : Reply) :
    Option (Desk Dialog Act) :=
  match desk.dialogs.lookup id with
  | none => none
  | some dialog =>
      if script.admits dialog reply then
        some
          (match script.answer env dialog reply with
          | .closed => desk.close id
          | .ask next =>
              { desk.close id with
                dialogs := (desk.close id).dialogs ++ [(id, next)] }
          | .act act =>
              { desk.close id with
                performed := desk.performed ++ [(id, act)] })
      else
        none

/-- The numbers of all conversations that are open or have performed an act. -/
def ids (desk : Desk Dialog Act) : List Nat :=
  desk.dialogs.map Prod.fst ++ desk.performed.map Prod.fst

end Desk

/-- The conversations of a desk, by what they began with and the replies that
they got. -/
structure Recorded (seen : Env → Prop) (began : Nat → Dialog → Prop)
    (replies : Nat → List Reply) (desk : Desk Dialog Act) : Prop where
  dialogs : ∀ entry ∈ desk.dialogs, ∃ first, began entry.1 first ∧
    script.Leads seen first (replies entry.1) entry.2
  performed : ∀ entry ∈ desk.performed, ∃ first, began entry.1 first ∧
    script.Performs seen first (replies entry.1) entry.2
  distinct : desk.ids.Nodup
  bounded : ∀ id ∈ desk.ids, id < desk.nextId
  unheard : ∀ id, desk.nextId ≤ id → replies id = []

/-- The replies after one more to a conversation. -/
def heard (replies : Nat → List Reply) (id : Nat) (reply : Reply) :
    Nat → List Reply :=
  fun other => if other = id then replies id ++ [reply] else replies other

variable {script} {seen more : Env → Prop} {began later : Nat → Dialog → Prop}
  {replies : Nat → List Reply} {desk next : Desk Dialog Act}

theorem Script.Leads.mono (grows : ∀ env, seen env → more env)
    {first dialog : Dialog} {earlier : List Reply}
    (leads : script.Leads seen first earlier dialog) :
    script.Leads more first earlier dialog := by
  induction leads with
  | start => exact .start
  | reply _ isSeen admitted asked inductionHypothesis =>
      exact inductionHypothesis.reply (grows _ isSeen) admitted asked

theorem Script.Performs.mono (grows : ∀ env, seen env → more env)
    {first : Dialog} {earlier : List Reply} {act : Act}
    (performs : script.Performs seen first earlier act) :
    script.Performs more first earlier act := by
  obtain ⟨before, last, dialog, env, split, leads, isSeen, rest⟩ := performs
  exact ⟨before, last, dialog, env, split, leads.mono grows,
    grows env isSeen, rest⟩

theorem heard_self (id : Nat) (reply : Reply) :
    heard replies id reply id = replies id ++ [reply] :=
  if_pos rfl

theorem heard_other {id other : Nat} (reply : Reply) (isOther : other ≠ id) :
    heard replies id reply other = replies other :=
  if_neg isOther

theorem mem_of_lookup {id : Nat} {dialog : Dialog}
    (isOpen : desk.dialogs.lookup id = some dialog) :
    (id, dialog) ∈ desk.dialogs := by
  obtain ⟨before, after, isSplit, _⟩ := List.lookup_eq_some_iff.mp isOpen
  rw [isSplit]
  exact List.mem_append_right _ List.mem_cons_self

theorem ids_close_sublist (desk : Desk Dialog Act) (id : Nat) :
    (desk.close id).ids.Sublist desk.ids :=
  (List.filter_sublist.map Prod.fst).append_right _

theorem ids_ask_perm (desk : Desk Dialog Act) (id : Nat) (dialog : Dialog) :
    ({ desk with dialogs := desk.dialogs ++ [(id, dialog)] } :
      Desk Dialog Act).ids.Perm (id :: desk.ids) := by
  simp only [Desk.ids, List.map_append, List.map_cons, List.map_nil,
    List.append_assoc, List.singleton_append]
  exact List.perm_middle

theorem ids_act_perm (desk : Desk Dialog Act) (id : Nat) (act : Act) :
    ({ desk with performed := desk.performed ++ [(id, act)] } :
      Desk Dialog Act).ids.Perm (id :: desk.ids) := by
  simp only [Desk.ids, List.map_append, List.map_cons, List.map_nil,
    ← List.append_assoc]
  exact List.perm_append_singleton _ _

/-- What a reply does: the conversation is over, goes on or ends with an
act. -/
theorem Desk.reply_cases {env : Env} {id : Nat} {reply : Reply}
    (answered : desk.reply script env id reply = some next) :
    ∃ dialog, (id, dialog) ∈ desk.dialogs ∧
      script.admits dialog reply = true ∧
      ((script.answer env dialog reply = .closed ∧ next = desk.close id) ∨
        (∃ asked, script.answer env dialog reply = .ask asked ∧
          next =
            { desk.close id with
              dialogs := (desk.close id).dialogs ++ [(id, asked)] }) ∨
        (∃ act, script.answer env dialog reply = .act act ∧
          next =
            { desk.close id with
              performed := (desk.close id).performed ++ [(id, act)] })) := by
  unfold Desk.reply at answered
  split at answered
  · cases answered
  · rename_i dialog isOpen
    split at answered
    · rename_i admitted
      have isNext := (Option.some.inj answered).symm
      refine ⟨dialog, mem_of_lookup isOpen, admitted, ?_⟩
      cases goesOn : script.answer env dialog reply with
      | closed => exact .inl ⟨rfl, by rw [isNext, goesOn]⟩
      | ask asked => exact .inr (.inl ⟨asked, rfl, by rw [isNext, goesOn]⟩)
      | act act => exact .inr (.inr ⟨act, rfl, by rw [isNext, goesOn]; rfl⟩)
    · cases answered

theorem recorded_empty (seen : Env → Prop) (began : Nat → Dialog → Prop) :
    Recorded script seen began (fun _ => [])
      (Desk.empty : Desk Dialog Act) where
  dialogs := fun _ isOpen => by cases isOpen
  performed := fun _ isAct => by cases isAct
  distinct := List.nodup_nil
  bounded := fun _ isId => by cases isId
  unheard := fun _ _ => rfl

namespace Recorded

theorem mono (recorded : Recorded script seen began replies desk)
    (grows : ∀ env, seen env → more env)
    (keeps : ∀ id first, began id first → later id first) :
    Recorded script more later replies desk where
  dialogs := by
    intro entry isOpen
    obtain ⟨first, hasBegun, leads⟩ := recorded.dialogs entry isOpen
    exact ⟨first, keeps _ _ hasBegun, leads.mono grows⟩
  performed := by
    intro entry isAct
    obtain ⟨first, hasBegun, performs⟩ := recorded.performed entry isAct
    exact ⟨first, keeps _ _ hasBegun, performs.mono grows⟩
  distinct := recorded.distinct
  bounded := recorded.bounded
  unheard := recorded.unheard

/-- A number is given away. -/
theorem skip (recorded : Recorded script seen began replies desk) :
    Recorded script seen began replies
      { desk with nextId := desk.nextId + 1 } where
  dialogs := recorded.dialogs
  performed := recorded.performed
  distinct := recorded.distinct
  bounded := fun id isId => Nat.lt_succ_of_lt (recorded.bounded id isId)
  unheard := fun id above => recorded.unheard id (Nat.le_of_succ_le above)

/-- A dialog opens. -/
theorem ask (recorded : Recorded script seen began replies desk) {id : Nat}
    {first dialog : Dialog} (fresh : id ∉ desk.ids)
    (below : id < desk.nextId) (hasBegun : began id first)
    (leads : script.Leads seen first (replies id) dialog) :
    Recorded script seen began replies
      { desk with dialogs := desk.dialogs ++ [(id, dialog)] } where
  dialogs := by
    intro entry isOpen
    rcases List.mem_append.mp isOpen with earlier | isNew
    · exact recorded.dialogs entry earlier
    · rw [List.mem_singleton.mp isNew]
      exact ⟨first, hasBegun, leads⟩
  performed := recorded.performed
  distinct := (ids_ask_perm desk id dialog).nodup_iff.mpr
    (List.nodup_cons.mpr ⟨fresh, recorded.distinct⟩)
  bounded := by
    intro other isId
    rcases List.mem_cons.mp ((ids_ask_perm desk id dialog).mem_iff.mp isId)
      with rfl | earlier
    · exact below
    · exact recorded.bounded other earlier
  unheard := recorded.unheard

/-- An act is performed. -/
theorem act (recorded : Recorded script seen began replies desk) {id : Nat}
    {first : Dialog} {act : Act} (fresh : id ∉ desk.ids)
    (below : id < desk.nextId) (hasBegun : began id first)
    (performs : script.Performs seen first (replies id) act) :
    Recorded script seen began replies
      { desk with performed := desk.performed ++ [(id, act)] } where
  dialogs := recorded.dialogs
  performed := by
    intro entry isAct
    rcases List.mem_append.mp isAct with earlier | isNew
    · exact recorded.performed entry earlier
    · rw [List.mem_singleton.mp isNew]
      exact ⟨first, hasBegun, performs⟩
  distinct := (ids_act_perm desk id act).nodup_iff.mpr
    (List.nodup_cons.mpr ⟨fresh, recorded.distinct⟩)
  bounded := by
    intro other isId
    rcases List.mem_cons.mp ((ids_act_perm desk id act).mem_iff.mp isId)
      with rfl | earlier
    · exact below
    · exact recorded.bounded other earlier
  unheard := recorded.unheard

/-- A conversation begins. -/
theorem start (recorded : Recorded script seen began replies desk)
    {first : Dialog} (begins : began desk.nextId first) :
    Recorded script seen began replies (desk.start first) := by
  have fresh : desk.nextId ∉ desk.ids := fun isId =>
    Nat.lt_irrefl _ (recorded.bounded _ isId)
  refine recorded.skip.ask fresh (Nat.lt_succ_self _) begins ?_
  rw [recorded.unheard _ (Nat.le_refl _)]
  exact .start

theorem not_mem_close (recorded : Recorded script seen began replies desk)
    {id : Nat} {dialog : Dialog} (isOpen : (id, dialog) ∈ desk.dialogs) :
    id ∉ (desk.close id).ids := by
  intro isId
  rcases List.mem_append.mp isId with stillOpen | isDone
  · obtain ⟨entry, isEntry, isSame⟩ := List.mem_map.mp stillOpen
    simp [Desk.close, isSame] at isEntry
  · exact List.disjoint_of_nodup_append recorded.distinct
      (List.mem_map_of_mem isOpen) isDone

/-- A conversation is heard and is not open any more. -/
theorem close (recorded : Recorded script seen began replies desk) {id : Nat}
    {dialog : Dialog} (isOpen : (id, dialog) ∈ desk.dialogs)
    (reply : Reply) :
    Recorded script seen began (heard replies id reply)
      (desk.close id) where
  dialogs := by
    intro entry isEntry
    obtain ⟨earlier, isOther⟩ := List.mem_filter.mp isEntry
    rw [heard_other reply (of_decide_eq_true isOther)]
    exact recorded.dialogs entry earlier
  performed := by
    intro entry isAct
    have isOther : entry.1 ≠ id := fun isSame =>
      recorded.not_mem_close isOpen (isSame ▸
        List.mem_append_right _ (List.mem_map_of_mem isAct))
    rw [heard_other reply isOther]
    exact recorded.performed entry isAct
  distinct := (ids_close_sublist desk id).nodup recorded.distinct
  bounded := fun other isId =>
    recorded.bounded other ((ids_close_sublist desk id).subset isId)
  unheard := by
    intro other above
    have below : id < desk.nextId := recorded.bounded id
      (List.mem_append_left _ (List.mem_map_of_mem isOpen))
    rw [heard_other reply (Nat.ne_of_gt (Nat.lt_of_lt_of_le below above))]
    exact recorded.unheard other above

/-- A conversation gets a reply. -/
theorem reply (recorded : Recorded script seen began replies desk) {env : Env}
    {id : Nat} {reply : Reply} (isSeen : seen env)
    (answered : desk.reply script env id reply = some next) :
    Recorded script seen began (heard replies id reply) next := by
  obtain ⟨dialog, isOpen, admitted, goesOn⟩ := Desk.reply_cases answered
  have closed := recorded.close isOpen reply
  have fresh := recorded.not_mem_close isOpen
  have below : id < desk.nextId := recorded.bounded id
    (List.mem_append_left _ (List.mem_map_of_mem isOpen))
  obtain ⟨first, hasBegun, leads⟩ := recorded.dialogs _ isOpen
  rcases goesOn with ⟨_, rfl⟩ | ⟨asked, isAsked, rfl⟩ | ⟨act, isAct, rfl⟩
  · exact closed
  · refine closed.ask fresh below hasBegun ?_
    rw [heard_self]
    exact leads.reply isSeen admitted isAsked
  · refine closed.act fresh below hasBegun ?_
    rw [heard_self]
    exact ⟨replies id, reply, dialog, env, rfl, leads, isSeen, admitted, isAct⟩

end Recorded

end

end RtsNotebook.Library
