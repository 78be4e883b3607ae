import Mathlib.Data.List.Forall2

/-!
# Lists that are mapped

A map that can fail relates the items of a list to its results one by one.
What holds of the results, and whether two lists are mapped to the same one, is
then decided item by item.
-/

namespace RtsNotebook.Library

variable {Item Result : Type} {change : Item → Option Result}

theorem forall₂_of_mapM {items : List Item} {results : List Result}
    (mapped : items.mapM change = some results) :
    List.Forall₂ (fun item result => change item = some result) items
      results := by
  induction items generalizing results with
  | nil =>
      cases mapped
      exact .nil
  | cons item rest inductionHypothesis =>
      rw [List.mapM_cons] at mapped
      obtain ⟨result, isResult, mapped⟩ := Option.bind_eq_some_iff.mp mapped
      obtain ⟨behind, isBehind, mapped⟩ := Option.bind_eq_some_iff.mp mapped
      cases mapped
      exact .cons isResult (inductionHypothesis isBehind)

theorem exists_of_mem_right {Relation : Item → Result → Prop}
    {items : List Item} {results : List Result}
    (related : List.Forall₂ Relation items results) {result : Result}
    (isResult : result ∈ results) : ∃ item ∈ items, Relation item result := by
  induction related with
  | nil => cases isResult
  | cons isRelated _ inductionHypothesis =>
      rcases List.mem_cons.mp isResult with rfl | isResult
      · exact ⟨_, List.mem_cons_self, isRelated⟩
      · obtain ⟨item, isItem, isRelated⟩ := inductionHypothesis isResult
        exact ⟨item, List.mem_cons_of_mem _ isItem, isRelated⟩

theorem exists_of_mem_left {Relation : Item → Result → Prop}
    {items : List Item} {results : List Result}
    (related : List.Forall₂ Relation items results) {item : Item}
    (isItem : item ∈ items) : ∃ result ∈ results, Relation item result := by
  have flipped : List.Forall₂ (flip Relation) results items :=
    List.Forall₂.flip related
  exact exists_of_mem_right flipped isItem

/-- What holds of all results is what holds of all items. -/
theorem forall_mem_iff_of_forall₂ {Relation : Item → Result → Prop}
    {ofItem : Item → Prop} {ofResult : Result → Prop} {items : List Item}
    {results : List Result} (related : List.Forall₂ Relation items results)
    (same : ∀ item ∈ items, ∀ result, Relation item result →
      (ofResult result ↔ ofItem item)) :
    (∀ result ∈ results, ofResult result) ↔ ∀ item ∈ items, ofItem item := by
  induction related with
  | nil => simp
  | cons isRelated _ inductionHypothesis =>
      rw [List.forall_mem_cons, List.forall_mem_cons,
        same _ List.mem_cons_self _ isRelated, inductionHypothesis fun item
          isItem => same item (List.mem_cons_of_mem _ isItem)]

/-- Two lists are mapped to the same one where related items are. -/
theorem map_eq_map_iff_of_forall₂ {View : Type}
    {Relation : Item → Result → Prop} {ofItem : Item → View}
    {ofResult : Result → View} {same : Item → Prop} {items : List Item}
    {results : List Result} (related : List.Forall₂ Relation items results)
    (sameIff : ∀ item ∈ items, ∀ result, Relation item result →
      (ofResult result = ofItem item ↔ same item)) :
    results.map ofResult = items.map ofItem ↔ ∀ item ∈ items, same item := by
  induction related with
  | nil => simp
  | cons isRelated _ inductionHypothesis =>
      rw [List.map_cons, List.map_cons, List.cons.injEq, List.forall_mem_cons,
        sameIff _ List.mem_cons_self _ isRelated,
        inductionHypothesis fun item isItem =>
          sameIff item (List.mem_cons_of_mem _ isItem)]

theorem mapM_map_eq_some {Source : Type} {encode : Source → Item}
    {next : Source → Result} {sources : List Source}
    (all : ∀ source ∈ sources, change (encode source) = some (next source)) :
    (sources.map encode).mapM change = some (sources.map next) := by
  induction sources with
  | nil => rfl
  | cons source rest inductionHypothesis =>
      have behind := inductionHypothesis fun other isOther =>
        all other (List.mem_cons_of_mem _ isOther)
      rw [List.map_cons, List.mapM_cons, all source List.mem_cons_self, behind]
      rfl

theorem exists_mapM {items : List Item}
    (all : ∀ item ∈ items, ∃ result, change item = some result) :
    ∃ results, items.mapM change = some results := by
  induction items with
  | nil => exact ⟨[], rfl⟩
  | cons item rest inductionHypothesis =>
      obtain ⟨result, isResult⟩ := all item List.mem_cons_self
      obtain ⟨results, areResults⟩ := inductionHypothesis fun other isOther =>
        all other (List.mem_cons_of_mem _ isOther)
      refine ⟨result :: results, ?_⟩
      rw [List.mapM_cons, isResult, areResults]
      rfl

/-- Keeping some items and mapping them gives what mapping all otherwise gives
where all are kept and each becomes the same. -/
theorem filter_map_eq_map_iff {keeps : Item → Bool} {change other : Item → Result}
    {items : List Item} :
    (items.filter keeps).map change = items.map other ↔
      ∀ item ∈ items, keeps item = true ∧ change item = other item := by
  induction items with
  | nil => simp
  | cons item rest inductionHypothesis =>
      by_cases kept : keeps item = true
      · rw [List.filter_cons_of_pos kept, List.map_cons, List.map_cons,
          List.cons.injEq, inductionHypothesis, List.forall_mem_cons,
          and_iff_right kept]
      · rw [List.filter_cons_of_neg kept]
        constructor
        · intro same
          have lengths := congrArg List.length same
          rw [List.length_map, List.length_map, List.length_cons] at lengths
          have fewer := List.length_filter_le keeps rest
          omega
        · intro all
          exact absurd (all item List.mem_cons_self).1 kept

/-- Keeping some items and changing them leaves a list alone where all are kept
and none is changed. -/
theorem filter_map_eq_self_iff {keeps : Item → Bool} {modify : Item → Item}
    {items : List Item} :
    (items.filter keeps).map modify = items ↔
      ∀ item ∈ items, keeps item = true ∧ modify item = item := by
  have same := @filter_map_eq_map_iff Item Item keeps modify id items
  rwa [List.map_id] at same

/-- A list is left alone where every item is. -/
theorem map_eq_self_iff {modify : Item → Item} {items : List Item} :
    items.map modify = items ↔ ∀ item ∈ items, modify item = item := by
  induction items with
  | nil => simp
  | cons item rest inductionHypothesis =>
      rw [List.map_cons, List.cons.injEq, inductionHypothesis,
        List.forall_mem_cons]

/-- An item that is taken out leaves the others mapped. -/
theorem map_eraseIdx {Source Target : Type*} (modify : Source → Target)
    (items : List Source) (position : Nat) :
    (items.eraseIdx position).map modify =
      (items.map modify).eraseIdx position := by
  rw [List.eraseIdx_eq_take_drop_succ, List.eraseIdx_eq_take_drop_succ,
    List.map_append, List.map_take, List.map_drop]

/-- Taking out the items at one position leaves the others related. -/
theorem forall₂_eraseIdx {Relation : Item → Result → Prop}
    {items : List Item} {results : List Result}
    (related : List.Forall₂ Relation items results) (position : Nat) :
    List.Forall₂ Relation (items.eraseIdx position)
      (results.eraseIdx position) := by
  rw [List.eraseIdx_eq_take_drop_succ, List.eraseIdx_eq_take_drop_succ]
  exact List.rel_append (List.forall₂_take position related)
    (List.forall₂_drop (position + 1) related)

/-- The items at one position are related. -/
theorem related_of_forall₂ {Relation : Item → Result → Prop}
    {items : List Item} {results : List Result}
    (related : List.Forall₂ Relation items results) {position : Nat}
    {item : Item} {result : Result}
    (isItem : items[position]? = some item)
    (isResult : results[position]? = some result) : Relation item result := by
  induction related generalizing position with
  | nil => cases isItem
  | cons isRelated _ inductionHypothesis =>
      cases position with
      | zero =>
          cases isItem
          cases isResult
          exact isRelated
      | succ position => exact inductionHypothesis isItem isResult

/-- The items of each key, key by key, are the items whose key is among
them. -/
theorem flatMap_filter_perm {Key Entry : Type*} [DecidableEq Key]
    (keyOf : Entry → Key) (entries : List Entry) {keys : List Key}
    (distinct : keys.Nodup) :
    (keys.flatMap fun key => entries.filter fun entry =>
      keyOf entry = key).Perm
        (entries.filter fun entry => keyOf entry ∈ keys) := by
  induction keys with
  | nil => simp
  | cons key rest inductionHypothesis =>
      obtain ⟨notLater, restDistinct⟩ := List.nodup_cons.mp distinct
      rw [List.flatMap_cons]
      refine ((inductionHypothesis restDistinct).append_left _).trans ?_
      clear inductionHypothesis
      induction entries with
      | nil => exact List.Perm.refl _
      | cons entry others inductionHypothesis =>
          by_cases isKey : keyOf entry = key
          · have notRest : ¬ keyOf entry ∈ rest := isKey ▸ notLater
            rw [List.filter_cons_of_pos (by simpa using isKey),
              List.filter_cons_of_neg (by simpa using notRest),
              List.filter_cons_of_pos (by simp [isKey])]
            exact List.Perm.cons entry inductionHypothesis
          · rw [List.filter_cons_of_neg (by simpa using isKey)]
            by_cases isRest : keyOf entry ∈ rest
            · rw [List.filter_cons_of_pos (by simpa using isRest),
                List.filter_cons_of_pos (by simp [isRest])]
              exact List.perm_middle.trans
                (List.Perm.cons entry inductionHypothesis)
            · rw [List.filter_cons_of_neg (by simpa using isRest),
                List.filter_cons_of_neg (by simp [isKey, isRest])]
              exact inductionHypothesis

end RtsNotebook.Library
