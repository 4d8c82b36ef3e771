import Mathlib

/-!
# Set operations on two lists

`setDifference` and `setIntersection` walk two lists side by side, the way the algorithms of
that name in the C++ library do.  On ascending lists they compute a difference and an
intersection.  On lists in any order this is only half true, and the half is what is here: a
difference is a sublist of the first list, and an intersection never holds what the second list
lacks (`mem_of_mem_setIntersection`).

`sortMerge` is what a list of distinct items becomes when others are sorted, merged into it and
consecutive copies are dropped, and `ListMap` is a map from keys to lists, an absent key reading
as the empty list.
-/

namespace SetAlgorithms

/-- Membership is decided by the equality that comes with the order. -/
scoped instance decidableMem {α : Type*} [LinearOrder α] (a : α) (l : List α) :
    Decidable (a ∈ l) :=
  List.instDecidableMemOfLawfulBEq a l

end SetAlgorithms

/-! ## Difference and intersection -/

section SetAlgorithms

variable {α : Type*} [LinearOrder α] {a b : α} {as bs : List α}

/-- `std::set_difference`: what is smaller than the front of the second list is kept, what is
equal to it is dropped together with it. -/
def setDifference : List α → List α → List α
  | [], _ => []
  | a :: as, bs =>
      match bs.dropWhile (· < a) with
      | [] => a :: as
      | b :: bs => if a < b then a :: setDifference as (b :: bs) else setDifference as bs

/-- `std::set_intersection`: what is equal to the front of the second list is kept. -/
def setIntersection : List α → List α → List α
  | [], _ => []
  | a :: as, bs =>
      match bs.dropWhile (· < a) with
      | [] => []
      | b :: bs => if a < b then setIntersection as (b :: bs) else a :: setIntersection as bs

lemma setDifference_sublist : (setDifference as bs).Sublist as := by
  induction as generalizing bs with
  | nil => exact List.nil_sublist _
  | cons a as ih =>
      rw [setDifference]
      split
      · exact List.Sublist.refl _
      · split_ifs
        · exact ih.cons_cons a
        · exact ih.cons a

omit [LinearOrder α] in
/-- What is skipped in the second list was in it. -/
lemma mem_of_dropWhile {p : α → Bool} {rest : List α} (h : bs.dropWhile p = b :: rest) :
    b ∈ bs ∧ rest ⊆ bs := by
  have hsub : (b :: rest).Sublist bs := h ▸ List.dropWhile_sublist p
  exact ⟨hsub.subset List.mem_cons_self, fun x hx => hsub.subset (List.mem_cons_of_mem _ hx)⟩

/-- The front that is left is not smaller, so when it is not larger either it is the same. -/
lemma eq_of_dropWhile {rest : List α} (h : bs.dropWhile (· < a) = b :: rest) (hab : ¬a < b) :
    a = b := by
  have hb : ¬b < a := by
    have hhead := List.head_dropWhile_not (l := bs) (fun x => decide (x < a)) (by simp [h])
    simpa [h] using hhead
  exact le_antisymm (not_lt.mp hb) (not_lt.mp hab)

/-- **An intersection holds only what the second list has.** -/
lemma mem_of_mem_setIntersection (ha : a ∈ setIntersection as bs) : a ∈ bs := by
  induction as generalizing bs with
  | nil => exact absurd ha List.not_mem_nil
  | cons x as ih =>
      rw [setIntersection] at ha
      split at ha
      · exact absurd ha List.not_mem_nil
      · rename_i y ys hdrop
        obtain ⟨hy, hys⟩ := mem_of_dropWhile hdrop
        split_ifs at ha with hxy
        · exact (List.mem_cons.mp (ih ha)).elim (fun h => h ▸ hy) fun h => hys h
        · rcases List.mem_cons.mp ha with rfl | ha
          · exact eq_of_dropWhile hdrop hxy ▸ hy
          · exact hys (ih ha)

/-- **One item is found** just when everything in front of it is smaller. -/
lemma mem_setIntersection_singleton (ha : a ∈ as) :
    a ∈ setIntersection as [a] ↔ ∀ x ∈ as.takeWhile (· ≠ a), x < a := by
  induction as with
  | nil => exact absurd ha List.not_mem_nil
  | cons x as ih =>
      rw [setIntersection]
      rcases lt_trichotomy x a with hx | rfl | hx
      · have ha' : a ∈ as := (List.mem_cons.mp ha).resolve_left hx.ne'
        simp [hx.not_gt, hx, hx.ne, ih ha']
      · simp
      · simp [hx, hx.not_gt, hx.ne']

/-! ## Merging -/

/-- `std::list::merge`: what is smaller than the front of the first list goes in front of it. -/
def mergeInto : List α → List α → List α
  | [], bs => bs
  | a :: as, bs => bs.takeWhile (· < a) ++ a :: mergeInto as (bs.dropWhile (· < a))

@[simp] lemma mem_mergeInto : a ∈ mergeInto as bs ↔ a ∈ as ∨ a ∈ bs := by
  induction as generalizing bs with
  | nil => simp [mergeInto]
  | cons x as ih =>
      have hsplit : a ∈ bs ↔ a ∈ bs.takeWhile (· < x) ∨ a ∈ bs.dropWhile (· < x) := by
        rw [← List.mem_append, List.takeWhile_append_dropWhile]
      rw [mergeInto, List.mem_append, List.mem_cons, ih, List.mem_cons, hsplit]
      tauto

/-- New items are sorted and merged into a list, and consecutive copies are dropped. -/
def sortMerge (as new : List α) : List α :=
  (mergeInto as (new.insertionSort (· ≤ ·))).destutter (· ≠ ·)

omit [LinearOrder α] in
lemma mem_destutter'_ne [DecidableEq α] : a ∈ as.destutter' (· ≠ ·) b ↔ a = b ∨ a ∈ as := by
  induction as generalizing b with
  | nil => simp
  | cons x as ih =>
      by_cases hbx : b = x
      · rw [List.destutter'_cons_neg _ (not_not.mpr hbx), ih, hbx]
        simp
      · rw [List.destutter'_cons_pos _ hbx, List.mem_cons, ih, List.mem_cons]

omit [LinearOrder α] in
/-- Dropping consecutive copies loses no item. -/
@[simp] lemma mem_destutter_ne [DecidableEq α] : a ∈ as.destutter (· ≠ ·) ↔ a ∈ as := by
  cases as with
  | nil => simp
  | cons x as => rw [List.destutter_cons', mem_destutter'_ne, List.mem_cons]

@[simp] lemma mem_sortMerge : a ∈ sortMerge as bs ↔ a ∈ as ∨ a ∈ bs := by
  simp [sortMerge, List.mem_insertionSort]

end SetAlgorithms

/-! ## Maps to lists -/

/-- A map from keys to lists. -/
abbrev ListMap (K V : Type*) : Type _ := AList fun _ : K => List V

namespace ListMap

variable {K V : Type*} [DecidableEq K] {m : ListMap K V} {k k' : K} {l r : List V}

/-- The list of a key. -/
def listOf (m : ListMap K V) (k : K) : List V := (m.lookup k).getD []

/-- No key has the empty list. -/
def Full (m : ListMap K V) : Prop := ∀ k, m.lookup k ≠ some []

@[simp] lemma listOf_empty : listOf (∅ : ListMap K V) k = [] := rfl

@[simp] lemma listOf_insert : listOf (m.insert k l) k = l := by simp [listOf]

lemma listOf_insert_ne (h : k' ≠ k) : listOf (m.insert k l) k' = m.listOf k' := by
  simp [listOf, AList.lookup_insert_ne h]

@[simp] lemma listOf_erase : listOf (m.erase k) k = [] := by simp [listOf]

lemma listOf_erase_ne (h : k' ≠ k) : listOf (m.erase k) k' = m.listOf k' := by
  simp [listOf, AList.lookup_erase_ne h]

lemma listOf_of_some (h : m.lookup k = some l) : m.listOf k = l := by simp [listOf, h]

lemma listOf_of_none (h : m.lookup k = none) : m.listOf k = [] := by simp [listOf, h]

lemma full_empty : Full (∅ : ListMap K V) := fun k => by simp

lemma Full.insert (h : m.Full) (hl : l ≠ []) : Full (m.insert k l) := by
  intro k'
  by_cases hk : k' = k
  · subst hk
    simpa using hl
  · rw [AList.lookup_insert_ne hk]
    exact h k'

lemma Full.erase (h : m.Full) : Full (m.erase k) := by
  intro k'
  by_cases hk : k' = k
  · subst hk
    simp
  · rw [AList.lookup_erase_ne hk]
    exact h k'

/-- Where no key has the empty list, a key without a list is absent. -/
lemma Full.lookup_eq_none (h : m.Full) : m.lookup k = none ↔ m.listOf k = [] := by
  cases hk : m.lookup k with
  | none => simp [listOf, hk]
  | some l =>
      rw [listOf_of_some hk]
      simpa [hk] using h k

section Sorted

variable [LinearOrder V] {v : V}

/-- Give a key more items: what the difference from its list shows as new is merged into it, and
is returned.  A new key gets the items as they are. -/
def addSorted (m : ListMap K V) (k : K) (l : List V) : ListMap K V × List V :=
  match m.lookup k with
  | some items =>
      let difference := setDifference l items
      if difference = [] then (m, [])
      else (m.insert k (sortMerge items difference), difference.insertionSort (· ≤ ·))
  | none => (m.insert k l, l)

lemma listOf_addSorted_ne (h : k' ≠ k) : (m.addSorted k l).1.listOf k' = m.listOf k' := by
  rw [addSorted]
  split
  · dsimp only
    split_ifs
    · rfl
    · exact listOf_insert_ne h
  · exact listOf_insert_ne h

/-- What a key has afterwards: its items, and all the new ones if it is new. -/
lemma mem_addSorted : v ∈ (m.addSorted k l).1.listOf k ↔ v ∈ m.listOf k ∨
    (m.lookup k = none ∧ v ∈ l) ∨ v ∈ setDifference l (m.listOf k) := by
  rw [addSorted]
  split
  · rename_i items hk
    rw [listOf_of_some hk, hk]
    dsimp only
    split_ifs with hdiff
    · simp [listOf_of_some hk, hdiff]
    · simp
  · rename_i hk
    rw [listOf_of_none hk, hk, listOf_insert]
    have hsub : v ∈ setDifference l [] → v ∈ l := fun h => setDifference_sublist.subset h
    simp only [List.not_mem_nil, true_and, false_or]
    tauto

/-- Take out of the list of a key what the intersection with another list finds, one copy each,
and the key with its last item. -/
def removeFound (m : ListMap K V) (k : K) (r : List V) : ListMap K V × List V :=
  match m.lookup k with
  | none => (m, [])
  | some items =>
      let out := setIntersection items r
      (if items.diff out = [] then m.erase k else m.insert k (items.diff out), out)

@[simp] lemma listOf_removeFound :
    (m.removeFound k r).1.listOf k = (m.listOf k).diff (setIntersection (m.listOf k) r) := by
  rw [removeFound]
  split
  · rename_i hk
    simp [listOf_of_none hk]
  · rename_i items hk
    rw [listOf_of_some hk]
    dsimp only
    split_ifs with hrest
    · rw [hrest, listOf_erase]
    · rw [listOf_insert]

lemma listOf_removeFound_ne (h : k' ≠ k) : (m.removeFound k r).1.listOf k' = m.listOf k' := by
  rw [removeFound]
  split
  · rfl
  · dsimp only
    split_ifs
    · exact listOf_erase_ne h
    · exact listOf_insert_ne h

lemma Full.removeFound (h : m.Full) : (m.removeFound k r).1.Full := by
  rw [ListMap.removeFound]
  split
  · exact h
  · dsimp only
    split_ifs with hrest
    · exact h.erase
    · exact h.insert hrest

end Sorted

end ListMap
