import Mathlib

/-!
# Sets that are kept in slots

A table `tbl` with `n` slots keeps a finite set: a slot is free when it holds `z`, and otherwise it
holds an element.  `SlotSet.Holds` says which set this is, and that no element is there twice.
Elements come into any free slot and go by their slot being cleared, so that free slots may lie
anywhere; `SlotSet.Packed` is the stronger property that the slots in use are the first ones.

The set that a table should hold is the one behind its history of additions and deletions
(`SlotSet.added`).
-/

namespace SlotSet

variable {α : Type*}

/-! ## The table -/

/-- **The table holds the set**, each element in one slot. -/
structure Holds (n : ℕ) (z : α) (tbl : ℕ → α) (S : Set α) : Prop where
  mem_iff : ∀ a, a ∈ S ↔ a ≠ z ∧ ∃ k < n, tbl k = a
  once : ∀ j < n, ∀ k < n, tbl j = tbl k → tbl j ≠ z → j = k

/-- The slots in use. -/
def used [DecidableEq α] (n : ℕ) (z : α) (tbl : ℕ → α) : Finset ℕ :=
  (Finset.range n).filter fun k => tbl k ≠ z

/-- The slots in use are the first `c` ones. -/
def Packed (n : ℕ) (z : α) (tbl : ℕ → α) (c : ℕ) : Prop := ∀ k < n, tbl k ≠ z ↔ k < c

variable {n c k : ℕ} {z a : α} {tbl : ℕ → α} {S : Set α}

lemma Holds.empty (h : ∀ k < n, tbl k = z) : Holds n z tbl ∅ := by
  refine ⟨fun a => ⟨fun ha => ha.elim, ?_⟩, fun j hj _ _ _ hne => absurd (h j hj) hne⟩
  rintro ⟨hne, k, hk, rfl⟩
  exact absurd (h k hk) hne

/-- **An element comes into a free slot.** -/
lemma Holds.insert (H : Holds n z tbl S) (hk : k < n) (hfree : tbl k = z) (ha : a ≠ z)
    (hnew : a ∉ S) : Holds n z (Function.update tbl k a) (insert a S) := by
  have habsent : ∀ j < n, tbl j ≠ a := by
    rintro j hj rfl
    exact hnew ((H.mem_iff _).mpr ⟨ha, j, hj, rfl⟩)
  refine ⟨fun b => ?_, fun i hi j hj => ?_⟩
  · rw [Set.mem_insert_iff, H.mem_iff]
    constructor
    · rintro (rfl | ⟨hb, j, hj, rfl⟩)
      · exact ⟨ha, k, hk, Function.update_self ..⟩
      · have hjk : j ≠ k := by
          rintro rfl
          exact hb hfree
        exact ⟨hb, j, hj, Function.update_of_ne hjk ..⟩
    · rintro ⟨hb, j, hj, hjb⟩
      by_cases hjk : j = k
      · subst hjk
        rw [Function.update_self] at hjb
        exact Or.inl hjb.symm
      · rw [Function.update_of_ne hjk] at hjb
        exact Or.inr ⟨hb, j, hj, hjb⟩
  · simp only [Function.update_apply]
    split_ifs with h1 h2 h2
    · intro _ _
      rw [h1, h2]
    · intro h
      exact absurd h.symm (habsent j hj)
    · intro h
      exact absurd h (habsent i hi)
    · exact H.once i hi j hj

/-- **An element goes** when whatever slots hold it are cleared. -/
lemma Holds.clear [DecidableEq α] {tbl' : ℕ → α} (H : Holds n z tbl S)
    (htbl : ∀ k < n, tbl' k = if tbl k = a then z else tbl k) : Holds n z tbl' (S \ {a}) := by
  have hkept : ∀ k < n, tbl' k ≠ z → tbl' k = tbl k ∧ tbl k ≠ a := by
    intro k hk hne
    rw [htbl k hk] at hne ⊢
    split_ifs at hne ⊢ with h
    · exact absurd rfl hne
    · exact ⟨rfl, h⟩
  refine ⟨fun b => ?_, fun j hj k hk heq hne => ?_⟩
  · rw [Set.mem_sdiff, Set.mem_singleton_iff, H.mem_iff]
    constructor
    · rintro ⟨⟨hb, k, hk, rfl⟩, hne⟩
      exact ⟨hb, k, hk, by rw [htbl k hk, if_neg hne]⟩
    · rintro ⟨hb, k, hk, rfl⟩
      obtain ⟨hsame, hne⟩ := hkept k hk hb
      exact ⟨⟨hb, k, hk, hsame.symm⟩, hsame ▸ hne⟩
  · obtain ⟨hj', -⟩ := hkept j hj hne
    obtain ⟨hk', -⟩ := hkept k hk (heq ▸ hne)
    exact H.once j hj k hk (hj'.symm.trans (heq.trans hk')) (hj' ▸ hne)

/-- Clearing the one slot that holds an element. -/
lemma Holds.erase (H : Holds n z tbl S) (hk : k < n) (htbl : tbl k = a) :
    Holds n z (Function.update tbl k z) (S \ {a}) := by
  classical
  refine H.clear fun j hj => ?_
  by_cases hjk : j = k
  · rw [hjk, Function.update_self, if_pos htbl]
  · rw [Function.update_of_ne hjk]
    split_ifs with h
    · by_contra hne
      exact hjk (H.once j hj k hk (h.trans htbl.symm) hne)
    · rfl

/-- **The number of slots in use** is the number of elements. -/
lemma Holds.ncard [DecidableEq α] (H : Holds n z tbl S) : S.ncard = (used n z tbl).card := by
  have hS : S = (used n z tbl).image tbl := by
    ext a
    simp only [Finset.coe_image, Set.mem_image, Finset.mem_coe, used, Finset.mem_filter,
      Finset.mem_range, H.mem_iff]
    constructor
    · rintro ⟨hne, k, hk, rfl⟩
      exact ⟨k, ⟨hk, hne⟩, rfl⟩
    · rintro ⟨k, ⟨hk, hne⟩, rfl⟩
      exact ⟨hne, k, hk, rfl⟩
  rw [hS, Set.ncard_coe_finset, Finset.card_image_of_injOn]
  intro j hj k hk h
  simp only [used, Finset.coe_filter, Finset.mem_range, Set.mem_ofPred_eq] at hj hk
  exact H.once j hj.1 k hk.1 h hj.2

lemma Packed.card [DecidableEq α] (H : Packed n z tbl c) (hc : c ≤ n) :
    (used n z tbl).card = c := by
  have h : used n z tbl = Finset.range c := by
    ext k
    simp only [used, Finset.mem_filter, Finset.mem_range]
    constructor
    · rintro ⟨hk, hne⟩
      exact (H k hk).mp hne
    · intro hk
      exact ⟨hk.trans_le hc, (H k (hk.trans_le hc)).mpr hk⟩
  rw [h, Finset.card_range]

/-- The slot behind those in use is taken. -/
lemma Packed.push (H : Packed n z tbl c) (ha : a ≠ z) :
    Packed n z (Function.update tbl c a) (c + 1) := by
  intro k hk
  by_cases hkc : k = c
  · simp [hkc, ha]
  · rw [Function.update_of_ne hkc, H k hk]
    omega

/-- The last slot in use is cleared. -/
lemma Packed.pop (H : Packed n z tbl (c + 1)) : Packed n z (Function.update tbl c z) c := by
  intro k hk
  by_cases hkc : k = c
  · simp [hkc]
  · rw [Function.update_of_ne hkc, H k hk]
    omega

/-- **The elements whose last event was an addition**, after additions (`true`) and deletions. -/
def added [DecidableEq α] (evts : List (Bool × α)) : Set α :=
  {a | (evts.filter fun e => e.2 = a).getLast? = some (true, a)}

variable [DecidableEq α] {evts : List (Bool × α)}

@[simp] lemma added_nil : added ([] : List (Bool × α)) = ∅ := by
  ext a
  simp [added]

instance : Decidable (a ∈ added evts) :=
  inferInstanceAs (Decidable ((evts.filter fun e => e.2 = a).getLast? = some (true, a)))

lemma added_snoc_true : added (evts ++ [(true, a)]) = insert a (added evts) := by
  ext b
  by_cases h : a = b
  · simp [added, List.filter_append, h]
  · simp [added, List.filter_append, h, Ne.symm h]

lemma added_snoc_false : added (evts ++ [(false, a)]) = added evts \ {a} := by
  ext b
  by_cases h : a = b
  · simp [added, List.filter_append, h]
  · simp [added, List.filter_append, h, Ne.symm h]

end SlotSet
