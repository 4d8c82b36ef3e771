import Mathlib

/-!
# Groups of a list

A list that is printed or sent in groups of at most `k`: each group but the last is full, and in
order they give back the list.

* `groups_of_ne_nil` — the first group and those of the rest.
* `groups_divides` — the groups divide the list.
-/

namespace Groups

variable {α : Type*} {k : ℕ} {l : List α}

/-- The parts give the list in order; each holds from one to `k`, and only the last fewer
than `k`. -/
structure Divides (k : ℕ) (l : List α) (parts : List (List α)) : Prop where
  flatten : parts.flatten = l
  bounds : ∀ part ∈ parts, 1 ≤ part.length ∧ part.length ≤ k
  full : ∀ part ∈ parts.dropLast, part.length = k

/-- The groups of `k`. -/
def groups (k : ℕ) (l : List α) : List (List α) :=
  (List.range (l.length ⌈/⌉ k)).map fun i => (l.drop (k * i)).take k

@[simp] lemma length_groups : (groups k l).length = l.length ⌈/⌉ k := by
  simp [groups]

lemma groups_nil : groups k ([] : List α) = [] := by
  simp [groups]

lemma ceilDiv_drop (hk : 0 < k) (hl : l ≠ []) :
    l.length ⌈/⌉ k = (l.drop k).length ⌈/⌉ k + 1 := by
  have hpos := List.length_pos_iff.mpr hl
  rw [List.length_drop, Nat.ceilDiv_eq_add_pred_div, Nat.ceilDiv_eq_add_pred_div]
  rcases Nat.le_total k l.length with hle | hle
  · rw [← Nat.add_div_right _ hk]
    congr 1
    omega
  · rw [Nat.sub_eq_zero_of_le hle, Nat.zero_add, Nat.div_eq_of_lt (show k - 1 < k by omega),
      show l.length + k - 1 = l.length - 1 + k by omega, Nat.add_div_right _ hk,
      Nat.div_eq_of_lt (show l.length - 1 < k by omega)]

/-- **The first group, and the groups of the rest.** -/
lemma groups_of_ne_nil (hk : 0 < k) (hl : l ≠ []) :
    groups k l = l.take k :: groups k (l.drop k) := by
  rw [groups, ceilDiv_drop hk hl, List.range_succ_eq_map, List.map_cons, List.map_map, groups]
  congr 1
  refine List.map_congr_left fun i _ => ?_
  rw [Function.comp_apply, List.drop_drop, Nat.mul_succ, Nat.add_comm]

/-- **The groups divide the list.**  By induction on its length, as a group is taken from the
front. -/
lemma groups_divides (hk : 0 < k) (l : List α) : Divides k l (groups k l) := by
  induction hn : l.length using Nat.strong_induction_on generalizing l with
  | _ n ih =>
      by_cases hl : l = []
      · subst hl
        rw [groups_nil]
        exact ⟨rfl, by simp, by simp⟩
      have hpos := List.length_pos_iff.mpr hl
      have hrest := ih (l.drop k).length (by rw [List.length_drop]; omega) (l.drop k) rfl
      rw [groups_of_ne_nil hk hl]
      refine ⟨?_, ?_, ?_⟩
      · rw [List.flatten_cons, hrest.flatten, List.take_append_drop]
      · intro part hpart
        rcases List.mem_cons.mp hpart with rfl | hmem
        · rw [List.length_take]
          omega
        · exact hrest.bounds part hmem
      · intro part hpart
        by_cases hnil : l.drop k = []
        · -- the first group is the last
          rw [hnil, groups_nil] at hpart
          simp at hpart
        · have hlong : k < l.length := by
            have hdrop := List.length_pos_iff.mpr hnil
            rw [List.length_drop] at hdrop
            omega
          have hgroups : groups k (l.drop k) ≠ [] := by
            rw [groups_of_ne_nil hk hnil]
            simp
          rw [List.dropLast_cons_of_ne_nil hgroups] at hpart
          rcases List.mem_cons.mp hpart with rfl | hmem
          · rw [List.length_take]
            omega
          · exact hrest.full part hmem

end Groups
