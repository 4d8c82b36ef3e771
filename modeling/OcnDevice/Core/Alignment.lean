import OcnDevice.Core.SetAlgorithms

/-!
# Set operations on lists that are not sorted

`setIntersection` and `setDifference` walk two lists side by side.  What they match is always a
sequence of common items with only smaller ones in front of each (`aligned_setIntersection`), and a
sequence of that kind is never missed (`Aligned.sublist`).  So both find all that the lists have in
common just if the common items are such a sequence (`setIntersection_eq_filter`,
`setDifference_disjoint`), sorted or not.

Dropping consecutive copies drops all copies just if nothing stands between two copies
(`nodup_destutter_iff`).  On sorted lists `setIntersection` keeps an item as often as both have it
(`count_setIntersection`).
-/

open scoped SetAlgorithms

section Aligned

variable {α : Type*} [LinearOrder α] {a b : α} {as bs cs xs ys : List α}

/-! ## Common items in step -/

/-- **The items of the third list stand in both lists in that order**, and what stands in front of
one of them, behind the one before, is smaller. -/
inductive Aligned : List α → List α → List α → Prop
  | nil {as bs : List α} : Aligned as bs []
  | cons {xs ys as bs cs : List α} {a : α} (hxs : ∀ x ∈ xs, x < a) (hys : ∀ y ∈ ys, y < a)
      (h : Aligned as bs cs) : Aligned (xs ++ a :: as) (ys ++ a :: bs) (a :: cs)

lemma setIntersection_sublist : (setIntersection as bs).Sublist as := by
  induction as generalizing bs with
  | nil => exact List.Sublist.refl _
  | cons a as ih =>
      rw [setIntersection]
      split
      · exact List.nil_sublist _
      · split_ifs
        · exact ih.cons a
        · exact ih.cons_cons a

/-- What is skipped in the second list is smaller. -/
lemma exists_of_dropWhile {rest : List α} (h : bs.dropWhile (· < a) = rest) :
    ∃ ys, bs = ys ++ rest ∧ ∀ y ∈ ys, y < a :=
  ⟨bs.takeWhile (· < a), by rw [← h, List.takeWhile_append_dropWhile],
    fun y hy => by simpa using List.mem_takeWhile_imp hy⟩

/-- The front of an aligned list, and what is in front of the other one, may be more. -/
lemma Aligned.skip (h : Aligned as (b :: bs) cs) (hab : a < b) (hys : ∀ y ∈ ys, y < a) :
    Aligned (a :: as) (ys ++ b :: bs) cs := by
  generalize hb : b :: bs = bs' at h
  cases h with
  | nil => exact .nil
  | @cons xs zs as bs cs c hxs hzs h =>
      have hbc : b ≤ c := by
        cases zs with
        | nil => exact (List.cons.inj hb).1.le
        | cons z zs => exact (List.cons.inj hb).1 ▸ (hzs z List.mem_cons_self).le
      have hac : a < c := hab.trans_le hbc
      rw [← List.append_assoc, ← List.cons_append]
      refine .cons (fun x hx => ?_) (fun y hy => ?_) h
      · exact (List.mem_cons.mp hx).elim (fun hx => hx ▸ hac) (hxs x)
      · exact (List.mem_append.mp hy).elim (fun hy => (hys y hy).trans hac) (hzs y)

/-- **What the walk matches is aligned.** -/
theorem aligned_setIntersection : Aligned as bs (setIntersection as bs) := by
  induction as generalizing bs with
  | nil => exact .nil
  | cons a as ih =>
      rw [setIntersection]
      split
      · exact .nil
      · rename_i b bs' hdrop
        obtain ⟨ys, rfl, hys⟩ := exists_of_dropWhile hdrop
        split_ifs with hab
        · exact ih.skip hab hys
        · obtain rfl := eq_of_dropWhile hdrop hab
          have hxs : ∀ x ∈ [], x < a := by simp
          exact .cons hxs hys ih

/-- The walk stops at the next common item in both lists. -/
lemma setIntersection_append (hxs : ∀ x ∈ xs, x < a) (hys : ∀ y ∈ ys, y < a) :
    setIntersection (xs ++ a :: as) (ys ++ a :: bs) =
      setIntersection xs ys ++ a :: setIntersection as bs := by
  induction xs generalizing ys with
  | nil =>
      have hdrop : (ys ++ a :: bs).dropWhile (· < a) = a :: bs := by
        rw [List.dropWhile_append_of_pos (by simpa using hys)]
        simp
      show setIntersection (a :: as) (ys ++ a :: bs) = a :: setIntersection as bs
      rw [setIntersection, hdrop]
      simp
  | cons x xs ih =>
      have hxa : x < a := hxs x List.mem_cons_self
      have hxs' : ∀ x ∈ xs, x < a := fun z hz => hxs z (List.mem_cons_of_mem _ hz)
      rw [List.cons_append, setIntersection, setIntersection]
      cases hdrop : ys.dropWhile (· < x) with
      | nil =>
          have hall : ∀ y ∈ ys, y < x := by simpa using List.dropWhile_eq_nil_iff.mp hdrop
          have hdrop' : (ys ++ a :: bs).dropWhile (· < x) = a :: bs := by
            rw [List.dropWhile_append_of_pos (by simpa using hall)]
            simp [hxa.not_gt]
          have hnil : setIntersection xs [] = [] := by cases xs <;> rfl
          have hys : ∀ y ∈ [], y < a := by simp
          rw [hdrop']
          simpa [hxa, hnil] using ih hxs' hys
      | cons y ys' =>
          obtain ⟨hy, hys'⟩ := mem_of_dropWhile hdrop
          have hdrop' : (ys ++ a :: bs).dropWhile (· < x) = y :: ys' ++ a :: bs := by
            rw [List.dropWhile_append, hdrop]
            simp
          have hlt : ∀ z ∈ y :: ys', z < a := fun z hz =>
            (List.mem_cons.mp hz).elim (fun h => h ▸ hys y hy) fun h => hys z (hys' h)
          rw [hdrop']
          dsimp only [List.cons_append]
          split_ifs with hxy
          · exact ih hxs' hlt
          · rw [ih hxs' fun z hz => hlt z (List.mem_cons_of_mem _ hz), List.cons_append]

/-- **An aligned sequence is not missed.** -/
theorem Aligned.sublist (h : Aligned as bs cs) : cs.Sublist (setIntersection as bs) := by
  induction h with
  | nil => exact List.nil_sublist _
  | cons hxs hys _ ih =>
      rw [setIntersection_append hxs hys]
      exact (ih.cons_cons _).trans (List.sublist_append_right _ _)

/-- The walk matches only what the lists have in common. -/
lemma setIntersection_sublist_filter :
    (setIntersection as bs).Sublist (as.filter (· ∈ bs)) := by
  have hself : (setIntersection as bs).filter (· ∈ bs) = setIntersection as bs :=
    List.filter_eq_self.mpr fun a ha => decide_eq_true (mem_of_mem_setIntersection ha)
  rw [← hself]
  exact setIntersection_sublist.filter _

/-- **All that the lists have in common is matched** just if it is aligned. -/
theorem setIntersection_eq_filter : setIntersection as bs = as.filter (· ∈ bs) ↔
    Aligned as bs (as.filter (· ∈ bs)) := by
  constructor
  · intro h
    rw [← h]
    exact aligned_setIntersection
  · intro h
    exact setIntersection_sublist_filter.antisymm h.sublist

instance : Decidable (Aligned as bs (as.filter (· ∈ bs))) :=
  decidable_of_iff _ setIntersection_eq_filter

/-- In a list without copies, an item that both lists have is found just if they are aligned. -/
theorem mem_setIntersection_iff (hn : as.Nodup) :
    (∀ a, a ∈ setIntersection as bs ↔ a ∈ as ∧ a ∈ bs) ↔ Aligned as bs (as.filter (· ∈ bs)) := by
  rw [← setIntersection_eq_filter]
  constructor
  · intro h
    have hperm : (setIntersection as bs).Perm (as.filter (· ∈ bs)) :=
      (List.perm_ext_iff_of_nodup (hn.sublist setIntersection_sublist) (hn.filter _)).mpr
        fun a => by rw [h a, List.mem_filter, decide_eq_true_eq]
    exact setIntersection_sublist_filter.eq_of_length hperm.length_eq
  · intro h a
    rw [h, List.mem_filter, decide_eq_true_eq]

/-- The walks of difference and intersection share the first list among them. -/
lemma perm_setDifference_append :
    (setDifference as bs ++ setIntersection as bs).Perm as := by
  induction as generalizing bs with
  | nil => exact List.Perm.refl _
  | cons a as ih =>
      rw [setDifference, setIntersection]
      split
      · simp
      · split_ifs
        · exact ih.cons a
        · exact List.perm_middle.trans (ih.cons a)

/-- **The difference has nothing of the second list** just if the lists are aligned. -/
theorem disjoint_setDifference_iff :
    (∀ a ∈ setDifference as bs, a ∉ bs) ↔ Aligned as bs (as.filter (· ∈ bs)) := by
  have hsplit : ((setDifference as bs).filter (· ∈ bs) ++ setIntersection as bs).Perm
      (as.filter (· ∈ bs)) := by
    have hself : (setIntersection as bs).filter (· ∈ bs) = setIntersection as bs :=
      List.filter_eq_self.mpr fun a ha => decide_eq_true (mem_of_mem_setIntersection ha)
    have hperm : (setDifference as bs ++ setIntersection as bs).Perm as :=
      perm_setDifference_append
    have hfilter := hperm.filter (· ∈ bs)
    rwa [List.filter_append, hself] at hfilter
  have hnil : (∀ a ∈ setDifference as bs, a ∉ bs) ↔ (setDifference as bs).filter (· ∈ bs) = [] := by
    simp [List.filter_eq_nil_iff]
  rw [← setIntersection_eq_filter, hnil]
  constructor
  · intro h
    rw [h, List.nil_append] at hsplit
    exact setIntersection_sublist_filter.eq_of_length hsplit.length_eq
  · intro h
    have hlen := hsplit.length_eq
    rw [List.length_append, h] at hlen
    exact List.eq_nil_of_length_eq_zero (by omega)

/-- What the second list lacks is never lost from the difference. -/
lemma mem_setDifference_of_not_mem (ha : a ∈ as) (hb : a ∉ bs) : a ∈ setDifference as bs :=
  (List.mem_append.mp (perm_setDifference_append.mem_iff.mpr ha)).resolve_right
    fun h => hb (mem_of_mem_setIntersection h)

end Aligned

/-! ## Copies next to one another -/

section Together

variable {α : Type*} {a b : α} {l xs ys : List α}

/-- **Nothing stands between two copies** of an item. -/
def Together (l : List α) : Prop := ∀ a b, [a, b, a].Sublist l → b = a

lemma Together.of_nodup (h : l.Nodup) : Together l := by
  intro a b hsub
  have h3 := h.sublist hsub
  simp at h3

lemma Together.tail (h : Together (a :: l)) : Together l := fun x y hsub => h x y (hsub.cons a)

/-- A sorted list has its copies together. -/
lemma Together.of_sorted [LinearOrder α] (h : l.Pairwise (· ≤ ·)) : Together l := by
  intro a b hsub
  have h3 := h.sublist hsub
  simp only [List.pairwise_cons, List.mem_cons, List.not_mem_nil, or_false] at h3
  exact le_antisymm (h3.2.1 a rfl) (h3.1 b (Or.inl rfl))

/-- Lists without a common item, one behind the other. -/
lemma Together.append (hxs : Together xs) (hys : Together ys) (hd : ∀ a ∈ xs, a ∉ ys) :
    Together (xs ++ ys) := by
  intro a b hsub
  obtain ⟨l₁, l₂, heq, h₁, h₂⟩ := List.sublist_append_iff.mp hsub
  match l₁ with
  | [] => exact hys a b (heq ▸ h₂)
  | [_] =>
      obtain ⟨rfl, rfl⟩ := List.cons.inj heq
      exact absurd (h₂.subset (by simp)) (hd a (h₁.subset (by simp)))
  | [_, _] =>
      simp only [List.cons_append, List.nil_append, List.cons.injEq] at heq
      obtain ⟨rfl, rfl, rfl⟩ := heq
      exact absurd (h₂.subset (by simp)) (hd a (h₁.subset (by simp)))
  | _ :: _ :: _ :: l₁ =>
      simp only [List.cons_append, List.cons.injEq] at heq
      obtain ⟨rfl, rfl, rfl, heq⟩ := heq
      obtain ⟨rfl, -⟩ := List.append_eq_nil_iff.mp heq.symm
      exact hxs _ _ h₁

variable [DecidableEq α]

/-- **Dropping consecutive copies drops all copies** just if they are together. -/
theorem nodup_destutter_iff : (l.destutter (· ≠ ·)).Nodup ↔ Together l := by
  induction l with
  | nil => simp [Together]
  | cons a l ih =>
      cases l with
      | nil =>
          simp [Together]
      | cons b l =>
          rw [List.destutter_cons_cons]
          split_ifs with hab
          · rw [← List.destutter_cons', List.nodup_cons, ih, mem_destutter_ne]
            constructor
            · rintro ⟨hnot, h⟩ x y hsub
              rcases List.sublist_cons_iff.mp hsub with hsub | ⟨r, hr, hsub⟩
              · exact h x y hsub
              · obtain ⟨rfl, rfl⟩ := List.cons.inj hr
                exact absurd (hsub.subset (by simp)) hnot
            · intro h
              refine ⟨fun ha => ?_, h.tail⟩
              have hal : a ∈ l := (List.mem_cons.mp ha).resolve_left hab
              exact hab (h a b (((List.singleton_sublist.mpr hal).cons_cons b).cons_cons a)).symm
          · obtain rfl := not_not.mp hab
            rw [← List.destutter_cons', ih]
            refine ⟨fun h x y hsub => ?_, Together.tail⟩
            rcases List.sublist_cons_iff.mp hsub with hsub | ⟨r, hr, hsub⟩
            · exact h x y hsub
            · obtain ⟨rfl, rfl⟩ := List.cons.inj hr
              rcases List.sublist_cons_iff.mp hsub with hsub | ⟨r, hr, -⟩
              · exact h x y (hsub.cons_cons x)
              · exact (List.cons.inj hr).1

end Together

/-! ## Merging keeps copies together -/

section Merge

variable {α : Type*} [LinearOrder α] {a b : α} {as bs : List α}

/-- What is left of a sorted list is not smaller. -/
lemma le_of_mem_dropWhile (hs : bs.Pairwise (· ≤ ·)) (hb : b ∈ bs.dropWhile (· < a)) : a ≤ b := by
  have hleft := hs.sublist (List.dropWhile_sublist (· < a))
  cases hdrop : bs.dropWhile (· < a) with
  | nil => rw [hdrop] at hb; exact absurd hb List.not_mem_nil
  | cons d ds =>
      have hd : ¬d < a := by
        have hhead := List.head_dropWhile_not (l := bs) (fun x => decide (x < a)) (by simp [hdrop])
        simpa [hdrop] using hhead
      rw [hdrop] at hb hleft
      rcases List.mem_cons.mp hb with rfl | hb
      · exact not_lt.mp hd
      · exact (not_lt.mp hd).trans ((List.pairwise_cons.mp hleft).1 b hb)

lemma together_mergeInto (hn : as.Nodup) (hs : bs.Pairwise (· ≤ ·)) (hd : ∀ b ∈ bs, b ∉ as) :
    Together (mergeInto as bs) := by
  induction as generalizing bs with
  | nil => exact .of_sorted hs
  | cons a as ih =>
      obtain ⟨ha, hn⟩ := List.nodup_cons.mp hn
      have hsub : (bs.dropWhile (· < a)).Sublist bs := List.dropWhile_sublist _
      have hout : ∀ b ∈ bs, b ≠ a ∧ b ∉ as := fun b hb => by
        simpa [not_or] using hd b hb
      have hrest : Together (mergeInto as (bs.dropWhile (· < a))) :=
        ih hn (hs.sublist hsub) fun b hb => (hout b (hsub.subset hb)).2
      have htail : Together (a :: mergeInto as (bs.dropWhile (· < a))) := by
        have hone : Together [a] := .of_nodup (by simp)
        refine hone.append hrest fun x hx => ?_
        obtain rfl := List.mem_singleton.mp hx
        rw [mem_mergeInto, not_or]
        exact ⟨ha, fun hx => (hout x (hsub.subset hx)).1 rfl⟩
      have hskip := Together.of_sorted (hs.sublist (List.takeWhile_sublist (· < a)))
      refine hskip.append htail fun x hx => ?_
      have hxa : x < a := by simpa using List.mem_takeWhile_imp hx
      have hxb : x ∈ bs := (List.takeWhile_sublist _).subset hx
      rw [List.mem_cons, mem_mergeInto, not_or, not_or]
      exact ⟨hxa.ne, (hout x hxb).2, fun hx => (le_of_mem_dropWhile hs hx).not_gt hxa⟩

/-- **Merging new items into a list without copies** leaves it without copies. -/
theorem nodup_sortMerge (hn : as.Nodup) (hd : ∀ b ∈ bs, b ∉ as) : (sortMerge as bs).Nodup :=
  nodup_destutter_iff.mpr (together_mergeInto hn (List.pairwise_insertionSort (· ≤ ·) bs)
    fun b hb => hd b ((List.mem_insertionSort (· ≤ ·)).mp hb))

end Merge

/-! ## Copies in sorted lists -/

section Copies

variable {α : Type*} [LinearOrder α] {a b : α} {as bs : List α}

/-- What is smaller than the front of a sorted list is not in it. -/
lemma count_eq_zero_of_lt (ha : (a :: as).Pairwise (· ≤ ·)) (hba : b < a) :
    (a :: as).count b = 0 := by
  refine List.count_eq_zero.mpr fun hmem => ?_
  rcases List.mem_cons.mp hmem with rfl | hmem
  · exact lt_irrefl _ hba
  · exact hba.not_ge (List.rel_of_pairwise_cons ha hmem)

lemma count_dropWhile (hab : a ≤ b) : (bs.dropWhile (· < a)).count b = bs.count b := by
  have hsplit : (bs.takeWhile (· < a) ++ bs.dropWhile (· < a)).count b = bs.count b := by
    rw [List.takeWhile_append_dropWhile]
  rw [List.count_append] at hsplit
  have hskip : (bs.takeWhile (· < a)).count b = 0 := by
    refine List.count_eq_zero.mpr fun hb => ?_
    have hlt : b < a := by simpa using List.mem_takeWhile_imp hb
    exact hab.not_gt hlt
  omega

/-- **On sorted lists an item is kept as often as both have it.** -/
theorem count_setIntersection (ha : as.Pairwise (· ≤ ·)) (hb : bs.Pairwise (· ≤ ·)) :
    (setIntersection as bs).count b = min (as.count b) (bs.count b) := by
  induction as generalizing bs with
  | nil => simp [setIntersection]
  | cons a as ih =>
      have htail := ha.of_cons
      have hdrop : (bs.dropWhile (· < a)).Pairwise (· ≤ ·) := hb.sublist (List.dropWhile_sublist _)
      rcases lt_or_ge b a with hba | hab
      · have hsub : (setIntersection (a :: as) bs).Sublist (a :: as) := setIntersection_sublist
        have hle := hsub.count_le b
        have h0 := count_eq_zero_of_lt ha hba
        omega
      · have hkept : (bs.dropWhile (· < a)).count b = bs.count b := count_dropWhile hab
        rw [← hkept, setIntersection]
        split
        · rename_i hnil
          rw [hnil, List.count_nil, Nat.min_zero]
        · rename_i c rest hrest
          rw [hrest] at hdrop ⊢
          split_ifs with hac
          · rw [ih htail hdrop]
            rcases hab.eq_or_lt with rfl | hlt
            · rw [count_eq_zero_of_lt hdrop hac, Nat.min_zero, Nat.min_zero]
            · rw [List.count_cons_of_ne hlt.ne]
          · obtain rfl := eq_of_dropWhile hrest hac
            rw [List.count_cons, List.count_cons, List.count_cons, ih htail hdrop.of_cons]
            omega

end Copies
