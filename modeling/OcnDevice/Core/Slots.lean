import OcnDevice.Core.HandleTable

/-!
# Slots for handles

A client that installs many things in a `HandleTable` has a slot for the handle of each.  What it
knows is `known S H A`: the slots of `S` are in use, the handles in them are `H`, and what is
installed under them is `A`.

Loops that install, remove or change the things of a list of slots rewrite an equation
`t.entries = R + known S H A`, slot by slot (`entries_installAll`, `entries_removeAll`,
`entries_modifyAll`).  They never name a handle in vain.
-/

namespace HandleTable

open Finset

variable {α ι : Type*} [DecidableEq ι]

/-- What is installed under the handles of some slots. -/
def known (S : Finset ι) (H : ι → ℕ) (A : ι → α) : Multiset (ℕ × α) := ∑ x ∈ S, {(H x, A x)}

/-- Install something for each slot of a list, and keep the handles. -/
def installAll (pick : ι → ℕ) (A : ι → α) :
    List ι → (ι → ℕ) → HandleTable α → (ι → ℕ) × HandleTable α
  | [], H, t => (H, t)
  | x :: l, H, t =>
      installAll pick A l (Function.update H x (t.fresh (pick x))) (t.add (pick x) (A x))

/-- Remove what is installed for each slot of a list. -/
def removeAll (H : ι → ℕ) : List ι → HandleTable α → HandleTable α
  | [], t => t
  | x :: l, t => removeAll H l (t.del (H x))

/-- Change what is installed for each slot of a list. -/
def modifyAll (H : ι → ℕ) (f : ι → α → α) : List ι → HandleTable α → HandleTable α
  | [], t => t
  | x :: l, t => modifyAll H f l (t.modify (H x) (f x))

variable {S : Finset ι} {H H' : ι → ℕ} {A B : ι → α} {R : Multiset (ℕ × α)} {t : HandleTable α}
  {l : List ι} {x : ι} {pick : ι → ℕ} {f : ι → α → α}

omit [DecidableEq ι] in
lemma known_congr (hH : ∀ x ∈ S, H x = H' x) (hA : ∀ x ∈ S, A x = B x) :
    known S H A = known S H' B :=
  sum_congr rfl fun x hx => by rw [hH x hx, hA x hx]

omit [DecidableEq ι] in
@[simp] lemma known_empty : known ∅ H A = 0 := sum_empty

lemma known_insert (hx : x ∉ S) : known (insert x S) H A = known S H A + {(H x, A x)} := by
  rw [known, sum_insert hx, add_comm]
  rfl

lemma known_erase (hx : x ∈ S) : known S H A = known (S.erase x) H A + {(H x, A x)} :=
  (sum_erase_add _ _ hx).symm

omit [DecidableEq ι] in
lemma known_eq_map : known S H A = S.val.map fun x => (H x, A x) := by
  have h := Multiset.sum_map_singleton (S.val.map fun x => (H x, A x))
  rwa [Multiset.map_map] at h

omit [DecidableEq ι] in
/-- The handles of some slots. -/
lemma map_fst_known : (known S H A).map Prod.fst = S.val.map H := by
  rw [known_eq_map, Multiset.map_map]
  rfl

/-- What is known of the slots of a list. -/
lemma known_toFinset (hl : l.Nodup) :
    known l.toFinset H A = (l.map fun x => (H x, A x) : List (ℕ × α)) := by
  rw [known_eq_map, List.toFinset_val, hl.dedup, Multiset.map_coe]

omit [DecidableEq ι] in
lemma mem_known {e : ℕ × α} : e ∈ known S H A ↔ ∃ x ∈ S, e = (H x, A x) := by
  simp [known, Multiset.mem_sum]

/-- **A list of slots is filled.** -/
theorem entries_installAll (pick : ι → ℕ) (A : ι → α) (ht : t.entries = R + known S H B)
    (hl : l.Nodup) (hS : ∀ x ∈ l, x ∉ S) :
    (installAll pick A l H t).2.entries = R + known (S ∪ l.toFinset) (installAll pick A l H t).1
        (fun x => if x ∈ l then A x else B x) ∧
      (∀ x ∉ l, (installAll pick A l H t).1 x = H x) ∧
      (installAll pick A l H t).2.misses = t.misses := by
  induction l generalizing S H B t with
  | nil => exact ⟨by simpa [installAll] using ht, fun _ _ => rfl, rfl⟩
  | cons x l ih =>
      obtain ⟨hxl, hl⟩ := List.nodup_cons.mp hl
      have hxS : x ∉ S := hS x List.mem_cons_self
      have hkeep : known S (Function.update H x (t.fresh (pick x)))
          (fun y => if y = x then A x else B y) = known S H B := by
        have hne : ∀ y ∈ S, y ≠ x := fun y hy h => hxS (h ▸ hy)
        exact known_congr (fun y hy => Function.update_of_ne (hne y hy) _ _)
          fun y hy => if_neg (hne y hy)
      have hadd : (t.add (pick x) (A x)).entries = R + known (insert x S)
          (Function.update H x (t.fresh (pick x))) (fun y => if y = x then A x else B y) := by
        rw [entries_add, ht, known_insert hxS, hkeep, Function.update_self, if_pos rfl, add_assoc]
      obtain ⟨hent, hother, hmiss⟩ := ih hadd hl fun y hy => by
        rw [mem_insert, not_or]
        exact ⟨fun h => hxl (h ▸ hy), hS y (List.mem_cons_of_mem _ hy)⟩
      refine ⟨?_, fun y hy => ?_, hmiss.trans misses_add⟩
      · have hset : S ∪ (x :: l).toFinset = insert x S ∪ l.toFinset := by
          ext y
          simp only [List.toFinset_cons, mem_union, mem_insert]
          tauto
        rw [installAll, hent, hset]
        congr 1
        refine known_congr (fun _ _ => rfl) fun y _ => ?_
        by_cases hyl : y ∈ l
        · rw [if_pos hyl, if_pos (List.mem_cons_of_mem _ hyl)]
        · by_cases hyx : y = x
          · rw [if_neg hyl, if_pos hyx, if_pos (hyx ▸ List.mem_cons_self), hyx]
          · rw [if_neg hyl, if_neg hyx, if_neg (by simp [hyl, hyx])]
      · rw [List.mem_cons, not_or] at hy
        rw [installAll, hother y hy.2, Function.update_of_ne hy.1]

/-- **A list of slots is emptied.** -/
theorem entries_removeAll (ht : t.entries = R + known S H A) (hl : l.Nodup)
    (hS : ∀ x ∈ l, x ∈ S) :
    (removeAll H l t).entries = R + known (S \ l.toFinset) H A ∧
      (removeAll H l t).misses = t.misses := by
  induction l generalizing S t with
  | nil => exact ⟨by simpa [removeAll] using ht, rfl⟩
  | cons x l ih =>
      obtain ⟨hxl, hl⟩ := List.nodup_cons.mp hl
      have hxS : x ∈ S := hS x List.mem_cons_self
      rw [known_erase hxS, ← add_assoc] at ht
      obtain ⟨hent, hmiss⟩ := ih (entries_del ht) hl fun y hy =>
        mem_erase.mpr ⟨fun h => hxl (h ▸ hy), hS y (List.mem_cons_of_mem _ hy)⟩
      have hset : S \ (x :: l).toFinset = S.erase x \ l.toFinset := by
        ext y
        simp only [List.toFinset_cons, mem_sdiff, mem_insert, mem_erase]
        tauto
      exact ⟨by rw [removeAll, hent, hset], hmiss.trans (misses_del ht)⟩

lemma misses_modify {h : ℕ} {a : α} {g : α → α} (ht : t.entries = R + {(h, a)}) :
    (t.modify h g).misses = t.misses := by
  rw [modify, if_pos (mem_handles ht)]

/-- **A list of slots is changed.** -/
theorem entries_modifyAll (ht : t.entries = R + known S H A) (hl : l.Nodup)
    (hS : ∀ x ∈ l, x ∈ S) :
    (modifyAll H f l t).entries = R + known S H (fun x => if x ∈ l then f x (A x) else A x) ∧
      (modifyAll H f l t).misses = t.misses := by
  induction l generalizing A t with
  | nil => exact ⟨by simpa [modifyAll] using ht, rfl⟩
  | cons x l ih =>
      obtain ⟨hxl, hl⟩ := List.nodup_cons.mp hl
      have hxS : x ∈ S := hS x List.mem_cons_self
      rw [known_erase hxS, ← add_assoc] at ht
      have hmod : (t.modify (H x) (f x)).entries =
          R + known S H (fun y => if y = x then f x (A x) else A y) := by
        have hkeep : known (S.erase x) H (fun y => if y = x then f x (A x) else A y) =
            known (S.erase x) H A :=
          known_congr (fun _ _ => rfl) fun y hy => if_neg (ne_of_mem_erase hy)
        rw [entries_modify ht, known_erase hxS, hkeep, if_pos rfl, add_assoc]
      obtain ⟨hent, hmiss⟩ := ih hmod hl fun y hy => hS y (List.mem_cons_of_mem _ hy)
      refine ⟨?_, hmiss.trans (misses_modify ht)⟩
      rw [modifyAll, hent]
      congr 1
      refine known_congr (fun _ _ => rfl) fun y _ => ?_
      by_cases hyx : y = x
      · rw [if_neg (hyx ▸ hxl), if_pos hyx, if_pos (hyx ▸ List.mem_cons_self), hyx]
      · by_cases hyl : y ∈ l
        · rw [if_pos hyl, if_neg hyx, if_pos (List.mem_cons_of_mem _ hyl)]
        · rw [if_neg hyl, if_neg hyx, if_neg (by simp [hyl, hyx])]

end HandleTable
