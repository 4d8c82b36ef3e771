import OcnDevice.Core.Loop

/-!
# Tables of handles

A driver that installs something for its client returns a handle, and the client names it by that
handle when it wants it changed or removed.  `HandleTable` is what the driver keeps: what is
installed, each thing under a handle of its own that is not zero, and how often the client named a
handle under which nothing is installed.

What a client should know about its handles is an equation `t.entries = R + M`: it keeps the handles
of `M`, and the rest is installed by others.  The operations rewrite such equations
(`entries_add`, `entries_del`, `entries_modify`), one entry at a time or, with `∑ k ∈ range n`, a
whole array of handles at a time.
-/

/-- What is installed, under which handles, and how often a handle was named in vain. -/
@[ext] structure HandleTable (α : Type*) where
  entries : Multiset (ℕ × α)
  misses : ℕ
  nodup : (entries.map Prod.fst).Nodup
  pos : ∀ e ∈ entries, e.1 ≠ 0

namespace HandleTable

open Finset

variable {α : Type*} {t : HandleTable α} {R M : Multiset (ℕ × α)} {h k n pick : ℕ} {a b : α}
  {f : α → α}

/-- Nothing is installed. -/
def empty : HandleTable α := ⟨0, 0, by simp, by simp⟩

/-- The handles in use. -/
def handles (t : HandleTable α) : Multiset ℕ := t.entries.map Prod.fst

/-- The handle that the driver returns next: `pick` if it is free, which it may choose. -/
def fresh (t : HandleTable α) (pick : ℕ) : ℕ :=
  if pick ≠ 0 ∧ pick ∉ t.handles then pick else t.handles.fold max 0 + 1

lemma le_fold_max {s : Multiset ℕ} (hh : h ∈ s) : h ≤ s.fold max 0 := by
  induction s using Multiset.induction_on with
  | empty => simp at hh
  | cons k s ih =>
      rw [Multiset.fold_cons_left]
      rcases Multiset.mem_cons.mp hh with rfl | hh
      · exact le_max_left _ _
      · exact (ih hh).trans (le_max_right _ _)

lemma fresh_not_mem (t : HandleTable α) (pick : ℕ) : t.fresh pick ∉ t.handles := by
  rw [fresh]
  split_ifs with hp
  · exact hp.2
  · intro hmem
    exact absurd (le_fold_max hmem) (by omega)

lemma fresh_ne_zero (t : HandleTable α) (pick : ℕ) : t.fresh pick ≠ 0 := by
  rw [fresh]
  split_ifs with hp
  · exact hp.1
  · exact Nat.succ_ne_zero _

/-- Install something under the handle `t.fresh pick`. -/
def add (t : HandleTable α) (pick : ℕ) (a : α) : HandleTable α where
  entries := t.entries + {(t.fresh pick, a)}
  misses := t.misses
  nodup := by
    rw [Multiset.map_add, Multiset.map_singleton, Multiset.add_comm, Multiset.singleton_add]
    exact Multiset.nodup_cons.mpr ⟨t.fresh_not_mem pick, t.nodup⟩
  pos := by
    intro e he
    rcases Multiset.mem_add.mp he with he | he
    · exact t.pos e he
    · rw [Multiset.mem_singleton.mp he]
      exact t.fresh_ne_zero pick

/-- Remove what is installed under a handle. -/
def del (t : HandleTable α) (h : ℕ) : HandleTable α :=
  if h ∈ t.handles then
    { entries := t.entries.filter fun e => e.1 ≠ h
      misses := t.misses
      nodup := Multiset.nodup_of_le (Multiset.map_le_map (Multiset.filter_le _ _)) t.nodup
      pos := fun e he => t.pos e (Multiset.mem_of_mem_filter he) }
  else { t with misses := t.misses + 1 }

/-- Change what is installed under a handle. -/
def modify (t : HandleTable α) (h : ℕ) (f : α → α) : HandleTable α :=
  if h ∈ t.handles then
    { entries := t.entries.map fun e => if e.1 = h then (h, f e.2) else e
      misses := t.misses
      nodup := by
        have hkeys : (t.entries.map fun e => if e.1 = h then (h, f e.2) else e).map Prod.fst =
            t.entries.map Prod.fst := by
          rw [Multiset.map_map]
          refine Multiset.map_congr rfl fun e _ => ?_
          by_cases he : e.1 = h <;> simp [he]
        rw [hkeys]
        exact t.nodup
      pos := by
        intro e he
        obtain ⟨e', he', rfl⟩ := Multiset.mem_map.mp he
        split_ifs with hk
        · exact hk ▸ t.pos e' he'
        · exact t.pos e' he' }
  else { t with misses := t.misses + 1 }

/-! ## One entry -/

@[simp] lemma entries_add : (t.add pick a).entries = t.entries + {(t.fresh pick, a)} := rfl

@[simp] lemma misses_add : (t.add pick a).misses = t.misses := rfl

lemma mem_handles (ht : t.entries = R + {(h, a)}) : h ∈ t.handles := by
  simp [handles, ht]

/-- There is one thing under a handle. -/
lemma eq_of_mem (ha : (h, a) ∈ t.entries) (hb : (h, b) ∈ t.entries) : a = b :=
  congrArg Prod.snd (Multiset.inj_on_of_nodup_map t.nodup _ ha _ hb rfl)

/-- The other entries have other handles. -/
lemma ne_of_entries (ht : t.entries = R + {(h, a)}) : ∀ e ∈ R, e.1 ≠ h := by
  intro e he heq
  have hnd := t.nodup
  rw [ht, Multiset.map_add, Multiset.map_singleton, Multiset.add_comm, Multiset.singleton_add,
    Multiset.nodup_cons] at hnd
  exact hnd.1 (Multiset.mem_map.mpr ⟨e, he, heq⟩)

/-- **An entry is removed.** -/
lemma entries_del (ht : t.entries = R + {(h, a)}) : (t.del h).entries = R := by
  rw [del, if_pos (mem_handles ht)]
  change t.entries.filter _ = R
  rw [ht, Multiset.filter_add, Multiset.filter_eq_self.mpr (ne_of_entries ht),
    Multiset.filter_singleton, if_neg (by simp)]
  simp

/-- The handles of a table with one thing more. -/
lemma handles_add : (t.add pick a).handles = t.handles + {t.fresh pick} := by
  rw [handles, entries_add, Multiset.map_add, Multiset.map_singleton]
  rfl

/-- **A handle is removed.** -/
lemma handles_del {H : Multiset ℕ} (ht : t.handles = H + {h}) : (t.del h).handles = H := by
  have hmem : h ∈ t.handles := by
    rw [ht]
    simp
  obtain ⟨e, he, rfl⟩ := Multiset.mem_map.mp hmem
  obtain ⟨R, hR⟩ := Multiset.exists_cons_of_mem he
  have hentries : t.entries = R + {(e.1, e.2)} := by
    rw [hR, ← Multiset.singleton_add, add_comm]
  rw [handles, entries_del hentries]
  rw [handles, hentries, Multiset.map_add, Multiset.map_singleton] at ht
  exact add_right_cancel ht

lemma misses_del (ht : t.entries = R + {(h, a)}) : (t.del h).misses = t.misses := by
  rw [del, if_pos (mem_handles ht)]

/-- **An entry is changed.** -/
lemma entries_modify (ht : t.entries = R + {(h, a)}) :
    (t.modify h f).entries = R + {(h, f a)} := by
  rw [modify, if_pos (mem_handles ht)]
  change t.entries.map _ = _
  have hR : R.map (fun e => if e.1 = h then (h, f e.2) else e) = R := by
    conv_rhs => rw [← Multiset.map_id R]
    refine Multiset.map_congr rfl fun e he => ?_
    rw [if_neg (ne_of_entries ht e he), id]
  rw [ht, Multiset.map_add, hR]
  simp

/-! ## Arrays of handles -/

section Arrays

variable {H : ℕ → ℕ} {A : ℕ → α}

/-- The `k`-th entry of an array, and the others. -/
lemma sum_split (hk : k < n) : ∑ j ∈ range n, ({(H j, A j)} : Multiset (ℕ × α)) =
    ∑ j ∈ (range n).erase k, {(H j, A j)} + {(H k, A k)} :=
  (sum_erase_add _ _ (mem_range.mpr hk)).symm

/-- **The entry of one handle of an array is changed.** -/
lemma entries_modify_array (ht : t.entries = R + ∑ j ∈ range n, {(H j, A j)}) (hk : k < n) :
    (t.modify (H k) f).entries =
      R + ∑ j ∈ range n, {(H j, if j = k then f (A j) else A j)} := by
  rw [sum_split hk, ← add_assoc] at ht
  rw [entries_modify ht, sum_split hk, if_pos rfl, ← add_assoc]
  congr 2
  refine sum_congr rfl fun j hj => ?_
  rw [if_neg (ne_of_mem_erase hj)]

end Arrays

end HandleTable
