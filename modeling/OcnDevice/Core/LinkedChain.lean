import Mathlib

/-!
# Doubly linked chains through an array of cells

A chain starts at a cell `b` and follows `next` until it meets `nil`; every cell it visits names
its predecessor in `prev`.  `Linked next prev nil b l` says that the cells visited after `b` are
exactly `l`, in this order.  Nothing here depends on what a cell stores: `next` and `prev` are
plain functions, and an operation on the store is described by how the new functions differ from
the old ones.

The three facts a client needs are the frame rule (`Linked.congr`), appending a cell behind the
last one (`Linked.snoc`), and taking a cell out of the middle (`Linked.unlink`).  Taking out the
first cell behind `b` and taking out the last one are the same rule, with an empty front or an
empty back.
-/

namespace Chain

variable {ι : Type*}

/-- Following `next` from `b` visits exactly the cells `l` and then reaches `nil`, and every
visited cell names the one before it in `prev`. -/
def Linked (next prev : ι → ι) (nil : ι) : ι → List ι → Prop
  | b, [] => next b = nil
  | b, x :: l => next b = x ∧ prev x = b ∧ x ≠ nil ∧ Linked next prev nil x l

/-- The last cell of the chain `l` behind `b`: `b` itself when there is none. -/
def lastOf : ι → List ι → ι
  | b, [] => b
  | _, x :: l => lastOf x l

variable {next prev next' prev' : ι → ι} {nil b x : ι} {l l₁ l₂ : List ι}

@[simp] lemma linked_nil : Linked next prev nil b [] ↔ next b = nil := Iff.rfl

@[simp] lemma linked_cons :
    Linked next prev nil b (x :: l)
      ↔ next b = x ∧ prev x = b ∧ x ≠ nil ∧ Linked next prev nil x l := Iff.rfl

@[simp] lemma lastOf_nil : lastOf b ([] : List ι) = b := rfl

@[simp] lemma lastOf_cons : lastOf b (x :: l) = lastOf x l := rfl

lemma lastOf_mem : ∀ (b : ι) (l : List ι), lastOf b l ∈ b :: l
  | b, [] => by simp
  | b, x :: l => List.mem_cons_of_mem b (lastOf_mem x l)

@[simp] lemma lastOf_snoc : ∀ (b : ι) (l : List ι), lastOf b (l ++ [x]) = x
  | _, [] => rfl
  | _, y :: l => lastOf_snoc y l

/-- The last cell is `b` itself or lies on the chain. -/
lemma lastOf_eq_or_mem (b : ι) (l : List ι) : lastOf b l = b ∨ lastOf b l ∈ l :=
  List.mem_cons.mp (lastOf_mem b l)

/-- **Frame rule.**  A chain only depends on `next` at the cells it leaves and on `prev` at the
cells it enters. -/
theorem Linked.congr (h : Linked next prev nil b l)
    (hn : ∀ y, y = b ∨ y ∈ l → next' y = next y) (hp : ∀ y ∈ l, prev' y = prev y) :
    Linked next' prev' nil b l := by
  induction l generalizing b with
  | nil => simpa [hn b (Or.inl rfl)] using h
  | cons x l ih =>
      obtain ⟨h1, h2, h3, h4⟩ := h
      refine ⟨by rw [hn b (Or.inl rfl), h1], by rw [hp x (by simp), h2], h3, ih h4 ?_ ?_⟩
      · rintro y (rfl | hy)
        · exact hn y (by simp)
        · exact hn y (by simp [hy])
      · exact fun y hy => hp y (by simp [hy])

/-- The chain behind a cell is determined by `next`. -/
theorem Linked.unique (h : Linked next prev nil b l) (h' : Linked next prev' nil b l₁) :
    l = l₁ := by
  induction l generalizing b l₁ with
  | nil =>
      cases l₁ with
      | nil => rfl
      | cons y l₁ => exact absurd (h'.1.symm.trans h) h'.2.2.1
  | cons x l ih =>
      cases l₁ with
      | nil => exact absurd (h.1.symm.trans h') h.2.2.1
      | cons y l₁ =>
          obtain rfl : x = y := h.1.symm.trans h'.1
          rw [ih h.2.2.2 h'.2.2.2]

lemma Linked.ne_nil (h : Linked next prev nil b l) : ∀ y ∈ l, y ≠ nil := by
  induction l generalizing b with
  | nil => simp
  | cons x l ih =>
      rintro y hy
      rcases List.mem_cons.mp hy with rfl | hy
      · exact h.2.2.1
      · exact ih h.2.2.2 y hy

/-- The last cell of a chain points to `nil`. -/
lemma Linked.next_last (h : Linked next prev nil b l) : next (lastOf b l) = nil := by
  induction l generalizing b with
  | nil => exact h
  | cons x l ih => exact ih h.2.2.2

/-- A chain is empty exactly when its first link is `nil`. -/
lemma Linked.eq_nil_iff (h : Linked next prev nil b l) : l = [] ↔ next b = nil := by
  cases l with
  | nil => simpa using h
  | cons x l => simpa [h.1] using h.2.2.1

/-- The successor of a cell of the chain is `nil` or comes later on the chain. -/
lemma Linked.next_nil_or_mem (h : Linked next prev nil b (l₁ ++ x :: l₂)) :
    next x = nil ∨ next x ∈ l₂ := by
  induction l₁ generalizing b with
  | nil =>
      cases l₂ with
      | nil => exact Or.inl h.2.2.2
      | cons z l₂ => exact Or.inr (by simp [h.2.2.2.1])
  | cons z l₁ ih => exact ih h.2.2.2

/-- The predecessor of a cell of the chain is the last cell of the front before it. -/
lemma Linked.prev_eq (h : Linked next prev nil b (l₁ ++ x :: l₂)) : prev x = lastOf b l₁ := by
  induction l₁ generalizing b with
  | nil => exact h.2.1
  | cons z l₁ ih => exact ih h.2.2.2

/-- **Appending a cell.**  Let `x` become the successor of the last cell, with `nil` behind it and
the last cell in its `prev`; if nothing else on the chain changes, `x` joins the chain at its
end. -/
theorem Linked.snoc (h : Linked next prev nil b l) (hd : (b :: l).Nodup) (hx : x ≠ nil)
    (hlast : next' (lastOf b l) = x) (hend : next' x = nil) (hback : prev' x = lastOf b l)
    (hn : ∀ y, y = b ∨ y ∈ l → y ≠ lastOf b l → next' y = next y)
    (hp : ∀ y ∈ l, prev' y = prev y) :
    Linked next' prev' nil b (l ++ [x]) := by
  induction l generalizing b with
  | nil => exact ⟨hlast, hback, hx, hend⟩
  | cons z l ih =>
      rw [lastOf_cons] at hlast hback hn
      obtain ⟨h1, h2, h3, h4⟩ := h
      obtain ⟨hb, hd'⟩ := List.nodup_cons.mp hd
      -- the head is not the last cell, since the chain visits no cell twice
      have hbne : b ≠ lastOf z l := fun e => hb (e ▸ lastOf_mem z l)
      refine ⟨by rw [hn b (Or.inl rfl) hbne, h1], by rw [hp z (by simp), h2], h3, ?_⟩
      refine ih h4 hd' hlast hback (fun y hy hne => hn y ?_ hne) (fun y hy => hp y (by simp [hy]))
      exact Or.inr (List.mem_cons.mpr hy)

/-- **Taking out a cell.**  Let `x` sit between a front `l₁` and a back `l₂`.  If the cell before
`x` is made to point past it, and the cell behind `x` (when there is one) names the cell before
`x` as its predecessor, the rest of the chain stays as it was without `x`. -/
theorem Linked.unlink (h : Linked next prev nil b (l₁ ++ x :: l₂))
    (hd : (b :: (l₁ ++ x :: l₂)).Nodup)
    (hnext : next' (lastOf b l₁) = next x)
    (hback : next x ≠ nil → prev' (next x) = lastOf b l₁)
    (hn : ∀ y, y = b ∨ y ∈ l₁ ++ l₂ → y ≠ lastOf b l₁ → next' y = next y)
    (hp : ∀ y ∈ l₁ ++ l₂, y ≠ next x → prev' y = prev y) :
    Linked next' prev' nil b (l₁ ++ l₂) := by
  induction l₁ generalizing b with
  | nil =>
      obtain ⟨-, -, -, hx⟩ := h
      cases l₂ with
      | nil => exact hnext.trans hx
      | cons z l₃ =>
          obtain ⟨hz, -, hzn, hl⟩ := hx
          rw [hz] at hnext hback hp
          simp only [List.nil_append, List.nodup_cons, List.mem_cons, not_or] at hd
          refine ⟨hnext, hback hzn, hzn, hl.congr ?_ ?_⟩
          · rintro y hy
            refine hn y (Or.inr (List.mem_cons.mpr hy)) ?_
            rintro rfl
            rcases hy with hy | hy
            · exact hd.1.2.1 hy
            · exact hd.1.2.2 hy
          · exact fun y hy => hp y (by simp [hy]) fun e => hd.2.2.1 (e ▸ hy)
  | cons z l₁ ih =>
      rw [lastOf_cons] at hnext hback hn
      obtain ⟨h1, h2, h3, h4⟩ := h
      obtain ⟨hb, hd'⟩ := List.nodup_cons.mp hd
      have hbne : b ≠ lastOf z l₁ := fun e =>
        hb (e ▸ List.mem_append_left (x :: l₂) (lastOf_mem z l₁))
      -- `z` lies before `x`, so it is not the cell behind `x`
      have hzne : z ≠ next x := by
        rintro rfl
        rcases h4.next_nil_or_mem with e | hmem
        · exact h3 e
        · exact (List.nodup_cons.mp hd').1 (by simp [hmem])
      refine ⟨by rw [hn b (Or.inl rfl) hbne, h1], by rw [hp z (by simp) hzne, h2], h3, ?_⟩
      refine ih h4 hd' hnext hback (fun y hy hne => hn y ?_ hne)
        (fun y hy => hp y (by simp at hy ⊢; tauto))
      exact Or.inr (List.mem_cons.mpr hy)

end Chain
