import Mathlib

/-!
# Counted loops and searches

`forUpTo n body s` runs `body 0`, `body 1`, …, `body (n - 1)` one after another on the state `s`,
and `firstIdx n p` is the least index below `n` that satisfies `p`.  They are the two loops over an
array that code in C is made of, and each comes with its rule: an invariant that may speak of the
counter, and what it means to have found or not to have found an index.
-/

variable {σ : Type*}

/-- Run the body for each counter below `n`, in order. -/
def forUpTo : ℕ → (ℕ → σ → σ) → σ → σ
  | 0, _, s => s
  | n + 1, body, s => body n (forUpTo n body s)

section ForUpTo

variable {n : ℕ} {f : ℕ → σ → σ} {s : σ}

/-- **The invariant rule**: `P i` holds before the pass with counter `i`. -/
theorem forUpTo_invariant {P : ℕ → σ → Prop} (h0 : P 0 s)
    (hstep : ∀ i t, i < n → P i t → P (i + 1) (f i t)) : P n (forUpTo n f s) := by
  induction n with
  | zero => exact h0
  | succ n ih =>
      exact hstep n _ (Nat.lt_succ_self n) (ih fun i t hi => hstep i t (Nat.lt_succ_of_lt hi))

/-- The invariant rule for the passes behind the first `m`. -/
theorem forUpTo_invariant_from {m : ℕ} {P : ℕ → σ → Prop} (hm : m ≤ n) (h0 : P m (forUpTo m f s))
    (hstep : ∀ i t, m ≤ i → i < n → P i t → P (i + 1) (f i t)) : P n (forUpTo n f s) := by
  induction n, hm using Nat.le_induction with
  | base => exact h0
  | succ n hmn ih =>
      exact hstep n _ hmn (Nat.lt_succ_self n)
        (ih fun i t hmi hi => hstep i t hmi (Nat.lt_succ_of_lt hi))

/-- The invariant rule for a property that does not depend on the counter. -/
theorem forUpTo_preserves {P : σ → Prop} (h0 : P s) (hstep : ∀ i t, i < n → P t → P (f i t)) :
    P (forUpTo n f s) :=
  forUpTo_invariant (P := fun _ => P) h0 hstep

/-- A loop whose body keeps a reflexive and transitive relation keeps it. -/
theorem forUpTo_rel {R : σ → σ → Prop} (hrefl : ∀ t, R t t)
    (htrans : ∀ t u v, R t u → R u v → R t v) (hstep : ∀ i t, i < n → R t (f i t)) :
    R s (forUpTo n f s) :=
  forUpTo_preserves (P := R s) (hrefl s) fun i t hi h => htrans _ _ _ h (hstep i t hi)

end ForUpTo

/-- The least index below `n` that satisfies `p`. -/
def firstIdx (n : ℕ) (p : ℕ → Bool) : Option ℕ := (List.range n).find? p

section FirstIdx

variable {n i : ℕ} {p : ℕ → Bool}

theorem firstIdx_eq_some : firstIdx n p = some i ↔ i < n ∧ p i = true ∧ ∀ j < i, p j = false := by
  unfold firstIdx
  rw [List.find?_range_eq_some]
  simp only [List.mem_range, Bool.not_eq_true']
  tauto

theorem firstIdx_eq_none : firstIdx n p = none ↔ ∀ j < n, p j = false := by
  simp [firstIdx]

end FirstIdx

/-! ## Entries that move up -/

section ShiftDown

variable {C : Type*} {copy : C → C → C} {lo hi j : ℕ} {x : ℕ → C}

/-- Copy each entry from `lo` to below `hi` from the one behind it, in order. -/
def shiftDown (copy : C → C → C) (lo hi : ℕ) (x : ℕ → C) : ℕ → C :=
  forUpTo (hi - lo)
    (fun k y => Function.update y (lo + k) (copy (y (lo + k)) (y (lo + k + 1)))) x

lemma shiftDown_apply : shiftDown copy lo hi x j =
    if lo ≤ j ∧ j < hi then copy (x j) (x (j + 1)) else x j := by
  have hgo := forUpTo_invariant (n := hi - lo) (s := x)
    (f := fun k y => Function.update y (lo + k) (copy (y (lo + k)) (y (lo + k + 1))))
    (P := fun k y => ∀ j, y j = if lo ≤ j ∧ j < lo + k then copy (x j) (x (j + 1)) else x j)
    (by
      intro j
      rw [if_neg (by omega)])
    (by
      intro k y hk hy j
      rcases eq_or_ne j (lo + k) with rfl | hne
      · rw [Function.update_self, if_pos (by omega), hy, hy, if_neg (by omega), if_neg (by omega)]
      · rw [Function.update_of_ne hne, hy]
        exact if_congr (by omega) rfl rfl)
  rw [shiftDown, hgo]
  exact if_congr (by omega) rfl rfl

/-- **One term of a sum leaves**, and those behind it move up. -/
lemma sum_range_remove {M : Type*} [AddCommMonoid M] {n i : ℕ} {f : ℕ → M} (hi : i < n) :
    ∑ j ∈ Finset.range n, f j =
      ∑ j ∈ Finset.range (n - 1), f (if j < i then j else j + 1) + f i := by
  obtain ⟨m, rfl⟩ : ∃ m, n = i + (m + 1) := ⟨n - i - 1, by omega⟩
  have hlow : ∑ j ∈ Finset.range i, f (if j < i then j else j + 1) = ∑ j ∈ Finset.range i, f j := by
    refine Finset.sum_congr rfl fun j hj => ?_
    rw [if_pos (Finset.mem_range.mp hj)]
  have hhigh : ∀ j, (if i + j < i then i + j else i + j + 1) = i + (j + 1) := fun j => by
    rw [if_neg (by omega), add_assoc]
  show _ = ∑ j ∈ Finset.range (i + m), f (if j < i then j else j + 1) + f i
  rw [Finset.sum_range_add, Finset.sum_range_succ' (fun j => f (i + j)) m, Finset.sum_range_add,
    hlow, ← add_assoc]
  simp only [hhigh, add_zero]

end ShiftDown

/-! ## Loops over a list -/

section Foldl

variable {α : Type*} {l : List α} {f : σ → α → σ} {s : σ}

/-- **The invariant rule**: `P done` holds when the loop has gone over `done`. -/
theorem foldl_invariant {P : List α → σ → Prop} (h0 : P [] s)
    (hstep : ∀ done a rest t, l = done ++ a :: rest → P done t → P (done ++ [a]) (f t a)) :
    P l (l.foldl f s) := by
  suffices hgo : ∀ done rest t, l = done ++ rest → P done t → P l (rest.foldl f t) from
    hgo [] l s rfl h0
  intro done rest
  induction rest generalizing done with
  | nil =>
      intro t hl hd
      rwa [hl, List.append_nil]
  | cons a rest ih =>
      intro t hl hd
      exact ih (done ++ [a]) (f t a) (by rw [hl, List.append_assoc]; rfl)
        (hstep done a rest t hl hd)

end Foldl

/-! ## Loops over a list whose elements change in place -/

section ForEach

variable {α : Type*}

/-- Run the body for each element in order; the body may change the element and the state. -/
def forEach (body : α → σ → α × σ) : List α → σ → List α × σ
  | [], s => ([], s)
  | a :: l, s =>
      let r := body a s
      let rs := forEach body l r.2
      (r.1 :: rs.1, rs.2)

/-- Run the body for the first element that satisfies `p`. -/
def onFirst (p : α → Bool) (body : α → σ → α × σ) : List α → σ → List α × σ
  | [], s => ([], s)
  | a :: l, s =>
      if p a then
        let r := body a s
        (r.1 :: l, r.2)
      else
        let rs := onFirst p body l s
        (a :: rs.1, rs.2)

variable {M : Type*} [AddCommMonoid M] {body : α → σ → α × σ} {p : α → Bool} {l l₁ l₂ : List α}
  {s : σ} {a : α} {F : M}

/-- **The frame rule**: the state holds something for each element beside what it holds for others, and
the body turns what is held for its element into what is held for the changed one. -/
theorem forEach_frame {I : σ → M → Prop} {m : α → M} {Q : α → α → Prop}
    (hbody : ∀ a ∈ l, ∀ t F, I t (F + m a) →
      I (body a t).2 (F + m (body a t).1) ∧ Q a (body a t).1)
    (h : I s (F + (l.map m).sum)) :
    I (forEach body l s).2 (F + ((forEach body l s).1.map m).sum) ∧
      List.Forall₂ Q l (forEach body l s).1 := by
  induction l generalizing s F with
  | nil => exact ⟨h, List.Forall₂.nil⟩
  | cons a l ih =>
      simp only [forEach, List.map_cons, List.sum_cons] at h ⊢
      have ha := hbody a List.mem_cons_self s (F + (l.map m).sum)
        (by rwa [add_assoc, add_comm (l.map m).sum])
      have hl := ih (fun b hb => hbody b (List.mem_cons_of_mem _ hb)) (s := (body a s).2)
        (F := F + m (body a s).1) (by rw [add_right_comm]; exact ha.1)
      exact ⟨by rw [← add_assoc]; exact hl.1, List.Forall₂.cons ha.2 hl.2⟩

/-- The first element that satisfies `p` is changed, the others are left. -/
lemma onFirst_eq (h₁ : ∀ b ∈ l₁, p b = false) (ha : p a = true) :
    onFirst p body (l₁ ++ a :: l₂) s = (l₁ ++ (body a s).1 :: l₂, (body a s).2) := by
  induction l₁ with
  | nil => simp [onFirst, ha]
  | cons b l₁ ih =>
      have hb : p b = false := h₁ b List.mem_cons_self
      simp [onFirst, hb, ih fun c hc => h₁ c (List.mem_cons_of_mem _ hc)]

end ForEach
