import Mathlib

/-!
# Singly linked chains

A chain starts at a pointer, which is `none` or `some` cell, and follows `next` until it meets
`none`.  `Path next p l` says that the cells visited from `p` are exactly `l`, in this order.  As
with the doubly linked chains, `next` is a plain function, and an operation on the store is
described by how the new function differs from the old one.

The rules are the frame rule (`Path.congr`), appending a cell (`Path.snoc`) and taking one out
(`Path.unlink`), where the first pointer of the chain counts as the link in front of its first cell.

A list that can be followed both ways is two chains through the same cells, one of them backwards
(`TwoWay`), and its rules are made of those of a chain: a cell in front (`TwoWay.push`), and a cell
taken out (`TwoWay.unlink`).
-/

namespace Chain

variable {ι : Type*}

/-- Following `next` from the pointer `p` visits exactly the cells `l` and then stops. -/
def Path (next : ι → Option ι) : Option ι → List ι → Prop
  | p, [] => p = none
  | p, x :: l => p = some x ∧ Path next (next x) l

variable {next next' : ι → Option ι} {p : Option ι} {x y : ι} {l l₁ l₂ : List ι}

@[simp] lemma path_nil : Path next p [] ↔ p = none := Iff.rfl

@[simp] lemma path_cons : Path next p (x :: l) ↔ p = some x ∧ Path next (next x) l := Iff.rfl

/-- A chain is empty exactly when its first pointer is `none`. -/
lemma Path.eq_nil_iff (h : Path next p l) : l = [] ↔ p = none := by
  cases l with
  | nil => simpa using h
  | cons x l => simp [h.1]

/-- The chain from a pointer is determined by `next`. -/
lemma Path.unique (h : Path next p l) (h' : Path next p l₁) : l = l₁ := by
  induction l generalizing p l₁ with
  | nil => exact (h'.eq_nil_iff.mpr h).symm
  | cons x l ih =>
      cases l₁ with
      | nil => exact absurd (h.1.symm.trans h') (by simp)
      | cons y l₁ =>
          obtain rfl : x = y := Option.some.inj (h.1.symm.trans h'.1)
          rw [ih h.2 h'.2]

/-- **Frame rule.**  A chain only depends on `next` at its cells. -/
theorem Path.congr (h : Path next p l) (hn : ∀ y ∈ l, next' y = next y) : Path next' p l := by
  induction l generalizing p with
  | nil => exact h
  | cons x l ih =>
      refine ⟨h.1, ?_⟩
      rw [hn x (by simp)]
      exact ih h.2 fun y hy => hn y (by simp [hy])

/-- The back of a chain is a chain. -/
lemma Path.back (h : Path next p (l₁ ++ x :: l₂)) : Path next (next x) l₂ := by
  induction l₁ generalizing p with
  | nil => exact h.2
  | cons z l₁ ih => exact ih h.2

/-- The last cell of a chain points to nothing. -/
lemma Path.next_last (h : Path next p (l ++ [x])) : next x = none := h.back

/-- **Appending a cell.**  Let `x` become the successor of the last cell, or the first cell of a
chain that was empty, with nothing behind it. -/
theorem Path.snoc (next' : ι → Option ι) (x : ι) (h : Path next p l) (hd : l.Nodup)
    (hend : next' x = none) (hlast : ∀ y ∈ l.getLast?, next' y = some x)
    (hn : ∀ y ∈ l, y ∉ l.getLast? → next' y = next y) :
    Path next' (p.or (some x)) (l ++ [x]) := by
  induction l generalizing p with
  | nil => simpa [path_nil.mp h] using hend
  | cons z l ih =>
      obtain ⟨rfl, h2⟩ := h
      obtain ⟨hz, hd'⟩ := List.nodup_cons.mp hd
      refine ⟨rfl, ?_⟩
      cases l with
      | nil =>
          rw [hlast z (by simp)]
          exact ⟨rfl, hend⟩
      | cons w l =>
          have hzlast : z ∉ (z :: w :: l).getLast? := by
            rw [List.getLast?_cons_cons]
            exact fun hmem => hz (List.mem_of_getLast? hmem)
          rw [hn z (by simp) hzlast]
          have := ih h2 hd' (fun y hy => hlast y (by rwa [List.getLast?_cons_cons]))
            fun y hy hy' => hn y (List.mem_cons_of_mem z hy) (by rwa [List.getLast?_cons_cons])
          rwa [h2.1] at this ⊢

/-- **Taking out a cell.**  Let the link in front of `x`, which is the first pointer when `x` is the
first cell, go where `x` points to. -/
theorem Path.unlink {p' : Option ι} (h : Path next p (l₁ ++ x :: l₂)) (hd : (l₁ ++ x :: l₂).Nodup)
    (hp : p' = if l₁ = [] then next x else p) (hlast : ∀ y ∈ l₁.getLast?, next' y = next x)
    (hn : ∀ y ∈ l₁ ++ l₂, y ∉ l₁.getLast? → next' y = next y) :
    Path next' p' (l₁ ++ l₂) := by
  induction l₁ generalizing p p' with
  | nil =>
      rw [hp, if_pos rfl]
      exact h.2.congr fun y hy => hn y hy (by simp)
  | cons z l₁ ih =>
      obtain ⟨rfl, h2⟩ := h
      obtain ⟨hz, hd'⟩ := List.nodup_cons.mp hd
      refine ⟨by simpa using hp, ?_⟩
      cases l₁ with
      | nil =>
          refine ih h2 hd' ?_ (by simp) fun y hy _ => hn y (by simp at hy ⊢; tauto) ?_
          · simpa using hlast z (by simp)
          · rintro hmem
            obtain rfl : z = y := by simpa using hmem
            exact hz (by simp at hy ⊢; tauto)
      | cons w l₁ =>
          have hzlast : z ∉ (z :: w :: l₁).getLast? := by
            rw [List.getLast?_cons_cons]
            exact fun hmem => hz (List.mem_append_left _ (List.mem_of_getLast? hmem))
          refine ih h2 hd' ?_ (fun y hy => hlast y (by rwa [List.getLast?_cons_cons]))
            fun y hy hy' => hn y (List.mem_cons_of_mem z hy) (by rwa [List.getLast?_cons_cons])
          rw [hn z (by simp) hzlast, if_neg (by simp)]

/-- What a cell of a chain points to. -/
lemma Path.next_eq (h : Path next p (l₁ ++ x :: l₂)) : next x = l₂.head? := by
  have hback := h.back
  cases l₂ with
  | nil => exact hback
  | cons y l₂ => exact hback.1

lemma Path.head_eq (h : Path next p l) : p = l.head? := by
  cases l with
  | nil => exact h
  | cons x l => exact h.1

/-! ## Both ways -/

/-- Following `next` from `head` visits the cells `l`, each once, and following `prev` from `tail`
visits them the other way. -/
structure TwoWay (next prev : ι → Option ι) (head tail : Option ι) (l : List ι) : Prop where
  nodup : l.Nodup
  forth : Path next head l
  back : Path prev tail l.reverse

namespace TwoWay

variable {prev prev' : ι → Option ι} {head tail head' tail' : Option ι}

/-- The other way. -/
lemma symm (h : TwoWay next prev head tail l) : TwoWay prev next tail head l.reverse :=
  ⟨List.nodup_reverse.mpr h.nodup, h.back, l.reverse_reverse.symm ▸ h.forth⟩

lemma head_eq (h : TwoWay next prev head tail l) : head = l.head? := h.forth.head_eq

lemma tail_eq (h : TwoWay next prev head tail l) : tail = l.getLast? := by
  rw [h.symm.head_eq, List.head?_reverse]

lemma next_eq (h : TwoWay next prev head tail (l₁ ++ x :: l₂)) : next x = l₂.head? :=
  h.forth.next_eq

lemma prev_eq (h : TwoWay next prev head tail (l₁ ++ x :: l₂)) : prev x = l₁.getLast? := by
  have hback := h.symm
  rw [List.reverse_append, List.reverse_cons, List.append_assoc, List.singleton_append] at hback
  rw [hback.next_eq, List.head?_reverse]

/-- **The links are inverse.** -/
theorem inverse (h : TwoWay next prev head tail l) (hx : x ∈ l) (hy : y ∈ l) :
    next x = some y ↔ prev y = some x := by
  constructor
  · intro hnext
    obtain ⟨l₁, l₂, rfl⟩ := List.append_of_mem hx
    rw [h.next_eq] at hnext
    obtain ⟨l₃, rfl⟩ := List.head?_eq_some_iff.mp hnext
    rw [← List.singleton_append, ← List.append_assoc] at h
    rw [h.prev_eq, List.getLast?_concat]
  · intro hprev
    obtain ⟨l₁, l₂, rfl⟩ := List.append_of_mem hy
    rw [h.prev_eq] at hprev
    obtain ⟨l₃, rfl⟩ := List.getLast?_eq_some_iff.mp hprev
    rw [List.append_assoc, List.singleton_append] at h
    rw [h.next_eq, List.head?_cons]

/-- Only the first cell has none in front. -/
lemma prev_eq_none_iff (h : TwoWay next prev head tail l) (hx : x ∈ l) :
    prev x = none ↔ head = some x := by
  obtain ⟨l₁, l₂, rfl⟩ := List.append_of_mem hx
  rw [h.prev_eq, h.head_eq, List.getLast?_eq_none_iff]
  cases l₁ with
  | nil => simp
  | cons z l₁ =>
      have hz : z ≠ x := fun he => (List.nodup_cons.mp h.nodup).1 (by simp [he])
      simp [hz]

/-- Only the last cell has none behind. -/
lemma next_eq_none_iff (h : TwoWay next prev head tail l) (hx : x ∈ l) :
    next x = none ↔ tail = some x :=
  h.symm.prev_eq_none_iff (List.mem_reverse.mpr hx)

/-- **A cell in front.** -/
theorem push (h : TwoWay next prev head tail l) (hx : x ∉ l) (hnext : next' x = head)
    (hprev : prev' x = none) (htail : tail' = tail.or (some x))
    (hfirst : ∀ y ∈ l.head?, prev' y = some x) (hn : ∀ y ∈ l, next' y = next y)
    (hp : ∀ y ∈ l, y ∉ l.head? → prev' y = prev y) :
    TwoWay next' prev' (some x) tail' (x :: l) := by
  refine ⟨List.nodup_cons.mpr ⟨hx, h.nodup⟩, ⟨rfl, hnext ▸ h.forth.congr hn⟩, ?_⟩
  rw [List.reverse_cons, htail]
  refine h.back.snoc prev' x h.symm.nodup hprev ?_ ?_
  · rwa [List.getLast?_reverse]
  · intro y hy
    rw [List.getLast?_reverse]
    exact hp y (List.mem_reverse.mp hy)

/-- **A cell taken out.** -/
theorem unlink (h : TwoWay next prev head tail (l₁ ++ x :: l₂))
    (hhead : head' = if l₁ = [] then next x else head)
    (htail : tail' = if l₂ = [] then prev x else tail)
    (hlast : ∀ y ∈ l₁.getLast?, next' y = next x) (hfirst : ∀ y ∈ l₂.head?, prev' y = prev x)
    (hn : ∀ y ∈ l₁ ++ l₂, y ∉ l₁.getLast? → next' y = next y)
    (hp : ∀ y ∈ l₁ ++ l₂, y ∉ l₂.head? → prev' y = prev y) :
    TwoWay next' prev' head' tail' (l₁ ++ l₂) := by
  have hnodup : (l₁ ++ l₂).Nodup := h.nodup.sublist (by simp)
  have hreverse : (l₁ ++ x :: l₂).reverse = l₂.reverse ++ x :: l₁.reverse := by simp
  refine ⟨hnodup, h.forth.unlink h.nodup hhead hlast hn, ?_⟩
  rw [List.reverse_append]
  refine (hreverse ▸ h.back).unlink (hreverse ▸ h.symm.nodup) ?_ ?_ ?_
  · rw [htail]
    simp
  · rwa [List.getLast?_reverse]
  · intro y hy
    rw [List.getLast?_reverse]
    exact hp y (by simpa [or_comm] using hy)

end TwoWay

end Chain
