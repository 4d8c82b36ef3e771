import OcnDevice.Core.HandleTable

/-!
# Drivers that always succeed

A `Bank` is a table of handles together with the choices that the driver still has to make: which free
handle it returns next is up to it.  `Bank.Holds b M` says that exactly `M` is installed and that no
handle was ever named in vain.  Each operation rewrites the `M`, and what it does not name stays, so
that a client can account for its own handles with everything else as a frame.
-/

/-- What is installed, and the handles that the driver will choose. -/
structure Bank (α : Type*) where
  tbl : HandleTable α
  picks : ℕ → ℕ

namespace Bank

variable {α : Type*} {b : Bank α} {M F : Multiset (ℕ × α)} {h n : ℕ} {a : α} {rule : ℕ → α}
  {hs : List ℕ}

/-- Nothing is installed yet. -/
def init (picks : ℕ → ℕ) : Bank α := ⟨.empty, picks⟩

/-- Install something; the driver returns a handle. -/
def install (b : Bank α) (a : α) : ℕ × Bank α :=
  (b.tbl.fresh (b.picks 0), ⟨b.tbl.add (b.picks 0) a, fun n => b.picks (n + 1)⟩)

/-- Remove what a handle names. -/
def remove (b : Bank α) (h : ℕ) : Bank α := { b with tbl := b.tbl.del h }

/-- Install `n` things in one call. -/
def installAll (b : Bank α) (rule : ℕ → α) : ℕ → List ℕ × Bank α
  | 0 => ([], b)
  | n + 1 =>
      let r := b.installAll rule n
      let r' := r.2.install (rule n)
      (r.1 ++ [r'.1], r'.2)

/-- Exactly `M` is installed, and no handle was named in vain. -/
def Holds (b : Bank α) (M : Multiset (ℕ × α)) : Prop := b.tbl.entries = M ∧ b.tbl.misses = 0

/-- What the `i`-th of some handles names is the `i`-th thing. -/
def held (rule : ℕ → α) (hs : List ℕ) : Multiset (ℕ × α) :=
  (hs.zipIdx.map fun x => ({(x.1, rule x.2)} : Multiset (ℕ × α))).sum

lemma Holds.init {picks : ℕ → ℕ} : (Bank.init picks : Bank α).Holds 0 := ⟨rfl, rfl⟩

lemma Holds.of_eq (hb : b.Holds M) (h : M = F) : b.Holds F := h ▸ hb

/-- The driver never returns the handle zero. -/
lemma install_ne_zero : (b.install a).1 ≠ 0 := HandleTable.fresh_ne_zero _ _

/-- **Something is installed.** -/
lemma Holds.install (hb : b.Holds M) : (b.install a).2.Holds (M + {((b.install a).1, a)}) := by
  constructor
  · show b.tbl.entries + _ = _
    rw [hb.1]
    rfl
  · exact hb.2

/-- **Something is removed.** -/
lemma Holds.remove (hb : b.Holds (F + {(h, a)})) : (b.remove h).Holds F :=
  ⟨HandleTable.entries_del hb.1, (HandleTable.misses_del hb.1).trans hb.2⟩

/-- What is installed has another handle than zero. -/
lemma Holds.ne_zero (hb : b.Holds (F + {(h, a)})) : h ≠ 0 := by
  refine b.tbl.pos (h, a) ?_
  rw [hb.1]
  simp

@[simp] lemma held_nil : held rule [] = 0 := rfl

lemma held_concat : held rule (hs ++ [h]) = held rule hs + {(h, rule hs.length)} := by
  simp [held, List.zipIdx_append]

@[simp] lemma length_installAll : (b.installAll rule n).1.length = n := by
  induction n with
  | zero => rfl
  | succ n ih => simp [installAll, ih]

/-- **A batch is installed.** -/
lemma Holds.installAll (hb : b.Holds M) :
    (b.installAll rule n).2.Holds (M + held rule (b.installAll rule n).1) := by
  induction n with
  | zero => exact hb.of_eq (by simp [Bank.installAll])
  | succ n ih =>
      show ((b.installAll rule n).2.install (rule n)).2.Holds (M + held rule (_ ++ [_]))
      rw [held_concat, length_installAll, ← add_assoc]
      exact ih.install

/-- **All handles of a list are removed**, from the first one on. -/
lemma Holds.removeAll {rule : ℕ → α} (hb : b.Holds (F + held rule hs)) :
    (hs.foldl Bank.remove b).Holds F := by
  induction hs generalizing b rule with
  | nil => exact hb.of_eq (by simp)
  | cons h hs ih =>
      refine ih (?_ : (b.remove h).Holds (F + held (fun i => rule (i + 1)) hs))
      refine Holds.remove (h := h) (a := rule 0) (hb.of_eq ?_)
      have htail : held (fun i => rule (i + 1)) hs =
          ((hs.zipIdx 1).map fun x => ({(x.1, rule x.2)} : Multiset (ℕ × α))).sum := by
        rw [held, List.zipIdx_succ, List.map_map]
        rfl
      rw [htail, held, List.zipIdx_cons, List.map_cons, List.sum_cons, add_comm {_}, ← add_assoc]

/-- The things that are installed, without their handles. -/
def things (b : Bank α) : Multiset α := b.tbl.entries.map Prod.snd

/-- None of the handles that are held is zero. -/
lemma Holds.ne_zero_of_held {rule : ℕ → α} (hb : b.Holds (F + held rule hs)) : ∀ h ∈ hs, h ≠ 0 := by
  intro h hmem
  obtain ⟨i, hi, rfl⟩ := List.mem_iff_getElem.mp hmem
  have hx : (hs[i], i) ∈ hs.zipIdx := List.mk_mem_zipIdx_iff_getElem?.mpr (by simp [hi])
  refine b.tbl.pos (hs[i], rule i) ?_
  rw [hb.1]
  refine Multiset.mem_add.mpr (Or.inr (Multiset.mem_of_le
    (List.single_le_sum (fun _ _ => Multiset.zero_le _) _ (List.mem_map_of_mem hx)) ?_))
  simp

end Bank

/-! ## Sums over records -/

section KeyedSum

variable {ι β M : Type*} [AddCommMonoid M] {l : List ι} {key : ι → ℕ} {i : ι} {f : ℕ → β}

variable (key) in
/-- **One record changes**: what the others add to a sum is a frame. -/
lemma exists_frame_update (g : ι → β → M) (hl : (l.map key).Nodup) (hi : i ∈ l) :
    ∃ G, ∀ v, (l.map fun j => g j (Function.update f (key i) v (key j))).sum = G + g i v := by
  obtain ⟨l₁, l₂, rfl⟩ := List.append_of_mem hi
  have hne : ∀ j, j ∈ l₁ ∨ j ∈ l₂ → key j ≠ key i := by
    intro j hj heq
    rw [List.map_append, List.map_cons, List.nodup_middle, List.nodup_cons] at hl
    refine hl.1 (List.mem_append.mpr ?_)
    rcases hj with hj | hj
    · exact Or.inl (heq ▸ List.mem_map_of_mem hj)
    · exact Or.inr (heq ▸ List.mem_map_of_mem hj)
  refine ⟨(l₁.map fun j => g j (f (key j))).sum + (l₂.map fun j => g j (f (key j))).sum,
    fun v => ?_⟩
  have hcongr : ∀ m : List ι, (∀ j ∈ m, key j ≠ key i) →
      (m.map fun j => g j (Function.update f (key i) v (key j))) =
        m.map fun j => g j (f (key j)) := by
    intro m hm
    refine List.map_congr_left fun j hj => ?_
    rw [Function.update_of_ne (hm j hj)]
  rw [List.map_append, List.map_cons, List.sum_append, List.sum_cons,
    hcongr l₁ fun j hj => hne j (Or.inl hj), hcongr l₂ fun j hj => hne j (Or.inr hj),
    Function.update_self, add_comm (g i v), ← add_assoc]

/-- Records that add nothing may leave. -/
lemma sum_map_sublist {ι M : Type*} [AddCommMonoid M] {l m : List ι} {g : ι → M}
    (hl : l.Sublist m) (hm : m.Nodup) (hz : ∀ i ∈ m, i ∉ l → g i = 0) :
    (l.map g).sum = (m.map g).sum := by
  induction hl with
  | slnil => rfl
  | cons i hl ih =>
      rw [List.nodup_cons] at hm
      rw [List.map_cons, List.sum_cons, hz i List.mem_cons_self fun h => hm.1 (hl.subset h),
        zero_add]
      exact ih hm.2 fun j hj => hz j (List.mem_cons_of_mem _ hj)
  | cons_cons i hl ih =>
      rw [List.nodup_cons] at hm
      rw [List.map_cons, List.map_cons, List.sum_cons, List.sum_cons]
      congr 1
      refine ih hm.2 fun j hj hjl => hz j (List.mem_cons_of_mem _ hj) fun h => ?_
      rcases List.mem_cons.mp h with rfl | h
      · exact hm.1 hj
      · exact hjl h

end KeyedSum
