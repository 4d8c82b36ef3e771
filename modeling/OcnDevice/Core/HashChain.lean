import OcnDevice.Core.LinkedChain

/-!
# Hash tables that chain collisions through overflow cells

A chained table keeps one *head* cell for every hash value and puts whatever collides into
*overflow* cells, linked behind the head.  `Store` is what such a table shows of itself: which
cells are in use, the two link fields, and the head every cell hashes to.

`Chained` is the invariant: behind every head lies one doubly linked chain, it visits no cell
twice, and it consists of exactly the overflow cells in use that hash to this head.  Disjointness
of the chains and "every cell in use lies on a chain" both follow from the last clause.

Two changes of the table are enough for every client.  `Appended` puts a free overflow cell behind
the last cell of a chain, `Removed` takes an overflow cell out of its chain.  Both are relations
between the store before and after, one field for each thing the change does.
-/

namespace Chain

variable {ι : Type*}

/-- What a chained table shows of its cells. -/
structure Store (ι : Type*) where
  /-- the cell holds an entry -/
  used : ι → Prop
  /-- link to the next cell of the chain -/
  next : ι → ι
  /-- link to the cell before it -/
  prev : ι → ι
  /-- the head that the entry of the cell hashes to -/
  slot : ι → ι

/-- **The invariant of a chained table**, with the chain behind every head as a witness. -/
structure Chained (nil : ι) (head cell : ι → Prop) (st : Store ι) (chain : ι → List ι) :
    Prop where
  linked : ∀ b, head b → Linked st.next st.prev nil b (chain b)
  nodup : ∀ b, head b → (chain b).Nodup
  mem_iff : ∀ b, head b → ∀ x, x ∈ chain b ↔ cell x ∧ st.used x ∧ st.slot x = b

/-- `st'` is `st` with the free overflow cell `x` linked behind cell `p`, for head `b`. -/
structure Appended (nil : ι) (head cell : ι → Prop) (st st' : Store ι) (b p x : ι) : Prop where
  next_last : st'.next p = x
  next_new : st'.next x = nil
  prev_new : st'.prev x = p
  slot_new : st'.slot x = b
  used_iff : ∀ y, cell y → (st'.used y ↔ st.used y ∨ y = x)
  next_eq : ∀ y, head y ∨ cell y ∧ st.used y → y ≠ p → st'.next y = st.next y
  prev_eq : ∀ y, cell y → st.used y → st'.prev y = st.prev y
  slot_eq : ∀ y, cell y → st.used y → st'.slot y = st.slot y

/-- `st'` is `st` with the overflow cell `x` taken out of its chain: the cell before it points
past it, the cell behind it names the cell before it. -/
structure Removed (nil : ι) (head cell : ι → Prop) (st st' : Store ι) (x : ι) : Prop where
  next_front : st'.next (st.prev x) = st.next x
  prev_back : st.next x ≠ nil → st'.prev (st.next x) = st.prev x
  used_iff : ∀ y, cell y → (st'.used y ↔ st.used y ∧ y ≠ x)
  next_eq : ∀ y, head y ∨ cell y ∧ st.used y → y ≠ st.prev x → y ≠ x → st'.next y = st.next y
  prev_eq : ∀ y, cell y → st.used y → y ≠ st.next x → y ≠ x → st'.prev y = st.prev y
  slot_eq : ∀ y, cell y → st.used y → y ≠ x → st'.slot y = st.slot y

variable {nil : ι} {head cell : ι → Prop} {st st' : Store ι} {chain : ι → List ι} {b p x : ι}

namespace Chained

/-- The chains of two heads share no cell. -/
theorem disjoint (H : Chained nil head cell st chain) {b' : ι} (hb : head b) (hb' : head b')
    (hne : b ≠ b') : (chain b).Disjoint (chain b') := by
  intro x hx hx'
  have h := (H.mem_iff b hb x).mp hx
  have h' := (H.mem_iff b' hb' x).mp hx'
  exact hne (h.2.2.symm.trans h'.2.2)

/-- Every overflow cell in use lies on the chain of the head it hashes to. -/
theorem mem_slot (H : Chained nil head cell st chain) (hx : cell x) (hu : st.used x)
    (hs : head (st.slot x)) : x ∈ chain (st.slot x) :=
  (H.mem_iff _ hs x).mpr ⟨hx, hu, rfl⟩

/-- **Frame rule.**  A change that no head's link and no overflow cell in use can see keeps the
invariant with the same chains. -/
theorem congr (H : Chained nil head cell st chain)
    (hu : ∀ y, cell y → (st'.used y ↔ st.used y))
    (hn : ∀ y, head y ∨ cell y ∧ st.used y → st'.next y = st.next y)
    (hp : ∀ y, cell y → st.used y → st'.prev y = st.prev y)
    (hs : ∀ y, cell y → st.used y → st'.slot y = st.slot y) :
    Chained nil head cell st' chain where
  linked b hb := by
    refine (H.linked b hb).congr ?_ ?_
    · rintro y (rfl | hy)
      · exact hn y (Or.inl hb)
      · have h := (H.mem_iff b hb y).mp hy
        exact hn y (Or.inr ⟨h.1, h.2.1⟩)
    · intro y hy
      have h := (H.mem_iff b hb y).mp hy
      exact hp y h.1 h.2.1
  nodup := H.nodup
  mem_iff b hb y := by
    rw [H.mem_iff b hb y]
    constructor
    · rintro ⟨h1, h2, h3⟩
      exact ⟨h1, (hu y h1).mpr h2, (hs y h1 h2).trans h3⟩
    · rintro ⟨h1, h2, h3⟩
      have h2' := (hu y h1).mp h2
      exact ⟨h1, h2', (hs y h1 h2').symm.trans h3⟩

/-- A head together with its chain visits no cell twice, since a head is no overflow cell. -/
lemma nodup_cons (H : Chained nil head cell st chain) (hsep : ∀ y, cell y → ¬ head y)
    (hb : head b) : (b :: chain b).Nodup :=
  List.nodup_cons.mpr ⟨fun hmem => hsep b ((H.mem_iff b hb b).mp hmem).1 hb, H.nodup b hb⟩

/-- What lies at or behind one head does not lie at or behind another. -/
lemma foreign (H : Chained nil head cell st chain) (hsep : ∀ y, cell y → ¬ head y) {b' : ι}
    (hb : head b) (hb' : head b') (hne : b' ≠ b) {y : ι} (hy : y = b' ∨ y ∈ chain b') :
    ¬ (y = b ∨ y ∈ chain b) := by
  rintro (e | hmem)
  · rcases hy with e' | hy
    · exact hne (e'.symm.trans e)
    · exact hsep y ((H.mem_iff b' hb' y).mp hy).1 (e ▸ hb)
  · rcases hy with e' | hy
    · exact hsep y ((H.mem_iff b hb y).mp hmem).1 (e' ▸ hb')
    · exact H.disjoint hb' hb hne hy hmem

/-- The links of a cell in use stay at or behind its own head. -/
lemma neighbours (H : Chained nil head cell st chain) (hx : cell x) (hu : st.used x)
    (hs : head (st.slot x)) :
    (st.prev x = st.slot x ∨ st.prev x ∈ chain (st.slot x)) ∧
      (st.next x = nil ∨ st.next x ∈ chain (st.slot x)) := by
  obtain ⟨l₁, l₂, hl⟩ := List.append_of_mem (H.mem_slot hx hu hs)
  have hlink := H.linked _ hs
  rw [hl] at hlink ⊢
  constructor
  · rw [hlink.prev_eq]
    exact (lastOf_eq_or_mem _ l₁).imp_right fun h => List.mem_append_left _ h
  · exact hlink.next_nil_or_mem.imp_right fun h =>
      List.mem_append_right _ (List.mem_cons_of_mem x h)

/-- A cell in use, the cell before it and the cell behind it are three different cells. -/
lemma neighbours_ne (H : Chained nil head cell st chain) (hsep : ∀ y, cell y → ¬ head y)
    (hx : cell x) (hu : st.used x) (hs : head (st.slot x)) :
    st.prev x ≠ x ∧ (st.next x ≠ nil → st.next x ≠ x ∧ st.next x ≠ st.prev x) := by
  obtain ⟨l₁, l₂, hl⟩ := List.append_of_mem (H.mem_slot hx hu hs)
  have hlink := H.linked _ hs
  have hd := H.nodup_cons hsep hs
  rw [hl] at hlink hd
  have hp := hlink.prev_eq
  have hpmem : lastOf (st.slot x) l₁ ∈ st.slot x :: l₁ := lastOf_mem _ _
  rw [← List.cons_append, List.nodup_append] at hd
  obtain ⟨-, hd₂, hdis⟩ := hd
  refine ⟨fun e => hdis _ hpmem _ (by simp) (hp.symm.trans e), fun hn => ?_⟩
  have hmem : st.next x ∈ l₂ := hlink.next_nil_or_mem.resolve_left hn
  exact ⟨fun e => (List.nodup_cons.mp hd₂).1 (e ▸ hmem),
    fun e => hdis _ hpmem _ (List.mem_cons_of_mem x hmem) (hp.symm.trans e.symm)⟩

variable [DecidableEq ι]

/-- **Appending keeps the invariant**: the chain of `b` grows by `x` at its end. -/
theorem append (H : Chained nil head cell st chain) (hsep : ∀ y, cell y → ¬ head y)
    (hb : head b) (hx : cell x) (hxn : x ≠ nil) (hfree : ¬ st.used x)
    (hA : Appended nil head cell st st' b (lastOf b (chain b)) x) :
    Chained nil head cell st' (Function.update chain b (chain b ++ [x])) where
  linked b' hb' := by
    by_cases e : b' = b
    · subst e
      rw [Function.update_self]
      refine (H.linked b' hb').snoc (H.nodup_cons hsep hb') hxn hA.next_last hA.next_new
        hA.prev_new ?_ ?_
      · rintro y hy hne
        refine hA.next_eq y ?_ hne
        rcases hy with rfl | hy
        · exact Or.inl hb'
        · have h := (H.mem_iff _ hb' y).mp hy
          exact Or.inr ⟨h.1, h.2.1⟩
      · intro y hy
        have h := (H.mem_iff _ hb' y).mp hy
        exact hA.prev_eq y h.1 h.2.1
    · rw [Function.update_of_ne e]
      refine (H.linked b' hb').congr ?_ ?_
      · intro y hy
        refine hA.next_eq y ?_ fun h => H.foreign hsep hb hb' e hy (h ▸ lastOf_eq_or_mem b _)
        rcases hy with rfl | hy
        · exact Or.inl hb'
        · have h := (H.mem_iff _ hb' y).mp hy
          exact Or.inr ⟨h.1, h.2.1⟩
      · intro y hy
        have h := (H.mem_iff _ hb' y).mp hy
        exact hA.prev_eq y h.1 h.2.1
  nodup b' hb' := by
    by_cases e : b' = b
    · subst e
      rw [Function.update_self, List.nodup_append]
      refine ⟨H.nodup _ hb', List.nodup_singleton x, ?_⟩
      rintro y hy z hz rfl
      rw [List.mem_singleton] at hz
      subst hz
      exact hfree ((H.mem_iff _ hb' y).mp hy).2.1
    · rw [Function.update_of_ne e]
      exact H.nodup b' hb'
  mem_iff b' hb' y := by
    have key : cell y → (st'.used y ∧ st'.slot y = b' ↔
        (st.used y ∧ st.slot y = b') ∨ (y = x ∧ b' = b)) := by
      intro hy
      rw [hA.used_iff y hy]
      constructor
      · rintro ⟨hu | rfl, hs⟩
        · exact Or.inl ⟨hu, (hA.slot_eq y hy hu).symm.trans hs⟩
        · exact Or.inr ⟨rfl, hs.symm.trans hA.slot_new⟩
      · rintro (⟨hu, hs⟩ | ⟨rfl, rfl⟩)
        · exact ⟨Or.inl hu, (hA.slot_eq y hy hu).trans hs⟩
        · exact ⟨Or.inr rfl, hA.slot_new⟩
    by_cases e : b' = b
    · subst e
      rw [Function.update_self, List.mem_append, List.mem_singleton, H.mem_iff _ hb']
      constructor
      · rintro (⟨hy, h⟩ | rfl)
        · exact ⟨hy, (key hy).mpr (Or.inl h)⟩
        · exact ⟨hx, (key hx).mpr (Or.inr ⟨rfl, rfl⟩)⟩
      · rintro ⟨hy, h⟩
        exact ((key hy).mp h).imp (fun h => ⟨hy, h⟩) And.left
    · rw [Function.update_of_ne e, H.mem_iff _ hb']
      refine and_congr_right fun hy => ?_
      rw [key hy]
      simp [e]

/-- **Removing keeps the invariant**: the chain of the head that `x` hashes to loses `x`. -/
theorem remove (H : Chained nil head cell st chain) (hsep : ∀ y, cell y → ¬ head y)
    (hx : cell x) (hu : st.used x) (hs : head (st.slot x)) (hR : Removed nil head cell st st' x) :
    Chained nil head cell st' (Function.update chain (st.slot x) ((chain (st.slot x)).erase x))
    where
  linked b' hb' := by
    by_cases e : b' = st.slot x
    · subst e
      rw [Function.update_self]
      obtain ⟨l₁, l₂, hl⟩ := List.append_of_mem (H.mem_slot hx hu hs)
      have hlink := H.linked _ hb'
      have hd := H.nodup_cons hsep hb'
      rw [hl] at hlink hd
      have hp := hlink.prev_eq
      have hmem : ∀ y ∈ l₁ ++ l₂, cell y ∧ st.used y ∧ y ≠ x := by
        intro y hy
        have hy' : y ∈ chain (st.slot x) := by
          rw [hl]; simp only [List.mem_append, List.mem_cons] at hy ⊢; tauto
        have h := (H.mem_iff _ hb' y).mp hy'
        refine ⟨h.1, h.2.1, ?_⟩
        rintro rfl
        have hd' := (List.nodup_cons.mp hd).2
        rw [List.nodup_middle, List.nodup_cons] at hd'
        exact hd'.1 hy
      have herase : (chain (st.slot x)).erase x = l₁ ++ l₂ := by
        rw [hl, List.erase_append_right _ fun h => (hmem x (List.mem_append_left _ h)).2.2 rfl,
          List.erase_cons_head]
      rw [herase]
      refine hlink.unlink hd (hp ▸ hR.next_front) (fun h => hp ▸ hR.prev_back h) ?_ ?_
      · rintro y hy hne
        rcases hy with rfl | hy
        · exact hR.next_eq _ (Or.inl hb') (hp ▸ hne) fun e => hsep x hx (e ▸ hb')
        · have h := hmem y hy
          exact hR.next_eq y (Or.inr ⟨h.1, h.2.1⟩) (hp ▸ hne) h.2.2
      · intro y hy hne
        have h := hmem y hy
        exact hR.prev_eq y h.1 h.2.1 hne h.2.2
    · rw [Function.update_of_ne e]
      have hfar := fun y hy => H.foreign hsep hs hb' e (y := y) hy
      obtain ⟨hprev, hnext⟩ := H.neighbours hx hu hs
      refine (H.linked b' hb').congr ?_ ?_
      · intro y hy
        refine hR.next_eq y ?_ (fun h => hfar y hy (h ▸ hprev))
          (fun h => hfar x (h ▸ hy) (Or.inr (H.mem_slot hx hu hs)))
        rcases hy with rfl | hy
        · exact Or.inl hb'
        · have h := (H.mem_iff _ hb' y).mp hy
          exact Or.inr ⟨h.1, h.2.1⟩
      · intro y hy
        have h := (H.mem_iff _ hb' y).mp hy
        refine hR.prev_eq y h.1 h.2.1 (fun h' => ?_)
          (fun h' => hfar x (h' ▸ Or.inr hy) (Or.inr (H.mem_slot hx hu hs)))
        rcases hnext with e' | hmem
        · exact (H.linked b' hb').ne_nil y hy (h'.trans e')
        · exact hfar y (Or.inr hy) (h' ▸ Or.inr hmem)
  nodup b' hb' := by
    by_cases e : b' = st.slot x
    · subst e
      rw [Function.update_self]
      exact (H.nodup _ hb').erase x
    · rw [Function.update_of_ne e]
      exact H.nodup b' hb'
  mem_iff b' hb' y := by
    have key : cell y → (st'.used y ∧ st'.slot y = b' ↔ y ≠ x ∧ st.used y ∧ st.slot y = b') := by
      intro hy
      rw [hR.used_iff y hy]
      constructor
      · rintro ⟨⟨hu, hne⟩, h⟩
        exact ⟨hne, hu, (hR.slot_eq y hy hu hne).symm.trans h⟩
      · rintro ⟨hne, hu, h⟩
        exact ⟨⟨hu, hne⟩, (hR.slot_eq y hy hu hne).trans h⟩
    by_cases e : b' = st.slot x
    · subst e
      rw [Function.update_self, (H.nodup _ hb').mem_erase_iff, H.mem_iff _ hb']
      constructor
      · rintro ⟨hne, hy, h⟩
        exact ⟨hy, (key hy).mpr ⟨hne, h⟩⟩
      · rintro ⟨hy, h⟩
        exact ⟨((key hy).mp h).1, hy, ((key hy).mp h).2⟩
    · rw [Function.update_of_ne e, H.mem_iff _ hb']
      refine and_congr_right fun hy => ?_
      rw [key hy]
      constructor
      · rintro ⟨h1, h2⟩
        exact ⟨fun e' => e (h2.symm.trans (e' ▸ rfl)), h1, h2⟩
      · exact And.right

end Chained

end Chain
