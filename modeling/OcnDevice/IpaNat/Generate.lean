import OcnDevice.IpaNat.Effect.Add

/-!
# What the generators find

Both generators walk to the end of a chain and search for a free expansion entry.  On a table
whose chains are well formed the walk ends at the last entry of the chain, within the number of
steps that the model grants it, and the search finds a free entry whenever there is one.
-/

namespace IpaNat

open IpaNatIp4TableCache Chain

/-! ## The walk -/

section Walk

variable {next : ℕ → Exec ℕ} {nx prev : ℕ → ℕ}

/-- **The walk ends at the last entry** of a chain that visits no entry twice. -/
theorem walkLinks_eq : ∀ {fuel x : ℕ} {l : List ℕ}, Linked nx prev 0 x l → (x :: l).Nodup →
    x ≠ 0 → (∀ y ∈ x :: l, next y = .ok (nx y)) → l.length < fuel →
      walkLinks next fuel x = .ok (some (lastOf x l))
  | fuel + 1, x, [], hl, _, hx, hn, _ => by
      have h0 : nx x = 0 := hl
      have hne : ¬ 0 = x := fun h => hx h.symm
      simp only [walkLinks, hn x (by simp), h0, bind, Except.bind, if_neg hne, if_true, lastOf_nil]
      rfl
  | fuel + 1, x, z :: l, hl, hd, hx, hn, hf => by
      obtain ⟨rfl, -, hz, hl'⟩ := hl
      obtain ⟨hxz, hd'⟩ := List.nodup_cons.mp hd
      have hne : nx x ≠ x := fun h => hxz (by simp [h])
      simp only [walkLinks, hn x (by simp), bind, Except.bind, if_neg hne, if_neg hz, lastOf_cons]
      exact walkLinks_eq hl' hd' hz (fun y hy => hn y (List.mem_cons_of_mem x hy))
        (by simpa using hf)

/-- The entry to link behind is the end of the chain, the head included. -/
theorem chainEnd_eq (next : ℕ → Exec ℕ) (fuel : ℕ) {b : ℕ} {l : List ℕ}
    (hl : Linked nx prev 0 b l) (hd : l.Nodup)
    (hn : ∀ y ∈ l, next y = .ok (nx y)) (hf : l.length < fuel) :
    chainEnd next fuel b (nx b) = .ok (some (lastOf b l)) := by
  unfold chainEnd
  cases l with
  | nil =>
      rw [if_pos (show nx b = invalidNatEntry from hl)]
      rfl
  | cons z l =>
      obtain ⟨rfl, -, hz, hl'⟩ := hl
      rw [if_neg hz]
      exact walkLinks_eq hl' hd hz hn (by simp only [List.length_cons] at hf; omega)

/-- Entries of an expansion table that are pairwise distinct are at most as many as the table
has. -/
lemma length_le_of_range {T N : ℕ} {l : List ℕ} (hd : l.Nodup) (hl : ∀ x ∈ l, T ≤ x ∧ x < N) :
    l.length ≤ N - T := by
  have hsub : l ⊆ List.range' T (N - T) := fun x hx => by
    have := hl x hx
    exact List.mem_range'_1.mpr ⟨this.1, by omega⟩
  simpa using (hd.subperm hsub).length_le

end Walk

/-! ## The search -/

/-- The search returns the first free entry, or zero when all are busy. -/
lemma firstFree_spec (busy : ℕ → Bool) : ∀ n cnt : ℕ,
    (firstFree busy cnt n = 0 ∧ ∀ j, cnt ≤ j → j < cnt + n → busy j = true) ∨
      (cnt ≤ firstFree busy cnt n ∧ firstFree busy cnt n < cnt + n ∧
        busy (firstFree busy cnt n) = false)
  | 0, cnt => Or.inl ⟨rfl, fun j h1 h2 => by omega⟩
  | n + 1, cnt => by
      unfold firstFree
      by_cases h : busy cnt
      · rw [if_pos h]
        rcases firstFree_spec busy n (cnt + 1) with ⟨h0, hb⟩ | ⟨h1, h2, h3⟩
        · refine Or.inl ⟨h0, fun j hj1 hj2 => ?_⟩
          rcases Nat.eq_or_lt_of_le hj1 with rfl | hj
          · exact h
          · exact hb j hj (by omega)
        · exact Or.inr ⟨by omega, by omega, h3⟩
      · rw [if_neg h]
        exact Or.inr ⟨le_refl _, by omega, by simpa using h⟩

section Links

variable {t : IpaNatIp4TableCache}

/-- The walk in the expansion table reads the link of the entry it is at. -/
lemma ruleLink_eq (hm : t.mapped) (hsmall : t.total < 2 ^ 16) {y : ℕ} (h1 : t.tableEntries ≤ y)
    (h2 : y < t.total) : ruleLink t y = .ok (t.rules y).nextIndex := by
  unfold ruleLink
  rw [linkPos_eq h1 (by omega), readRule, if_pos ⟨hm, h2⟩]
  rfl

/-- The walk in the index expansion table, likewise. -/
lemma indxLink_eq (hm : t.mapped) (hsmall : t.total < 2 ^ 16) {y : ℕ} (h1 : t.tableEntries ≤ y)
    (h2 : y < t.total) : indxLink t y = .ok (t.indx y).nextIndex := by
  unfold indxLink
  rw [linkPos_eq h1 (by omega), readIndx, if_pos ⟨hm, h2⟩]
  rfl

end Links

end IpaNat
