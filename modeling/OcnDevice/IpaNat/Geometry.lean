import OcnDevice.IpaNat.Create

/-!
# The geometry of a table

For a number of entries `ipa_nati_alloc_table` computes the sizes of the base table and of the
expansion table, and asks for the memory of both and of their index tables;
`ipa_nati_update_cache` lays the four sections out in it, one behind the other.

`AllocMem.Sound` is what the rest of the driver needs of the sizes.  It holds as long as rounding the
base table up to a power of two stays within 16 bits.
-/

namespace IpaNat

/-! ## The layout -/

/-- A section of the memory: where it begins, and where it ends. -/
structure Section where
  start : ℕ
  stop : ℕ
  deriving DecidableEq, Repr

namespace AllocMem

variable (mem : AllocMem)

/-- The sections, from `ipv4_rules_addr`, `ipv4_expn_rules_addr`, `index_table_addr` and
`index_table_expn_addr`, as long as their entries. -/
def sections : List Section :=
  let index := tableEntrySize * (mem.tableEntries + mem.expnTableEntries)
  let indexExpn := index + indexTableEntrySize * mem.tableEntries
  [⟨0, tableEntrySize * mem.tableEntries⟩,
    ⟨tableEntrySize * mem.tableEntries,
      tableEntrySize * mem.tableEntries + tableEntrySize * mem.expnTableEntries⟩,
    ⟨index, index + indexTableEntrySize * mem.tableEntries⟩,
    ⟨indexExpn, indexExpn + indexTableEntrySize * mem.expnTableEntries⟩]

/-- The sizes are what the driver needs: shares of the entries that were asked for, rounded up, in
sections that lie side by side within the memory, with hashes that give heads of chains other than
entry 0. -/
structure Sound (numberOfEntries : ℕ) : Prop where
  pow_two : ∃ k, 1 ≤ k ∧ mem.tableEntries = 2 ^ k
  base_share : numberOfEntries * 8 / 10 ≤ mem.tableEntries
  even : 2 ∣ mem.expnTableEntries
  expn_share : numberOfEntries * 2 / 10 ≤ mem.expnTableEntries
  apart : mem.sections.Pairwise fun a b => a.stop ≤ b.start
  fits : ∀ a ∈ mem.sections, a.start ≤ a.stop ∧ a.stop ≤ mem.size
  dst_hash : ∀ hwV4 publicIp trgtIp trgtPort publicPort proto,
    0 < (dstHash hwV4 publicIp trgtIp trgtPort publicPort proto (hashSize mem.tableEntries)).toNat ∧
      (dstHash hwV4 publicIp trgtIp trgtPort publicPort proto (hashSize mem.tableEntries)).toNat <
        mem.tableEntries
  src_hash : ∀ privIp privPort trgtIp trgtPort proto,
    0 < (srcHash privIp privPort trgtIp trgtPort proto (hashSize mem.tableEntries)).toNat ∧
      (srcHash privIp privPort trgtIp trgtPort proto (hashSize mem.tableEntries)).toNat <
        mem.tableEntries

end AllocMem

/-! ## When it is sound -/

section Bounds

variable {n T : ℕ} {env : AddTblEnv} {c : IpaNatCache} {mem : AllocMem}

/-- The sizes and the memory that are asked for. -/
lemma ipaNatiAllocTable_eq_some (h : (ipaNatiAllocTable env c n).2 = some mem) :
    tableEntriesOf n = some mem.tableEntries ∧ mem.expnTableEntries = expnTableEntriesOf n ∧
      mem.size = (tableEntrySize + indexTableEntrySize) *
        ((mem.tableEntries + mem.expnTableEntries) % 2 ^ 16) := by
  unfold ipaNatiAllocTable at h
  split at h
  · cases h
  · next T hT =>
      dsimp only at h
      split_ifs at h
      split at h
      · cases h
      · split at h
        · cases h
        · cases h
          exact ⟨hT, rfl, (Nat.add_mul _ _ _).symm⟩

/-- The base table is a power of two that has room for its share, or has wrapped to nothing. -/
lemma tableEntriesOf_cases (hn : n < 2 ^ 16) (h : tableEntriesOf n = some T) :
    (T = 0 ∧ 40961 < n) ∨ ∃ k, 1 ≤ k ∧ k ≤ 15 ∧ T = 2 ^ k ∧ n * 8 / 10 ≤ T := by
  have hbase : n * 8 / 10 ≤ if n * 8 / 10 = 0 then 1 else n * 8 / 10 := by
    split_ifs <;> omega
  have hlt : (if n * 8 / 10 = 0 then 1 else n * 8 / 10) < 2 ^ 16 := by
    split_ifs <;> omega
  rcases getNearest2Power_eq hlt h with ⟨hT, hbig⟩ | ⟨k, hk1, hk2, hT, hle⟩
  · refine Or.inl ⟨hT, ?_⟩
    split_ifs at hbig <;> omega
  · exact Or.inr ⟨k, hk1, hk2, hT, hbase.trans hle⟩

/-- The expansion table is even and has room for its share. -/
lemma expnTableEntriesOf_spec (n : ℕ) :
    2 ∣ expnTableEntriesOf n ∧ n * 2 / 10 ≤ expnTableEntriesOf n := by
  unfold expnTableEntriesOf getNearestEven
  split_ifs <;> omega

/-- A hash with the size of a table is a position in it other than 0. -/
lemma maskHash_bounds (hash : UInt16) (h2 : 2 ≤ T) (hT : T < 2 ^ 16) :
    0 < (maskHash hash (hashSize T)).toNat ∧ (maskHash hash (hashSize T)).toNat < T := by
  have hsize : (hashSize T).toNat = T - 1 := hashSize_toNat (by omega) hT
  have hle := maskHash_le hash (hashSize T)
  have hpos : 0 < (maskHash hash (hashSize T)).toNat := maskHash_pos (by omega)
  omega

end Bounds

/-- **The geometry is sound** exactly as long as the base share is not rounded up to 65536. -/
theorem geometry_sound {n : ℕ} {env : AddTblEnv} {c : IpaNatCache} {mem : AllocMem} (h1 : 1 ≤ n)
    (hn : n < 2 ^ 16) (h : (ipaNatiAllocTable env c n).2 = some mem) :
    mem.Sound n ↔ n ≤ 40961 := by
  obtain ⟨hT, hE, hsize⟩ := ipaNatiAllocTable_eq_some h
  rcases tableEntriesOf_cases hn hT with ⟨h0, hbig⟩ | ⟨k, hk1, hk, hTk, hshare⟩
  · have hnot : ¬ mem.Sound n := by
      intro hsound
      obtain ⟨k, -, hk⟩ := hsound.pow_two
      exact (Nat.two_pow_pos k).ne' (hk.symm.trans h0)
    exact ⟨fun hsound => absurd hsound hnot, fun hle => absurd hbig (by omega)⟩
  · have hle15 : 2 ^ k ≤ 2 ^ 15 := Nat.pow_le_pow_right (by omega) hk
    obtain ⟨heven, hexpn⟩ := expnTableEntriesOf_spec n
    obtain ⟨h2, h15, -, htotal⟩ := tableEntriesOf_bounds hn hT (hTk ▸ (Nat.two_pow_pos k).ne')
    rw [← hE] at heven hexpn htotal
    rw [Nat.mod_eq_of_lt htotal] at hsize
    refine ⟨fun _ => by omega, fun _ => ⟨⟨k, hk1, hTk⟩, hshare, heven, hexpn, ?_, ?_,
      fun _ _ _ _ _ _ => maskHash_bounds _ h2 (by omega),
      fun _ _ _ _ _ => maskHash_bounds _ h2 (by omega)⟩⟩
    · simp only [AllocMem.sections, tableEntrySize, indexTableEntrySize, List.pairwise_cons,
        List.mem_cons, List.not_mem_nil, or_false, forall_eq_or_imp, forall_eq]
      refine ⟨⟨?_, ?_, ?_⟩, ⟨?_, ?_⟩, ?_, by simp⟩ <;> omega
    · rw [hsize]
      simp only [AllocMem.sections, tableEntrySize, indexTableEntrySize, List.mem_cons,
        List.not_mem_nil, or_false, forall_eq_or_imp, forall_eq]
      refine ⟨?_, ?_, ?_, ?_⟩ <;> omega

/-- 100 entries make a base table of 128 and an expansion table of 20. -/
theorem geometry_sound_hundred :
    ∃ mem, (ipaNatiAllocTable {} { pdns := [] } 100).2 = some mem ∧ mem.Sound 100 := by
  have h : (ipaNatiAllocTable {} { pdns := [] } 100).2 = some ⟨5328, 0, 128, 20⟩ := rfl
  exact ⟨_, h, (geometry_sound (by omega) (by omega) h).mpr (by omega)⟩

/-- A table of 50000 entries gets no base table at all. -/
theorem geometry_wrapped : ∃ mem, (ipaNatiAllocTable {} { pdns := [] } 50000).2 = some mem ∧
    mem.tableEntries = 0 ∧ ¬ mem.Sound 50000 := by
  refine ⟨⟨360000, 0, 0, 10000⟩, rfl, rfl, fun h => ?_⟩
  obtain ⟨k, -, hk⟩ := h.pow_two
  exact (Nat.two_pow_pos k).ne hk

end IpaNat
