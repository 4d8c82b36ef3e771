import OcnDevice.IpaNat.LifeCycle

/-!
# Where the commands of a table land

Every DMA command names a table and an offset, and the driver computes the offsets in four places.
Two helpers, for rules and for index entries, count from the start of the table and add
`tbl_addr_offset` on 32 bits, and the delete path only uses these.  The add path links an index
entry through a `uint16_t`, and leaves `tbl_addr_offset` out where it enables a base rule.

`CommandsLand` says that all of them address the field they are meant for.  The two exceptions are
the only things in its way (`commandsLand_iff`), and what they come to depends on how many entries
the table was created for (`tableEntriesOf_le`).
-/

namespace IpaNat

open IpaNatIp4TableCache

/-- Where a 16-bit word of a rule lies in the mapped memory. -/
def ruleByte (k w : ℕ) : ℕ := tableEntrySize * k + 2 * w

/-- Where a 16-bit word of an index entry lies, behind the rules. -/
def IpaNatIp4TableCache.indxByte (t : IpaNatIp4TableCache) (k w : ℕ) : ℕ :=
  tableEntrySize * t.total + (indexTableEntrySize * k + 2 * w)

/-- The fields that the commands of the delete path on the index tables are meant for, where `prev`
is the predecessor of an entry in the expansion table. -/
def indxTargets (t : IpaNatIp4TableCache) (pos : DelType) (e prev : ℕ) : List ℕ :=
  match pos with
  | .onlyOne => [t.indxByte e 0]
  | .head => [t.indxByte e 0, t.indxByte e 1]
  | .middle | .last => [t.indxByte prev 1]

/-- **Every command lands on the field it is meant for**: the links and the enable bit of an add,
and the three fields of a rule and two of an index entry that a delete changes. -/
structure CommandsLand (t : IpaNatIp4TableCache) : Prop where
  linkRule : ∀ k < t.total, ∀ entry, t.dmaByte (ruleLinkCmd t k entry) = ruleByte k 4
  linkIndx : ∀ k < t.total, ∀ entry, t.dmaByte (indxLinkCmd t k entry) = t.indxByte k 1
  enable : ∀ k < t.total, t.dmaByte (enableCmd t k) = ruleByte k 9
  disable : ∀ k < t.tableEntries, ∀ r, t.dmaByte (delRuleCmd t .onlyOne k r) = ruleByte k 9
  deadHead : ∀ k < t.tableEntries, ∀ r, t.dmaByte (delRuleCmd t .head k r) = ruleByte k 11
  unlinkRule : ∀ pos k r, pos = .middle ∨ pos = .last → r.prevIndex < t.total →
    t.dmaByte (delRuleCmd t pos k r) = ruleByte r.prevIndex 4
  indx : ∀ pos e x prev cmds, ipaNatiFindIndexRulePos t e = .ok pos → e < t.total →
    prev < t.total → (t.tableEntries ≤ e → t.metaVal (e - t.tableEntries) = prev) →
    delIndxCmds t pos e x = .ok cmds → cmds.map t.dmaByte = indxTargets t pos e prev

section Bytes

variable {t : IpaNatIp4TableCache} {k v : ℕ}

/-- A command of the delete path on a field of a rule lands on it, wherever the kernel put the
tables. -/
lemma dmaByte_ruleCmd (hsmall : t.total < 2 ^ 16) (ho : t.tblAddrOffset < 2 ^ 32)
    (hk : k < t.total) (w : ℕ) (hw : w < 16) :
    t.dmaByte (ruleCmd t (ruleTbl t k).1 (ruleTbl t k).2 (2 * w) v) = ruleByte k w := by
  unfold dmaByte ruleCmd ipaNatiGetEntryOffset ruleByte ruleTbl
  by_cases hT : k < t.tableEntries
  · rw [if_pos hT]
    simp only [tblStart, tableEntrySize]
    omega
  · rw [if_neg hT]
    simp only [tblStart, tableEntrySize]
    omega

/-- And so does one on a field of an index entry. -/
lemma dmaByte_indxCmd (hsmall : t.total < 2 ^ 16) (ho : t.tblAddrOffset < 2 ^ 32)
    (hk : k < t.total) (w : ℕ) (hw : w < 2) :
    t.dmaByte (indxCmd t (indxTblOf t k).1 (indxTblOf t k).2 (2 * w) v) = t.indxByte k w := by
  unfold dmaByte indxCmd ipaNatiGetIndexEntryOffset indxByte indxTblOf
  by_cases hT : k < t.tableEntries
  · rw [if_pos hT]
    simp only [tblStart, tableEntrySize, indexTableEntrySize]
    omega
  · rw [if_neg hT]
    simp only [tblStart, tableEntrySize, indexTableEntrySize]
    omega

/-- Enabling a rule of the base table misses `tbl_addr_offset`. -/
lemma dmaByte_enableCmd (hsmall : t.total < 2 ^ 16) (ho : t.tblAddrOffset < 2 ^ 32)
    (hk : k < t.total) :
    t.dmaByte (enableCmd t k) = ruleByte k 9 ↔ t.tblAddrOffset = 0 ∨ t.tableEntries ≤ k := by
  unfold dmaByte enableCmd ruleByte
  by_cases hT : k < t.tableEntries
  · rw [if_pos hT]
    simp only [tblStart, tableEntrySize, ruleFlagFieldOffset]
    omega
  · rw [if_neg hT]
    simp only [tblStart, tableEntrySize, ruleFlagFieldOffset]
    omega

/-- The link of an index entry goes through 16 bits. -/
lemma dmaByte_indxLinkCmd (hsmall : t.total < 2 ^ 16) (ho : t.tblAddrOffset = 0)
    (hk : k < t.total) :
    t.dmaByte (indxLinkCmd t k v) = t.indxByte k 1 ↔ (indxTblOf t k).2 < 2 ^ 14 := by
  unfold dmaByte indxLinkCmd ipaNatiGetIndexEntryOffset indxByte indxTblOf
  rw [ho]
  by_cases hT : k < t.tableEntries
  · rw [if_pos hT]
    simp only [tblStart, tableEntrySize, indexTableEntrySize, indexRuleNextFieldOffset]
    omega
  · rw [if_neg hT]
    simp only [tblStart, tableEntrySize, indexTableEntrySize, indexRuleNextFieldOffset]
    omega

end Bytes

/-- The commands of the delete path on the index tables land, wherever the kernel put the tables. -/
lemma delIndxCmds_land {t : IpaNatIp4TableCache} (hsmall : t.total < 2 ^ 16)
    (ho : t.tblAddrOffset < 2 ^ 32) {pos : DelType} {e prev : ℕ} {x : IpaNatIndxTblRule}
    {cmds : List IpaIocNatDmaOne} (hpos : ipaNatiFindIndexRulePos t e = .ok pos)
    (he : e < t.total) (hp : prev < t.total)
    (hprev : t.tableEntries ≤ e → t.metaVal (e - t.tableEntries) = prev)
    (h : delIndxCmds t pos e x = .ok cmds) : cmds.map t.dmaByte = indxTargets t pos e prev := by
  obtain ⟨-, hcase⟩ := findIndexRulePos_eq_ok hpos
  have hbase : pos = .onlyOne ∨ pos = .head → e < t.tableEntries := by
    rintro (rfl | rfl) <;> by_contra hge <;> rw [if_pos (by omega)] at hcase <;>
      split_ifs at hcase
  have hexpn : pos = .middle ∨ pos = .last → t.tableEntries ≤ e := by
    rintro (rfl | rfl) <;> by_contra hlt <;> rw [if_neg (by omega)] at hcase <;>
      split_ifs at hcase
  cases pos with
  | onlyOne =>
      have hT := hbase (Or.inl rfl)
      obtain rfl := Except.ok.inj h
      have h0 := dmaByte_indxCmd (v := invalidNatEntry) hsmall ho he 0 (by omega)
      rw [indxTblOf, if_pos hT] at h0
      exact congrArg (fun b => [b]) h0
  | head =>
      have hT := hbase (Or.inr rfl)
      simp only [delIndxCmds, bind_eq_ok] at h
      obtain ⟨next, -, h⟩ := h
      obtain rfl := Except.ok.inj h
      have h0 := dmaByte_indxCmd (v := next.tblEntry) hsmall ho he 0 (by omega)
      have h1 := dmaByte_indxCmd (v := next.nextIndex) hsmall ho he 1 (by omega)
      rw [indxTblOf, if_pos hT] at h0 h1
      exact congrArg₂ (fun a b => [a, b]) h0 h1
  | middle =>
      simp only [delIndxCmds, bind_eq_ok, readMeta_eq_ok] at h
      obtain ⟨v, ⟨-, hv⟩, h⟩ := h
      obtain rfl := Except.ok.inj h
      rw [hprev (hexpn (Or.inl rfl))] at hv
      rw [← hv]
      exact congrArg (fun b => [b]) (dmaByte_indxCmd hsmall ho hp 1 (by omega))
  | last =>
      simp only [delIndxCmds, bind_eq_ok, readMeta_eq_ok] at h
      obtain ⟨v, ⟨-, hv⟩, h⟩ := h
      obtain rfl := Except.ok.inj h
      rw [hprev (hexpn (Or.inr rfl))] at hv
      rw [← hv]
      exact congrArg (fun b => [b]) (dmaByte_indxCmd hsmall ho hp 1 (by omega))

/-- **All commands land** exactly when the kernel put the tables at offset 0 and no index table has
more than 16384 entries. -/
theorem commandsLand_iff {t : IpaNatIp4TableCache} (hsmall : t.total < 2 ^ 16)
    (ho : t.tblAddrOffset < 2 ^ 32) (hT : 2 ≤ t.tableEntries) (hE : 2 ≤ t.expnTableEntries) :
    CommandsLand t ↔
      t.tblAddrOffset = 0 ∧ t.tableEntries ≤ 2 ^ 14 ∧ t.expnTableEntries ≤ 2 ^ 14 := by
  have htot : t.total = t.tableEntries + t.expnTableEntries := rfl
  constructor
  · intro h
    have ho0 : t.tblAddrOffset = 0 := by
      have h1 := (dmaByte_enableCmd hsmall ho (by omega)).mp (h.enable 1 (by omega))
      omega
    have hlink : ∀ k, k < t.total → (indxTblOf t k).2 < 2 ^ 14 := fun k hk =>
      (dmaByte_indxLinkCmd hsmall ho0 hk).mp (h.linkIndx k hk 0)
    refine ⟨ho0, ?_, ?_⟩
    · have hlast := hlink (t.tableEntries - 1) (by omega)
      rw [indxTblOf, if_pos (by omega)] at hlast
      omega
    · have hlast := hlink (t.tableEntries + (t.expnTableEntries - 1)) (by omega)
      rw [indxTblOf, if_neg (by omega)] at hlast
      simp only at hlast
      omega
  · rintro ⟨ho0, hT14, hE14⟩
    have hrule : ∀ {k v : ℕ} (w : ℕ), k < t.total → w < 16 →
        t.dmaByte (ruleCmd t (ruleTbl t k).1 (ruleTbl t k).2 (2 * w) v) = ruleByte k w :=
      fun w hk hw => dmaByte_ruleCmd hsmall ho hk w hw
    refine ⟨fun k hk entry => hrule 4 hk (by omega), fun k hk entry => ?_, fun k hk => ?_,
      fun k hk r => ?_, fun k hk r => ?_, fun pos k r hpos hr => ?_, ?_⟩
    · rw [dmaByte_indxLinkCmd hsmall ho0 hk]
      unfold indxTblOf
      split_ifs <;> simp only <;> omega
    · exact (dmaByte_enableCmd hsmall ho hk).mpr (Or.inl ho0)
    · have h9 := hrule (v := flagDisableBitMask) 9 (show k < t.total by omega) (by omega)
      rwa [ruleTbl, if_pos hk] at h9
    · have h11 := hrule (v := invalidProtoFieldValue) 11 (show k < t.total by omega) (by omega)
      rwa [ruleTbl, if_pos hk] at h11
    · rcases hpos with rfl | rfl
      · exact hrule 4 hr (by omega)
      · exact hrule 4 hr (by omega)
    · exact fun pos e x prev cmds hpos he hp hprev h =>
        delIndxCmds_land hsmall ho hpos he hp hprev h

/-! ## What that means for a creation -/

/-- The base table has at most 16384 entries when its share of the entries is that small. -/
lemma getNearest2Power_le {num n : ℕ} (h : getNearest2Power num = some n) (hn : num < 2 ^ 16) :
    n ≠ 0 → (n ≤ 2 ^ 14 ↔ num ≤ 2 ^ 14) := by
  intro hn0
  unfold getNearest2Power at h
  by_cases h0 : num = 0
  · simp [h0] at h
  rw [if_neg h0] at h
  by_cases h1 : num = 1
  · rw [if_pos h1] at h
    obtain rfl := Option.some.inj h
    omega
  rw [if_neg h1] at h
  obtain rfl := Option.some.inj h
  obtain ⟨hlo, hhi⟩ : 2 ^ num.log2 ≤ num ∧ num < 2 ^ (num.log2 + 1) :=
    ⟨Nat.log2_self_le h0, Nat.lt_log2_self⟩
  have hk : num.log2 < 16 := (Nat.log2_lt h0).mpr hn
  have hloop := nearest2PowerLoop_eq num num.log2 16 num 0 hlo hhi hk (by omega)
  rw [pow_zero, Nat.zero_add] at hloop
  rw [hloop] at hn0 ⊢
  by_cases he : num = 2 ^ num.log2
  · rw [if_neg (not_not_intro he)]
    omega
  · rw [if_pos he] at hn0 ⊢
    have hlt : num.log2 < 15 := by
      by_contra hge
      obtain h15 : num.log2 = 15 := by omega
      simp [h15] at hn0
    rw [Nat.mod_eq_of_lt (Nat.pow_lt_pow_right (by omega) (by omega))]
    constructor
    · intro hle
      omega
    · intro hle
      have hlog : num.log2 < 14 := by
        by_contra hge
        obtain h14 : num.log2 = 14 := by omega
        rw [h14] at he hlo
        omega
      exact Nat.pow_le_pow_right (by omega) (by omega)

lemma tableEntriesOf_le {n T : ℕ} (hn : n ≤ 40961) (h : tableEntriesOf n = some T) :
    T ≤ 2 ^ 14 ↔ n ≤ 20481 := by
  have hT := tableEntriesOf_ne_zero hn h
  have hlt : (if n * 8 / 10 = 0 then 1 else n * 8 / 10) < 2 ^ 16 := by split_ifs <;> omega
  rw [getNearest2Power_le h hlt hT]
  split_ifs <;> omega

/-- **The commands of a created table** land on the fields they are meant for exactly when the
kernel put it at offset 0 and it was created for at most 20481 entries, in every state of its
life. -/
theorem created_commands_land {n : ℕ} {c : IpaNatCache} (h : TableFor n c) (hn : n ≤ 40961)
    (ho : c.ip4Tbl.tblAddrOffset < 2 ^ 32) :
    CommandsLand c.ip4Tbl ↔ c.ip4Tbl.tblAddrOffset = 0 ∧ n ≤ 20481 := by
  obtain ⟨h2, -, hE2, hsmall⟩ :=
    tableEntriesOf_bounds (by omega) h.base (tableEntriesOf_ne_zero hn h.base)
  rw [← h.expn] at hE2 hsmall
  have hE14 : c.ip4Tbl.expnTableEntries ≤ 2 ^ 14 := by
    have hle := getNearestEven_le (n * 2 / 10)
    rw [h.expn, expnTableEntriesOf]
    omega
  rw [commandsLand_iff hsmall ho h2 hE2, tableEntriesOf_le hn h.base]
  exact and_congr_right fun _ => and_iff_left hE14

/-- Tables at offset 0 for 20000 and for 20482 entries. -/
theorem created_commands_land_big :
    (TableFor 20000 (tableOf 20000) ∧ CommandsLand (tableOf 20000).ip4Tbl) ∧
      TableFor 20482 (tableOf 20482) ∧ ¬ CommandsLand (tableOf 20482).ip4Tbl := by
  have h1 : TableFor 20000 (tableOf 20000) := ⟨rfl, rfl, rfl, rfl, rfl, rfl, rfl⟩
  have h2 : TableFor 20482 (tableOf 20482) := ⟨rfl, rfl, rfl, rfl, rfl, rfl, rfl⟩
  refine ⟨⟨h1, ?_⟩, h2, ?_⟩
  · exact (created_commands_land h1 (by omega) (by decide)).mpr ⟨rfl, by omega⟩
  · intro h
    have hle := ((created_commands_land h2 (by omega) (by decide)).mp h).2
    omega

end IpaNat
