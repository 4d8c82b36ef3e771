import OcnDevice.IpaNat.Create

/-!
# Where the DMA commands land

The model of the driver follows its source, with byte offsets and command lists.  The files of
this folder say once what comes out of that: which entries an add and a delete change, and how.
Every invariant is derived from these effects and none unfolds the operations again.

A DMA command reaches the field it is meant for only when its offset says so.  The two conditions
that take care of it are that the kernel's `tbl_addr_offset` is zero and that the offset of an
index link fits in the `uint16_t` that carries it.
-/

namespace IpaNat

open IpaNatIp4TableCache

/-! ## The changes of one entry -/

/-- Change the link of a rule. -/
@[simps] def IpaNatRule.linkTo (r : IpaNatRule) (next : ℕ) : IpaNatRule :=
  { r with nextIndex := next }

/-- Change the back link of a rule. -/
@[simps] def IpaNatRule.linkBack (r : IpaNatRule) (prev : ℕ) : IpaNatRule :=
  { r with prevIndex := prev }

/-- Change the index entry that a rule names. -/
@[simps] def IpaNatRule.nameIndx (r : IpaNatRule) (entry : ℕ) : IpaNatRule :=
  { r with indxTblEntry := entry }

/-- Enable a rule: the enable bit shares its word with two fields that become zero. -/
@[simps] def IpaNatRule.turnOn (r : IpaNatRule) : IpaNatRule :=
  { r with rsvd1 := 0, redirect := false, enable := true }

/-- A base rule that stays as a dead head: the protocol shares its word with the upper part of the
time stamp. -/
@[simps] def IpaNatRule.deadHead (r : IpaNatRule) : IpaNatRule :=
  { r with timeStamp := r.timeStamp % 2 ^ 16, protocol := invalidProtoFieldCmp }

/-- Change the link of an index entry. -/
@[simps] def IpaNatIndxTblRule.linkTo (x : IpaNatIndxTblRule) (next : ℕ) : IpaNatIndxTblRule :=
  { x with nextIndex := next }

/-! ## Where a command lands -/

/-- The kernel put the tables at offset zero, and every position fits in 16 bits. -/
structure Addressable (t : IpaNatIp4TableCache) : Prop where
  offset : t.tblAddrOffset = 0
  small : t.total < 2 ^ 16

lemma Addressable.of_shape {t t' : IpaNatIp4TableCache} (h : Addressable t)
    (hs : t'.shape = t.shape) : Addressable t' := by
  simp only [shape, Prod.mk.injEq] at hs
  obtain ⟨-, -, ho, hT, hE, -⟩ := hs
  exact ⟨by rw [ho, h.offset], by rw [total, hT, hE]; exact h.small⟩

/-- The sizes are part of the shape. -/
lemma total_of_shape {t t' : IpaNatIp4TableCache} (hs : t'.shape = t.shape) :
    t'.total = t.total ∧ t'.tableEntries = t.tableEntries := by
  simp only [shape, Prod.mk.injEq] at hs
  exact ⟨by rw [total, total, hs.2.2.2.1, hs.2.2.2.2.1], hs.2.2.2.1⟩

section Dma

variable {t : IpaNatIp4TableCache} {k w data : ℕ}

/-- A command whose offset is word `w` of a rule position writes this word. -/
lemma dma_rule (hA : Addressable t) (hk : k < t.total) (hw : w < 16) {d : IpaIocNatDmaOne}
    (hb : d.baseAddr = (ruleTbl t k).1) (ho : d.offset = 32 * (ruleTbl t k).2 + 2 * w) :
    t.dma d = t.setRule k ((t.rules k).setWord w d.data) := by
  have hsmall := hA.small
  have hbyte : t.dmaByte d = 32 * k + 2 * w := by
    unfold dmaByte
    rw [hb, ho, hA.offset]
    unfold ruleTbl
    split_ifs with hkT
    · simp only [tblStart]; omega
    · simp only [tblStart, tableEntrySize]; omega
  unfold dma
  simp only [hbyte, tableEntrySize]
  rw [if_pos (by omega), show (32 * k + 2 * w) / 32 = k by omega,
    show (32 * k + 2 * w) % 32 / 2 = w by omega]

/-- A command whose offset is word `w` of an index position writes this word. -/
lemma dma_indx (hA : Addressable t) (hk : k < t.total) (hw : w < 2) {d : IpaIocNatDmaOne}
    (hb : d.baseAddr = (indxTblOf t k).1) (ho : d.offset = 4 * (indxTblOf t k).2 + 2 * w) :
    t.dma d = t.setIndx k ((t.indx k).setWord w d.data) := by
  have hsmall := hA.small
  have hbyte : t.dmaByte d = 32 * t.total + (4 * k + 2 * w) := by
    unfold dmaByte
    rw [hb, ho, hA.offset]
    unfold indxTblOf
    split_ifs with hkT
    · simp only [tblStart, tableEntrySize]; omega
    · simp only [tblStart, tableEntrySize, indexTableEntrySize]; omega
  unfold dma
  simp only [hbyte, tableEntrySize, indexTableEntrySize]
  rw [if_neg (by omega), if_pos (by omega),
    show (32 * t.total + (4 * k + 2 * w) - 32 * t.total) / 4 = k by omega,
    show (32 * t.total + (4 * k + 2 * w) - 32 * t.total) % 4 / 2 = w by omega]

lemma ruleTbl_le (hA : Addressable t) (hk : k < t.total) : (ruleTbl t k).2 < 2 ^ 16 := by
  have := hA.small
  unfold ruleTbl
  split_ifs <;> simp only <;> omega

lemma indxTblOf_le (hA : Addressable t) (hk : k < t.total) : (indxTblOf t k).2 < 2 ^ 16 := by
  have := hA.small
  unfold indxTblOf
  split_ifs <;> simp only <;> omega

lemma getEntryOffset_eq (hA : Addressable t) (hk : k < t.total) :
    t.ipaNatiGetEntryOffset (ruleTbl t k).2 = 32 * (ruleTbl t k).2 := by
  have := ruleTbl_le hA hk
  unfold ipaNatiGetEntryOffset
  rw [hA.offset, tableEntrySize]
  omega

lemma getIndexEntryOffset_eq (hA : Addressable t) (hk : k < t.total) :
    t.ipaNatiGetIndexEntryOffset (indxTblOf t k).2 = 4 * (indxTblOf t k).2 := by
  have := indxTblOf_le hA hk
  unfold ipaNatiGetIndexEntryOffset
  rw [hA.offset, indexTableEntrySize]
  omega

lemma ruleTbl_of_shape {t' : IpaNatIp4TableCache} (hs : t'.shape = t.shape) :
    ruleTbl t' k = ruleTbl t k := by
  unfold ruleTbl
  rw [(total_of_shape hs).2]

lemma indxTblOf_of_shape {t' : IpaNatIp4TableCache} (hs : t'.shape = t.shape) :
    indxTblOf t' k = indxTblOf t k := by
  unfold indxTblOf
  rw [(total_of_shape hs).2]

/-- A command of the delete path on a rule, posted when the entries may have changed already. -/
lemma dma_ruleCmd {t' : IpaNatIp4TableCache} (w data : ℕ) (hA : Addressable t) (hs : t'.shape = t.shape)
    (hk : k < t.total) (hw : w < 16) :
    t'.dma (ruleCmd t (ruleTbl t k).1 (ruleTbl t k).2 (2 * w) data)
      = t'.setRule k ((t'.rules k).setWord w data) := by
  have := ruleTbl_le hA hk
  refine dma_rule (hA.of_shape hs) ((total_of_shape hs).1 ▸ hk) hw ?_ ?_
  · rw [ruleTbl_of_shape hs]; rfl
  · rw [ruleTbl_of_shape hs]
    simp only [ruleCmd, getEntryOffset_eq hA hk]
    omega

/-- A command of the delete path on an index entry, likewise. -/
lemma dma_indxCmd {t' : IpaNatIp4TableCache} (hA : Addressable t) (hs : t'.shape = t.shape)
    (hk : k < t.total) (hw : w < 2) :
    t'.dma (indxCmd t (indxTblOf t k).1 (indxTblOf t k).2 (2 * w) data)
      = t'.setIndx k ((t'.indx k).setWord w data) := by
  have := indxTblOf_le hA hk
  refine dma_indx (hA.of_shape hs) ((total_of_shape hs).1 ▸ hk) hw ?_ ?_
  · rw [indxTblOf_of_shape hs]; rfl
  · rw [indxTblOf_of_shape hs]
    simp only [indxCmd, getIndexEntryOffset_eq hA hk]
    omega

/-- Linking a rule behind another. -/
lemma dma_ruleLinkCmd (hA : Addressable t) (hk : k < t.total) :
    t.dma (ruleLinkCmd t k data) = t.setRule k ((t.rules k).linkTo data) :=
  dma_ruleCmd 4 _ hA rfl hk (by omega)

/-- Linking an index entry behind another, when the offset fits in 16 bits. -/
lemma dma_indxLinkCmd (hA : Addressable t) (hk : k < t.total)
    (hfit : 4 * (indxTblOf t k).2 + 2 < 2 ^ 16) :
    t.dma (indxLinkCmd t k data) = t.setIndx k ((t.indx k).linkTo data) := by
  refine dma_indx (w := 1) hA hk (by omega) rfl ?_
  simp only [indxLinkCmd, getIndexEntryOffset_eq hA hk, indexRuleNextFieldOffset]
  omega

/-- Enabling a rule. -/
lemma dma_enableCmd (hA : Addressable t) (hk : k < t.total) :
    t.dma (enableCmd t k)
      = t.setRule k (t.rules k).turnOn := by
  have hle := ruleTbl_le hA hk
  have hd : (enableCmd t k).data = flagEnableBitMask := by unfold enableCmd; split <;> rfl
  rw [dma_rule (w := 9) hA hk (by omega) ?_ ?_, hd]
  · rfl
  · unfold enableCmd ruleTbl; split_ifs <;> rfl
  · unfold ruleTbl at hle ⊢
    unfold enableCmd
    rw [hA.offset]
    split_ifs at hle ⊢ <;> simp only [tableEntrySize, ruleFlagFieldOffset] at * <;> omega

/-- Whatever a command addresses, it writes one word of one entry, or nothing in the tables. -/
lemma dma_cases (d : IpaIocNatDmaOne) :
    (∃ k w, t.dmaByte d < tableEntrySize * t.total ∧
        t.dma d = t.setRule k ((t.rules k).setWord w d.data)) ∨
      (∃ k w, t.dma d = t.setIndx k ((t.indx k).setWord w d.data)) ∨ t.dma d = t := by
  unfold dma
  by_cases h : t.dmaByte d < tableEntrySize * t.total
  · exact Or.inl ⟨_, _, h, if_pos h⟩
  · by_cases h' : t.dmaByte d - tableEntrySize * t.total < indexTableEntrySize * t.total
    · exact Or.inr (Or.inl ⟨_, _, (if_neg h).trans (if_pos h')⟩)
    · exact Or.inr (Or.inr ((if_neg h).trans (if_neg h')))

@[simp] lemma dma_shape (d : IpaIocNatDmaOne) : (t.dma d).shape = t.shape := by
  rcases dma_cases (t := t) d with ⟨k, w, -, h⟩ | ⟨k, w, h⟩ | h <;> rw [h]
  · exact setRule_shape
  · exact setIndx_shape

@[simp] lemma dma_metaVal (d : IpaIocNatDmaOne) : (t.dma d).metaVal = t.metaVal := by
  rcases dma_cases (t := t) d with ⟨k, w, -, h⟩ | ⟨k, w, h⟩ | h <;> rw [h]
  · exact setRule_metaVal
  · exact setIndx_metaVal

@[simp] lemma dma_ruleId (d : IpaIocNatDmaOne) : (t.dma d).ruleId = t.ruleId := by
  rcases dma_cases (t := t) d with ⟨k, w, -, h⟩ | ⟨k, w, h⟩ | h <;> rw [h]
  · exact setRule_ruleId
  · exact setIndx_ruleId

/-- A command on an index table leaves the rules alone, wherever it lands. -/
lemma dma_rules {d : IpaIocNatDmaOne} (hd : isIndxCmd d) : (t.dma d).rules = t.rules := by
  have hstart : tableEntrySize * t.total ≤ t.dmaByte d := by
    simp only [isIndxCmd, decide_eq_true_eq] at hd
    unfold dmaByte
    rcases hd with hd | hd <;> rw [hd] <;> simp only [tblStart] <;> omega
  rcases dma_cases (t := t) d with ⟨k, w, hlt, -⟩ | ⟨k, w, h⟩ | h
  · omega
  · rw [h, setIndx_rules]
  · rw [h]

lemma isIndxCmd_indxLinkCmd (prev entry : ℕ) : isIndxCmd (indxLinkCmd t prev entry) := by
  simp only [isIndxCmd, indxLinkCmd, indxTblOf]
  split_ifs <;> simp

end Dma

end IpaNat
