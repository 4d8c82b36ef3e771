import OcnDevice.IpaNat.Effect.Dma

/-!
# What a delete does to the tables

`delRules`, `delIndx` and `delMeta` say what is left of the rules, the index entries and the
recorded predecessors when the commands and the repairs of a delete are through.  The rule side
only relies on the links of the rule; the index side also on those of its index entry.
-/

namespace IpaNat

open IpaNatIp4TableCache

/-- The rules after the deletion of the one at position `k`, before dead heads are collected: a
base entry is cleared, or left as a dead head when rules follow it; an expansion entry is cleared
and taken out of its chain. -/
def delRules (T : ℕ) (rules : ℕ → IpaNatRule) (k j : ℕ) : IpaNatRule :=
  if k < T then
    if j = k then
      if (rules k).nextIndex = 0 then {}
      else (rules k).deadHead
    else rules j
  else if j = k then {}
  else if j = (rules k).prevIndex then (rules j).linkTo (rules k).nextIndex
  else if (rules k).nextIndex ≠ 0 ∧ j = (rules k).nextIndex then
    (rules j).linkBack (rules k).prevIndex
  else rules j

lemma reorderCmds_cons {m d : IpaIocNatDmaOne} {ds : List IpaIocNatDmaOne}
    (hm : isIndxCmd m = false) (hd : isIndxCmd d = true) :
    reorderCmds (m :: d :: ds) = (d :: ds) ++ [m] := by
  have : (m :: d :: ds).findIdx isIndxCmd = 1 := by simp [List.findIdx_cons, hm, hd]
  simp [reorderCmds, this]

/-- Posting commands on the index tables. -/
lemma dmaAll_indx : ∀ (cmds : List IpaIocNatDmaOne) (t : IpaNatIp4TableCache),
    (∀ d ∈ cmds, isIndxCmd d) →
      (dmaAll t cmds).rules = t.rules ∧ (dmaAll t cmds).shape = t.shape ∧
        (dmaAll t cmds).metaVal = t.metaVal ∧ (dmaAll t cmds).ruleId = t.ruleId
  | [], _, _ => ⟨rfl, rfl, rfl, rfl⟩
  | d :: cmds, t, h => by
      obtain ⟨h1, h2, h3, h4⟩ :=
        dmaAll_indx cmds (t.dma d) fun d' hd' => h d' (List.mem_cons_of_mem d hd')
      have hd := dma_rules (t := t) (h d (by simp))
      simp only [dmaAll, List.foldl_cons] at h1 h2 h3 h4 ⊢
      exact ⟨h1.trans hd, h2.trans (dma_shape d), h3.trans (dma_metaVal d),
        h4.trans (dma_ruleId d)⟩

/-- The index deletion always posts a command, and only ones on the index tables. -/
lemma delIndxCmds_eq_ok {t : IpaNatIp4TableCache} {pos : DelType} {e : ℕ}
    {x : IpaNatIndxTblRule} {cmds : List IpaIocNatDmaOne} (h : delIndxCmds t pos e x = .ok cmds) :
    (∃ d ds, cmds = d :: ds) ∧ ∀ d ∈ cmds, isIndxCmd d := by
  have hty : ∀ p, (indxTblOf t p).1 = .indxTbl ∨ (indxTblOf t p).1 = .indexExpnTbl := by
    intro p
    unfold indxTblOf
    split_ifs <;> simp
  cases pos with
  | onlyOne =>
      obtain rfl := Except.ok.inj h
      exact ⟨⟨_, _, rfl⟩, by simp [isIndxCmd, indxCmd]⟩
  | head =>
      simp only [delIndxCmds, bind_eq_ok] at h
      obtain ⟨next, -, h⟩ := h
      obtain rfl := Except.ok.inj h
      exact ⟨⟨_, _, rfl⟩, by simp [isIndxCmd, indxCmd]⟩
  | middle =>
      simp only [delIndxCmds, bind_eq_ok] at h
      obtain ⟨prev, -, h⟩ := h
      obtain rfl := Except.ok.inj h
      exact ⟨⟨_, _, rfl⟩, by simpa [isIndxCmd, indxCmd] using hty prev⟩
  | last =>
      simp only [delIndxCmds, bind_eq_ok] at h
      obtain ⟨prev, -, h⟩ := h
      obtain rfl := Except.ok.inj h
      exact ⟨⟨_, _, rfl⟩, by simpa [isIndxCmd, indxCmd] using hty prev⟩

lemma isIndxCmd_delRuleCmd (t : IpaNatIp4TableCache) (pos : DelType) (e : ℕ) (r : IpaNatRule) :
    isIndxCmd (delRuleCmd t pos e r) = false := by
  have hty : ∀ p, (ruleTbl t p).1 = .baseTbl ∨ (ruleTbl t p).1 = .expnTbl := by
    intro p
    unfold ruleTbl
    split_ifs <;> simp
  cases pos with
  | onlyOne => rfl
  | head => rfl
  | middle => rcases hty r.prevIndex with h | h <;> simp [delRuleCmd, isIndxCmd, ruleCmd, h]
  | last => rcases hty r.prevIndex with h | h <;> simp [delRuleCmd, isIndxCmd, ruleCmd, h]

lemma repairHeadMeta_eq_ok {t t' : IpaNatIp4TableCache} {e : ℕ} {x : IpaNatIndxTblRule}
    (h : repairHeadMeta t e x = .ok t') :
    t'.rules = t.rules ∧ t'.indx = t.indx ∧ t'.shape = t.shape ∧ t'.ruleId = t.ruleId ∧
      ∀ i, t'.metaVal i =
        if x.nextIndex ≠ 0 ∧ t.tableEntries ≤ x.nextIndex ∧ i = x.nextIndex - t.tableEntries
        then e else t.metaVal i := by
  unfold repairHeadMeta at h
  split_ifs at h with hc
  · obtain ⟨hlen, rfl⟩ := writeMeta_eq_ok.mp h
    refine ⟨rfl, rfl, setMeta_shape, rfl, fun i => ?_⟩
    rw [setMeta_metaVal hlen]
    simp only [hc, ne_eq, not_false_eq_true, true_and]
  · obtain rfl := Except.ok.inj h
    refine ⟨rfl, rfl, rfl, rfl, fun i => ?_⟩
    rw [if_neg fun h => hc ⟨h.1, h.2.1⟩]

/-- Repairing behind the deletion of an index head. -/
lemma repairIndxHead_eq_ok {t t' : IpaNatIp4TableCache} {e nx : ℕ} (hne : e ≠ nx)
    (h : repairIndxHead t e nx = .ok t') :
    t'.shape = t.shape ∧ t'.ruleId = t.ruleId ∧
      (∀ j, t'.rules j = if j = (t.indx e).tblEntry then (t.rules j).nameIndx e
        else t.rules j) ∧
      (∀ j, t'.indx j = if j = nx then {} else t.indx j) ∧
      ∀ i, t'.metaVal i =
        if (t.indx nx).nextIndex ≠ 0 ∧ t.tableEntries ≤ (t.indx nx).nextIndex ∧
          i = (t.indx nx).nextIndex - t.tableEntries then e
        else t.metaVal i := by
  simp only [repairIndxHead, bind_eq_ok, readIndx_eq_ok, readRule_eq_ok, writeIndx_eq_ok,
    writeRule_eq_ok, entryPos_eq] at h
  obtain ⟨x, ⟨-, rfl⟩, t1, h1, t2, ⟨-, rfl⟩, y, ⟨-, hy⟩, r, ⟨-, rfl⟩, -, rfl⟩ := h
  obtain ⟨hr, hi, hs, hid, hm⟩ := repairHeadMeta_eq_ok h1
  rw [setIndx_indx, if_neg hne, hi] at hy
  subst hy
  refine ⟨hs, hid, fun j => ?_, fun j => ?_, fun i => hm i⟩
  · rw [setRule_rules, setIndx_rules, hr]
    split_ifs with hj
    · rw [hj]; rfl
    · rfl
  · rw [setRule_indx, setIndx_indx, hi]

lemma repairMiddleMeta_eq_ok {t t' : IpaNatIp4TableCache} {e : ℕ}
    (h : repairMiddleMeta t e = .ok t') :
    t'.shape = t.shape ∧ t'.ruleId = t.ruleId ∧ t'.rules = t.rules ∧ t'.indx = t.indx ∧
      ∀ i, t'.metaVal i =
        if i = e - t.tableEntries then 0
        else if i = (if t.tableEntries ≤ (t.indx e).nextIndex then
            (t.indx e).nextIndex - t.tableEntries else (t.indx e).nextIndex) then
          t.metaVal (e - t.tableEntries)
        else t.metaVal i := by
  simp only [repairMiddleMeta, bind_eq_ok, readIndx_eq_ok, readMeta_eq_ok, writeMeta_eq_ok,
    entryPos_eq] at h
  obtain ⟨x, ⟨-, rfl⟩, v, ⟨-, rfl⟩, t2, ⟨hl1, rfl⟩, hl2, rfl⟩ := h
  refine ⟨?_, rfl, rfl, rfl, fun i => ?_⟩
  · rw [setMeta_shape, setMeta_shape]
  · rw [setMeta_metaVal hl2, setMeta_metaVal hl1]
    rfl

/-- Repairing behind the deletion of any other index entry. -/
lemma repairIndx_eq_ok {t t' : IpaNatIp4TableCache} {pos : DelType} {e : ℕ}
    (h : repairIndx t pos e = .ok t') :
    t'.shape = t.shape ∧ t'.ruleId = t.ruleId ∧ t'.rules = t.rules ∧
      (∀ j, t'.indx j = if j = e then {} else t.indx j) ∧
      ∀ i, t'.metaVal i =
        if pos = .middle then
          if i = e - t.tableEntries then 0
          else if i = (if t.tableEntries ≤ (t.indx e).nextIndex then
              (t.indx e).nextIndex - t.tableEntries else (t.indx e).nextIndex) then
            t.metaVal (e - t.tableEntries)
          else t.metaVal i
        else t.metaVal i := by
  simp only [repairIndx, bind_eq_ok, writeIndx_eq_ok, entryPos_eq] at h
  obtain ⟨t1, h1, -, rfl⟩ := h
  by_cases hpos : pos = .middle
  · rw [if_pos hpos] at h1
    obtain ⟨hs, hid, hr, hi, hm⟩ := repairMiddleMeta_eq_ok h1
    refine ⟨hs, hid, hr, fun j => ?_, fun i => ?_⟩
    · rw [setIndx_indx, hi]
    · rw [if_pos hpos, setIndx_metaVal, hm]
  · rw [if_neg hpos] at h1
    obtain rfl := Except.ok.inj h1
    exact ⟨rfl, rfl, rfl, fun j => rfl, fun i => by rw [if_neg hpos, setIndx_metaVal]⟩

lemma repairBackLink_eq_ok {t t' : IpaNatIp4TableCache} {k : ℕ}
    (h : repairBackLink t k = .ok t') :
    t'.shape = t.shape ∧ t'.ruleId = t.ruleId ∧ t'.indx = t.indx ∧ t'.metaVal = t.metaVal ∧
      ∀ j, t'.rules j = if j = t.linkPos (t.rules k).nextIndex then
        (t.rules j).linkBack (t.rules k).prevIndex else t.rules j := by
  simp only [repairBackLink, bind_eq_ok, readRule_eq_ok, writeRule_eq_ok] at h
  obtain ⟨r, ⟨-, rfl⟩, n, ⟨-, rfl⟩, -, rfl⟩ := h
  refine ⟨rfl, rfl, rfl, rfl, fun j => ?_⟩
  rw [setRule_rules]
  by_cases hj : j = t.linkPos (t.rules k).nextIndex
  · rw [if_pos hj, if_pos hj, hj]; rfl
  · rw [if_neg hj, if_neg hj]

/-- Repairing the rule tables. -/
lemma repairRules_eq_ok {t t' : IpaNatIp4TableCache} {pos : DelType} {k : ℕ}
    (h : repairRules t pos k = .ok t') :
    t'.shape = t.shape ∧ t'.ruleId = t.ruleId ∧ t'.indx = t.indx ∧ t'.metaVal = t.metaVal ∧
      ∀ j, t'.rules j =
        if pos ≠ .head ∧ j = k then {}
        else if pos = .middle ∧ j = t.linkPos (t.rules k).nextIndex then
          (t.rules j).linkBack (t.rules k).prevIndex
        else t.rules j := by
  simp only [repairRules, bind_eq_ok] at h
  obtain ⟨t1, h1, h⟩ := h
  have hm : t1.shape = t.shape ∧ t1.ruleId = t.ruleId ∧ t1.indx = t.indx ∧
      t1.metaVal = t.metaVal ∧ ∀ j, t1.rules j =
        if pos = .middle ∧ j = t.linkPos (t.rules k).nextIndex then
          (t.rules j).linkBack (t.rules k).prevIndex
        else t.rules j := by
    by_cases hpos : pos = .middle
    · rw [if_pos hpos] at h1
      obtain ⟨hs, hid, hi, hmv, hr⟩ := repairBackLink_eq_ok h1
      refine ⟨hs, hid, hi, hmv, fun j => ?_⟩
      rw [hr]
      simp only [hpos, true_and]
    · rw [if_neg hpos] at h1
      obtain rfl := Except.ok.inj h1
      exact ⟨rfl, rfl, rfl, rfl, fun j => by rw [if_neg fun h => hpos h.1]⟩
  obtain ⟨hs, hid, hi, hmv, hr⟩ := hm
  by_cases hpos : pos = .head
  · rw [if_pos hpos] at h
    obtain rfl := Except.ok.inj h
    refine ⟨hs, hid, hi, hmv, fun j => ?_⟩
    rw [if_neg fun h : pos ≠ .head ∧ j = k => h.1 hpos, hr]
  · rw [if_neg hpos] at h
    obtain ⟨-, rfl⟩ := writeRule_eq_ok.mp h
    refine ⟨hs, hid, hi, hmv, fun j => ?_⟩
    rw [setRule_rules, hr]
    by_cases hj : j = k
    · rw [if_pos hj, if_pos ⟨hpos, hj⟩]
    · rw [if_neg hj, if_neg fun h : pos ≠ .head ∧ j = k => hj h.2]

/-- The links of the rule at position `k` that its deletion follows. -/
structure RuleLinks (t : IpaNatIp4TableCache) (k : ℕ) : Prop where
  prev_lt : t.tableEntries ≤ k → (t.rules k).prevIndex < t.total
  prev_ne : t.tableEntries ≤ k → (t.rules k).prevIndex ≠ k
  next_ge : t.tableEntries ≤ k → (t.rules k).nextIndex ≠ 0 → t.tableEntries ≤ (t.rules k).nextIndex
  next_lt : t.tableEntries ≤ k → (t.rules k).nextIndex < 2 ^ 16
  next_ne : t.tableEntries ≤ k → (t.rules k).nextIndex ≠ k ∧
    (t.rules k).nextIndex ≠ (t.rules k).prevIndex

/-- The classification of a rule by its table and its link. -/
lemma findRulePos_eq_ok {t : IpaNatIp4TableCache} {expn : Bool} {entry : ℕ} {pos : DelType}
    (h : ipaNatiFindRulePos t expn entry = .ok pos) :
    rulePos t expn entry < t.total ∧
      pos = if expn then
          if (t.rules (rulePos t expn entry)).nextIndex = 0 then .last else .middle
        else if (t.rules (rulePos t expn entry)).nextIndex = 0 then .onlyOne else .head := by
  simp only [ipaNatiFindRulePos, bind_eq_ok, readRule_eq_ok] at h
  obtain ⟨r, ⟨⟨-, hk⟩, rfl⟩, h⟩ := h
  refine ⟨hk, ?_⟩
  cases expn <;> exact (Except.ok.inj h).symm

/-- Writing the reserved protocol. -/
lemma setWord_deadHead (r : IpaNatRule) : r.setWord 11 invalidProtoFieldValue = r.deadHead := by
  have h1 : invalidProtoFieldValue % 2 ^ 8 * 2 ^ 16 + r.timeStamp % 2 ^ 16
      = r.timeStamp % 2 ^ 16 := by
    unfold invalidProtoFieldValue
    omega
  have h2 : UInt8.ofNat (invalidProtoFieldValue / 2 ^ 8) = invalidProtoFieldCmp := by decide
  simp only [IpaNatRule.setWord, IpaNatRule.deadHead, h1, h2]

/-- The rule command of a deletion: what it does in the rule tables. -/
lemma dma_delRuleCmd {t t' : IpaNatIp4TableCache} {expn : Bool} {entry k : ℕ} {pos : DelType}
    (hA : Addressable t) (hs : t'.shape = t.shape) (hr : t'.rules = t.rules)
    (hk : k = rulePos t expn entry) (hlt : k < t.total)
    (hbase : expn = false → k < t.tableEntries) (hL : RuleLinks t k)
    (hpos : pos = if expn then if (t.rules k).nextIndex = 0 then .last else .middle
      else if (t.rules k).nextIndex = 0 then .onlyOne else .head) :
    ∃ p r, t'.dma (delRuleCmd t pos entry (t.rules k)) = t'.setRule p r ∧
      (pos = .onlyOne → p = k) ∧
      (pos = .head → p = k ∧ r = (t.rules k).deadHead) ∧
      (expn = true → p = (t.rules k).prevIndex ∧
        r = (t.rules p).linkTo (t.rules k).nextIndex) := by
  cases expn with
  | false =>
      have hkT := hbase rfl
      have hent : ruleTbl t k = (.baseTbl, entry) := by
        unfold ruleTbl
        rw [if_pos hkT, hk]
        rfl
      by_cases h0 : (t.rules k).nextIndex = 0
      · obtain rfl : pos = .onlyOne := by simpa [h0] using hpos
        refine ⟨k, (t'.rules k).setWord 9 flagDisableBitMask, ?_, fun _ => rfl, by simp, by simp⟩
        have := dma_ruleCmd 9 flagDisableBitMask hA hs hlt (by omega)
        rw [hent] at this
        exact this
      · obtain rfl : pos = .head := by simpa [h0] using hpos
        refine ⟨k, _, ?_, by simp, fun _ => ⟨rfl, rfl⟩, by simp⟩
        have := dma_ruleCmd 11 invalidProtoFieldValue hA hs hlt (by omega)
        rw [hent, hr] at this
        rw [setWord_deadHead] at this
        exact this
  | true =>
      have hkT : t.tableEntries ≤ k := by rw [hk]; exact Nat.le_add_right _ _
      have hcmd := dma_ruleCmd 4 (t.rules k).nextIndex hA hs (hL.prev_lt hkT)
        (by omega)
      refine ⟨(t.rules k).prevIndex, _, ?_, ?_, ?_, fun _ => ⟨rfl, rfl⟩⟩
      · by_cases h0 : (t.rules k).nextIndex = 0
        · obtain rfl : pos = .last := by simpa [h0] using hpos
          rw [hr, h0] at hcmd
          rw [h0]
          exact hcmd
        · obtain rfl : pos = .middle := by simpa [h0] using hpos
          rw [hr] at hcmd
          exact hcmd
      · rintro rfl
        simp only [if_true] at hpos
        split_ifs at hpos
      · rintro rfl
        simp only [if_true] at hpos
        split_ifs at hpos

lemma linkPos_of_shape {t t' : IpaNatIp4TableCache} (hs : t'.shape = t.shape) (n : ℕ) :
    t'.linkPos n = t.linkPos n := by
  unfold linkPos expnPos
  rw [(total_of_shape hs).2]

/-- The rule command and the repairs in the rule tables together are `delRules`. -/
lemma delRuleCmd_repairRules {t t' t'' : IpaNatIp4TableCache} {expn : Bool} {entry k : ℕ}
    {pos : DelType} (hA : Addressable t) (hs : t'.shape = t.shape) (hr : t'.rules = t.rules)
    (hk : k = rulePos t expn entry) (hbase : expn = false → k < t.tableEntries)
    (hL : RuleLinks t k) (hpos : ipaNatiFindRulePos t expn entry = .ok pos)
    (h : repairRules (t'.dma (delRuleCmd t pos entry (t.rules k))) pos k = .ok t'') :
    t''.shape = t.shape ∧ t''.ruleId = t'.ruleId ∧ t''.indx = t'.indx ∧ t''.metaVal = t'.metaVal ∧
      ∀ j, t''.rules j = delRules t.tableEntries t.rules k j := by
  obtain ⟨hlt, hpos⟩ := findRulePos_eq_ok hpos
  rw [← hk] at hlt hpos
  obtain ⟨p, r, hdma, hone, hhead, hexpn⟩ := dma_delRuleCmd hA hs hr hk hlt hbase hL hpos
  rw [hdma] at h
  obtain ⟨hs', hid, hi, hm, hrules⟩ := repairRules_eq_ok h
  refine ⟨hs'.trans (setRule_shape.trans hs), hid.trans rfl, hi.trans rfl, hm.trans rfl,
    fun j => ?_⟩
  rw [hrules j]
  simp only [setRule_rules, hr]
  have hlink : ∀ n, (t'.setRule p r).linkPos n = t.linkPos n :=
    linkPos_of_shape (setRule_shape.trans hs)
  unfold delRules
  cases expn with
  | false =>
      have hkT := hbase rfl
      rw [if_pos hkT]
      by_cases h0 : (t.rules k).nextIndex = 0
      · obtain rfl : pos = .onlyOne := by simpa [h0] using hpos
        obtain rfl := hone rfl
        by_cases hj : j = p
        · simp [hj, h0]
        · simp [hj]
      · obtain rfl : pos = .head := by simpa [h0] using hpos
        obtain ⟨rfl, rfl⟩ := hhead rfl
        by_cases hj : j = p
        · simp [hj, h0]
        · simp [hj]
  | true =>
      have hkT : t.tableEntries ≤ k := by rw [hk]; exact Nat.le_add_right _ _
      obtain ⟨rfl, rfl⟩ := hexpn rfl
      have hkp : k ≠ (t.rules k).prevIndex := (hL.prev_ne hkT).symm
      rw [if_neg (show ¬ k < t.tableEntries by omega)]
      by_cases hj : j = k
      · have hne : pos ≠ .head := by rintro rfl; simp at hpos; split_ifs at hpos
        simp [hj, hne]
      · simp only [hj, and_false, if_false, hkp, hlink]
        by_cases h0 : (t.rules k).nextIndex = 0
        · obtain rfl : pos = .last := by simpa [h0] using hpos
          by_cases hjp : j = (t.rules k).prevIndex
          · simp [hjp]
          · simp [hjp, h0]
        · obtain rfl : pos = .middle := by simpa [h0] using hpos
          rw [linkPos_eq (hL.next_ge hkT h0) (hL.next_lt hkT)]
          obtain ⟨-, hnp⟩ := hL.next_ne hkT
          by_cases hjp : j = (t.rules k).prevIndex
          · have hjn : j ≠ (t.rules k).nextIndex := fun e => hnp (e.symm.trans hjp)
            rw [if_neg (fun h => hjn h.2), if_pos hjp, if_pos hjp, hjp]
          · by_cases hjn : j = (t.rules k).nextIndex
            · rw [if_pos ⟨rfl, hjn⟩, if_neg hjp, if_neg hjp, if_pos ⟨h0, hjn⟩]
            · rw [if_neg (fun h => hjn h.2), if_neg hjp, if_neg hjp, if_neg (fun h => hjn h.2)]

/-- The links of the index entry at position `e` that its deletion follows. -/
structure IndxLinks (t : IpaNatIp4TableCache) (e : ℕ) : Prop where
  next_ge : (t.indx e).nextIndex ≠ 0 → t.tableEntries ≤ (t.indx e).nextIndex
  next_lt : (t.indx e).nextIndex < 2 ^ 16
  next_next_ge : (t.indx (t.indx e).nextIndex).nextIndex ≠ 0 →
    t.tableEntries ≤ (t.indx (t.indx e).nextIndex).nextIndex
  prev_lt : t.tableEntries ≤ e → t.metaVal (e - t.tableEntries) < t.total
  prev_ne : t.tableEntries ≤ e → t.metaVal (e - t.tableEntries) ≠ e

/-- The index entries after the deletion of the one at position `e`: the head of a chain takes over
its successor, any other entry is taken out. -/
def delIndx (T : ℕ) (indx : ℕ → IpaNatIndxTblRule) (metaVal : ℕ → ℕ) (e j : ℕ) :
    IpaNatIndxTblRule :=
  if e < T then
    if (indx e).nextIndex = 0 then if j = e then {} else indx j
    else if j = (indx e).nextIndex then {}
    else if j = e then indx (indx e).nextIndex
    else indx j
  else if j = e then {}
  else if j = metaVal (e - T) then (indx j).linkTo (indx e).nextIndex
  else indx j

/-- The recorded predecessors after the deletion of the index entry at position `e`. -/
def delMeta (T : ℕ) (indx : ℕ → IpaNatIndxTblRule) (metaVal : ℕ → ℕ) (e i : ℕ) : ℕ :=
  if e < T then
    if (indx e).nextIndex ≠ 0 ∧ (indx (indx e).nextIndex).nextIndex ≠ 0
        ∧ i = (indx (indx e).nextIndex).nextIndex - T then e
    else metaVal i
  else if (indx e).nextIndex = 0 then metaVal i
  else if i = e - T then 0
  else if i = (indx e).nextIndex - T then metaVal (e - T)
  else metaVal i

/-- The rule whose index entry moves into the head, when the head of a chain with further entries
is deleted. -/
def movedRule (T : ℕ) (indx : ℕ → IpaNatIndxTblRule) (e : ℕ) : Option ℕ :=
  if e < T ∧ (indx e).nextIndex ≠ 0 then some (indx (indx e).nextIndex).tblEntry else none

lemma findIndexRulePos_eq_ok {t : IpaNatIp4TableCache} {e : ℕ} {pos : DelType}
    (h : ipaNatiFindIndexRulePos t e = .ok pos) :
    e < t.total ∧
      pos = if t.tableEntries ≤ e then if (t.indx e).nextIndex = 0 then .last else .middle
        else if (t.indx e).nextIndex = 0 then .onlyOne else .head := by
  simp only [ipaNatiFindIndexRulePos, bind_eq_ok, readIndx_eq_ok, entryPos_eq] at h
  obtain ⟨r, ⟨⟨-, he⟩, rfl⟩, h⟩ := h
  refine ⟨he, ?_⟩
  split_ifs at h ⊢ with hT <;> exact (Except.ok.inj h).symm

/-- A command on the first half of an index entry. -/
lemma dma_indxCmd_entry {t : IpaNatIp4TableCache} {k : ℕ} (t' : IpaNatIp4TableCache) (data : ℕ)
    (hA : Addressable t)
    (hs : t'.shape = t.shape) (hk : k < t.total) :
    t'.dma (indxCmd t (indxTblOf t k).1 (indxTblOf t k).2 indexRuleNatIndexFieldOffset data)
      = t'.setIndx k { tblEntry := data, nextIndex := (t'.indx k).nextIndex } :=
  dma_indxCmd (w := 0) hA hs hk (by omega)

/-- A command on the second half of an index entry. -/
lemma dma_indxCmd_next {t : IpaNatIp4TableCache} {k : ℕ} (t' : IpaNatIp4TableCache) (data : ℕ)
    (hA : Addressable t)
    (hs : t'.shape = t.shape) (hk : k < t.total) :
    t'.dma (indxCmd t (indxTblOf t k).1 (indxTblOf t k).2 indexRuleNextFieldOffset data)
      = t'.setIndx k ((t'.indx k).linkTo data) :=
  dma_indxCmd (w := 1) hA hs hk (by omega)

lemma dmaAll_cons {t : IpaNatIp4TableCache} {d : IpaIocNatDmaOne} {ds : List IpaIocNatDmaOne} :
    dmaAll t (d :: ds) = dmaAll (t.dma d) ds := by
  rw [dmaAll, dmaAll, List.foldl_cons]

lemma dmaAll_snoc {t : IpaNatIp4TableCache} {d : IpaIocNatDmaOne} {ds : List IpaIocNatDmaOne} :
    dmaAll t (ds ++ [d]) = (dmaAll t ds).dma d := by
  rw [dmaAll, dmaAll, List.foldl_append, List.foldl_cons, List.foldl_nil]

lemma dmaAll_nil {t : IpaNatIp4TableCache} : dmaAll t [] = t := by
  simp only [dmaAll, List.foldl_nil]

/-- Deleting the only index entry of a slot. -/
lemma dmaAll_delIndx_onlyOne {t : IpaNatIp4TableCache} {e : ℕ} {x : IpaNatIndxTblRule}
    {cmds : List IpaIocNatDmaOne} (hA : Addressable t) (he : e < t.total)
    (hT : e < t.tableEntries) (h : delIndxCmds t .onlyOne e x = .ok cmds) :
    dmaAll t cmds = t.setIndx e { tblEntry := 0, nextIndex := (t.indx e).nextIndex } := by
  have hent : indxTblOf t e = (.indxTbl, e) := by unfold indxTblOf; rw [if_pos hT]
  have hdma := dma_indxCmd_entry t invalidNatEntry hA rfl he
  simp only [hent] at hdma
  obtain rfl := Except.ok.inj h
  rw [dmaAll_cons, dmaAll_nil, hdma]

/-- Deleting an index head: the two commands copy the successor into it. -/
lemma dmaAll_delIndx_head {t : IpaNatIp4TableCache} {e : ℕ} {x : IpaNatIndxTblRule}
    {cmds : List IpaIocNatDmaOne} (hA : Addressable t) (he : e < t.total)
    (hT : e < t.tableEntries) (h : delIndxCmds t .head e x = .ok cmds) :
    (dmaAll t cmds).indx e = t.indx (t.linkPos x.nextIndex) ∧
      ∀ j, j ≠ e → (dmaAll t cmds).indx j = t.indx j := by
  have hent : indxTblOf t e = (.indxTbl, e) := by unfold indxTblOf; rw [if_pos hT]
  simp only [delIndxCmds, bind_eq_ok, readIndx_eq_ok] at h
  obtain ⟨y, ⟨-, rfl⟩, h⟩ := h
  generalize t.indx (t.linkPos x.nextIndex) = y at h ⊢
  obtain rfl := Except.ok.inj h
  have h1 := dma_indxCmd_entry t y.tblEntry hA rfl he
  simp only [hent] at h1
  rw [dmaAll_cons, dmaAll_cons, dmaAll_nil, h1]
  generalize ht1 : t.setIndx e { tblEntry := y.tblEntry, nextIndex := (t.indx e).nextIndex } = t1
  have hs1 : t1.shape = t.shape := by rw [← ht1]; exact setIndx_shape
  have h2 := dma_indxCmd_next t1 y.nextIndex hA hs1 he
  simp only [hent] at h2
  rw [h2]
  refine ⟨?_, fun j hj => ?_⟩
  · rw [setIndx_indx, if_pos rfl, ← ht1, setIndx_indx, if_pos rfl]
    rfl
  · rw [setIndx_indx, if_neg hj, ← ht1, setIndx_indx, if_neg hj]

/-- Deleting an index expansion entry: the command makes its predecessor point past it. -/
lemma dmaAll_delIndx_expn {t : IpaNatIp4TableCache} {e data : ℕ} {pos : DelType}
    {x : IpaNatIndxTblRule} {cmds : List IpaIocNatDmaOne} (hA : Addressable t)
    (hp : t.metaVal (e - t.tableEntries) < t.total)
    (hpos : pos = .middle ∧ data = x.nextIndex ∨ pos = .last ∧ data = 0)
    (h : delIndxCmds t pos e x = .ok cmds) :
    dmaAll t cmds = t.setIndx (t.metaVal (e - t.tableEntries))
      ((t.indx (t.metaVal (e - t.tableEntries))).linkTo data) := by
  have hdma := dma_indxCmd_next t data hA rfl hp
  rcases hpos with ⟨rfl, rfl⟩ | ⟨rfl, rfl⟩
  · simp only [delIndxCmds, bind_eq_ok, readMeta_eq_ok] at h
    obtain ⟨p, ⟨-, rfl⟩, h⟩ := h
    obtain rfl := Except.ok.inj h
    rw [dmaAll_cons, dmaAll_nil, hdma]
  · simp only [delIndxCmds, bind_eq_ok, readMeta_eq_ok] at h
    obtain ⟨p, ⟨-, rfl⟩, h⟩ := h
    obtain rfl := Except.ok.inj h
    rw [dmaAll_cons, dmaAll_nil, hdma]

/-- The index commands of a deletion: what they do in the index tables. -/
lemma dmaAll_delIndxCmds {t : IpaNatIp4TableCache} {e : ℕ} {pos : DelType}
    {cmds : List IpaIocNatDmaOne} (hA : Addressable t) (hL : IndxLinks t e)
    (hpos : ipaNatiFindIndexRulePos t e = .ok pos)
    (h : delIndxCmds t pos e (t.indx e) = .ok cmds) (j : ℕ) :
    (dmaAll t cmds).indx j =
      if e < t.tableEntries then
        if j = e then
          if (t.indx e).nextIndex = 0 then {} else t.indx (t.indx e).nextIndex
        else t.indx j
      else if j = t.metaVal (e - t.tableEntries) then (t.indx j).linkTo (t.indx e).nextIndex
      else t.indx j := by
  obtain ⟨he, hpos⟩ := findIndexRulePos_eq_ok hpos
  by_cases hT : e < t.tableEntries
  · rw [if_pos hT]
    rw [if_neg (Nat.not_le.mpr hT)] at hpos
    by_cases h0 : (t.indx e).nextIndex = 0
    · rw [if_pos h0] at hpos
      rw [hpos] at h
      rw [dmaAll_delIndx_onlyOne hA he hT h, setIndx_indx, h0]
      by_cases hj : j = e
      · rw [if_pos hj, if_pos hj, if_pos rfl]
      · rw [if_neg hj, if_neg hj]
    · rw [if_neg h0] at hpos
      rw [hpos] at h
      obtain ⟨h1, h2⟩ := dmaAll_delIndx_head hA he hT h
      by_cases hj : j = e
      · rw [if_pos hj, if_neg h0, hj, h1, linkPos_eq (hL.next_ge h0) hL.next_lt]
      · rw [if_neg hj, h2 j hj]
  · have hTe : t.tableEntries ≤ e := by omega
    rw [if_neg hT]
    rw [if_pos hTe] at hpos
    have hcase : pos = .middle ∧ (t.indx e).nextIndex = (t.indx e).nextIndex ∨
        pos = .last ∧ (t.indx e).nextIndex = 0 := by
      by_cases h0 : (t.indx e).nextIndex = 0
      · rw [if_pos h0] at hpos; exact Or.inr ⟨hpos, h0⟩
      · rw [if_neg h0] at hpos; exact Or.inl ⟨hpos, rfl⟩
    rw [dmaAll_delIndx_expn hA (hL.prev_lt hTe) hcase h, setIndx_indx]
    by_cases hj : j = t.metaVal (e - t.tableEntries)
    · rw [if_pos hj, if_pos hj, hj]
    · rw [if_neg hj, if_neg hj]

/-- What a delete does to the rule tables, before dead heads are collected: the rule at position
`k` goes, and one rule, if any, gets another index entry. -/
structure DeleteEffect (t t' : IpaNatIp4TableCache) (k : ℕ) (moved : Option ℕ) : Prop where
  shape : t'.shape = t.shape
  ruleId : t'.ruleId = t.ruleId
  rules : ∀ j, t'.rules j =
    if moved = some j then (delRules t.tableEntries t.rules k j).nameIndx (t.rules k).indxTblEntry
    else delRules t.tableEntries t.rules k j

/-- What a delete does to the index tables. -/
structure IndxDeleteEffect (t t' : IpaNatIp4TableCache) (e : ℕ) (moved : Option ℕ) : Prop where
  moved_eq : moved = movedRule t.tableEntries t.indx e
  indx : ∀ j, t'.indx j = delIndx t.tableEntries t.indx t.metaVal e j
  metaVal : ∀ i, t'.metaVal i = delMeta t.tableEntries t.indx t.metaVal e i

/-- The index side behind the deletion of an index head. -/
lemma repairIndxHead_effect {t t' t'' : IpaNatIp4TableCache} {e : ℕ}
    (hs : t'.shape = t.shape) (hm : t'.metaVal = t.metaVal) (hT : e < t.tableEntries)
    (h0 : (t.indx e).nextIndex ≠ 0) (hL : IndxLinks t e)
    (hi : ∀ j, t'.indx j = if j = e then t.indx (t.indx e).nextIndex else t.indx j)
    (h : repairIndxHead t' e (t.indx e).nextIndex = .ok t'') :
    IndxDeleteEffect t t'' e (some (t'.indx e).tblEntry) := by
  have hge := hL.next_ge h0
  have hne : (t.indx e).nextIndex ≠ e := by omega
  obtain ⟨-, -, -, hi', hm'⟩ := repairIndxHead_eq_ok hne.symm h
  refine ⟨?_, fun j => ?_, fun i => ?_⟩
  · rw [movedRule, if_pos ⟨hT, h0⟩, hi, if_pos rfl]
  · rw [hi', hi, delIndx, if_pos hT, if_neg h0]
  · rw [hm', hi, if_neg hne, hm, (total_of_shape hs).2, delMeta, if_pos hT]
    refine if_congr ⟨fun h => ⟨h0, h.1, h.2.2⟩, fun h => ⟨h.2.1, hL.next_next_ge h.2.1, h.2.2⟩⟩
      rfl rfl

/-- The index side behind the deletion of any other index entry. -/
lemma repairIndx_effect {t t' t'' : IpaNatIp4TableCache} {e : ℕ} {pos : DelType}
    (hs : t'.shape = t.shape) (hm : t'.metaVal = t.metaVal) (hL : IndxLinks t e)
    (hpos : pos = if t.tableEntries ≤ e then if (t.indx e).nextIndex = 0 then .last else .middle
      else if (t.indx e).nextIndex = 0 then .onlyOne else .head)
    (hhead : pos ≠ .head)
    (hi : ∀ j, t'.indx j = if e < t.tableEntries then
        if j = e then if (t.indx e).nextIndex = 0 then {} else t.indx (t.indx e).nextIndex
        else t.indx j
      else if j = t.metaVal (e - t.tableEntries) then (t.indx j).linkTo (t.indx e).nextIndex
      else t.indx j)
    (h : repairIndx t' pos e = .ok t'') : IndxDeleteEffect t t'' e none := by
  obtain ⟨-, -, -, hi', hm'⟩ := repairIndx_eq_ok h
  simp only [hi] at hi' hm'
  rw [hm, (total_of_shape hs).2] at hm'
  by_cases hT : t.tableEntries ≤ e
  · have hnT : ¬ e < t.tableEntries := by omega
    have hpe : e ≠ t.metaVal (e - t.tableEntries) := (hL.prev_ne hT).symm
    simp only [if_neg hnT, if_neg hpe] at hi' hm'
    rw [if_pos hT] at hpos
    refine ⟨?_, fun j => ?_, fun i => ?_⟩
    · rw [movedRule, if_neg fun h => hnT h.1]
    · rw [hi', delIndx, if_neg hnT]
    · rw [hm', delMeta, if_neg hnT]
      by_cases h0 : (t.indx e).nextIndex = 0
      · rw [if_pos h0] at hpos
        rw [if_pos h0, if_neg (by rw [hpos]; decide)]
      · rw [if_neg h0] at hpos
        rw [if_neg h0, if_pos hpos, if_pos (hL.next_ge h0)]
  · have hT' : e < t.tableEntries := by omega
    simp only [if_pos hT'] at hi' hm'
    rw [if_neg hT] at hpos
    have h0 : (t.indx e).nextIndex = 0 := by
      by_contra h0
      rw [if_neg h0] at hpos
      exact hhead hpos
    rw [if_pos h0] at hpos
    refine ⟨?_, fun j => ?_, fun i => ?_⟩
    · rw [movedRule, if_neg fun h => h.2 h0]
    · rw [hi', delIndx]
      simp only [if_pos hT', if_pos h0]
      by_cases hj : j = e
      · rw [if_pos hj, if_pos hj]
      · rw [if_neg hj, if_neg hj]
    · rw [hm', delMeta, if_pos hT', if_neg (by rw [hpos]; decide), if_neg fun h => h.1 h0]

/-- **What the commands and repairs of a delete do.**  The rule side only needs the links of the
rule, the index side those of its index entry. -/
theorem postDelDmaCmd_eq_ok {t t' : IpaNatIp4TableCache} {entry : ℕ} {expn : Bool} {pos : DelType}
    (hA : Addressable t) (hbase : expn = false → entry < t.tableEntries)
    (hL : RuleLinks t (rulePos t expn entry)) (hpos : ipaNatiFindRulePos t expn entry = .ok pos)
    (h : ipaNatiPostDelDmaCmd true t entry expn pos = .ok (some t')) :
    (t.rules (rulePos t expn entry)).enable = true ∧
      (t.rules (rulePos t expn entry)).indxTblEntry < t.total ∧
      ∃ m, DeleteEffect t t' (rulePos t expn entry) m ∧
        (IndxLinks t (t.rules (rulePos t expn entry)).indxTblEntry →
          IndxDeleteEffect t t' (t.rules (rulePos t expn entry)).indxTblEntry m) := by
  simp only [ipaNatiPostDelDmaCmd, bind_eq_ok, readRule_eq_ok] at h
  generalize hk : rulePos t expn entry = k at h hL ⊢
  obtain ⟨r, ⟨-, rfl⟩, h⟩ := h
  by_cases hen : (t.rules k).enable = false
  · rw [if_pos hen] at h
    simp [pure, Except.pure] at h
  rw [if_neg hen] at h
  simp only [bind_eq_ok, readIndx_eq_ok, entryPos_eq] at h
  obtain ⟨ipos, hipos, x, ⟨-, rfl⟩, cmds, hcmds, h⟩ := h
  obtain ⟨hlt, hiposeq⟩ := findIndexRulePos_eq_ok hipos
  refine ⟨by simpa using hen, hlt, ?_⟩
  generalize he : (t.rules k).indxTblEntry = e at hipos hcmds hlt hiposeq h ⊢
  -- the commands: index first, then the rule
  obtain ⟨⟨d, ds, rfl⟩, hind⟩ := delIndxCmds_eq_ok hcmds
  rw [reorderCmds_cons (isIndxCmd_delRuleCmd t pos entry (t.rules k)) (hind d (by simp))] at h
  obtain ⟨hr1, hs1, hm1, hid1⟩ := dmaAll_indx (d :: ds) t hind
  rw [dmaAll_snoc, if_neg (by simp)] at h
  simp only [bind_eq_ok] at h
  obtain ⟨t3, h3, h⟩ := h
  obtain ⟨hs3, hid3, hi3, hm3, hr3⟩ := delRuleCmd_repairRules hA hs1 hr1 hk.symm
    (fun hx => by rw [← hk, hx]; exact hbase hx) hL hpos h3
  have hm3' := hm3.trans hm1
  have hid3' := hid3.trans hid1
  by_cases hhead : ipos = .head
  · rw [if_pos hhead] at h
    simp only [bind_eq_ok] at h
    obtain ⟨t4, h4, h⟩ := h
    obtain rfl := Option.some.inj (Except.ok.inj h)
    rw [linkPos_of_shape hs3] at h4
    have hTe : ¬ t.tableEntries ≤ e := fun hT => by
      rw [if_pos hT, hhead] at hiposeq
      split_ifs at hiposeq
    have h0 : (t.indx e).nextIndex ≠ 0 := fun h0 => by
      rw [if_neg hTe, if_pos h0, hhead] at hiposeq
      cases hiposeq
    have hne : e ≠ t.linkPos (t.indx e).nextIndex := by
      unfold linkPos expnPos
      omega
    obtain ⟨hs4, hid4, hr4, -, -⟩ := repairIndxHead_eq_ok hne h4
    refine ⟨some (t3.indx e).tblEntry, ⟨hs4.trans hs3, hid4.trans hid3', fun j => ?_⟩, fun hI => ?_⟩
    · rw [hr4, hr3]
      by_cases hj : j = (t3.indx e).tblEntry
      · rw [if_pos hj, if_pos (by rw [hj]), he]
      · rw [if_neg hj, if_neg fun h => hj (Option.some.inj h).symm]
    · rw [linkPos_eq (hI.next_ge h0) hI.next_lt] at h4
      refine repairIndxHead_effect hs3 hm3' (by omega) h0 hI (fun j => ?_) h4
      rw [hi3, dmaAll_delIndxCmds hA hI hipos hcmds, if_pos (show e < t.tableEntries by omega),
        if_neg h0]
  · rw [if_neg hhead] at h
    simp only [bind_eq_ok] at h
    obtain ⟨t4, h4, h⟩ := h
    obtain rfl := Option.some.inj (Except.ok.inj h)
    obtain ⟨hs4, hid4, hr4, -, -⟩ := repairIndx_eq_ok h4
    refine ⟨none, ⟨hs4.trans hs3, hid4.trans hid3', fun j => ?_⟩, fun hI => ?_⟩
    · rw [hr4, hr3, if_neg (by simp)]
    · refine repairIndx_effect hs3 hm3' hI hiposeq hhead (fun j => ?_) h4
      rw [hi3, dmaAll_delIndxCmds hA hI hipos hcmds]

/-- **The ways a delete goes** when its command succeeds: the handle is refused and nothing
changes, or the rule it decodes to is deleted. -/
theorem delIpv4Rule_cases {c c' : IpaNatCache} {tblHdl ruleHdl : ℕ} {ret : ℤ}
    (h : ipaNatiDelIpv4Rule true c tblHdl ruleHdl = .ok (ret, c')) :
    (ret = einval ∧ c' = c) ∨
      ∃ expn entry pos t', ret = 0 ∧
        ipaNatiParseIpv4RuleHdl c.ip4Tbl (ruleHdl % 2 ^ 16) = .ok (expn, entry) ∧ entry ≠ 0 ∧
        ipaNatiFindRulePos c.ip4Tbl expn entry = .ok pos ∧
        ipaNatiPostDelDmaCmd true c.ip4Tbl entry expn pos = .ok (some t') ∧
        ruleHdl - 1 < t'.ruleIdLen ∧
        c' = { c with ip4Tbl := (ipaNatiDelDeadIpv4HeadNodes t').setRuleId (ruleHdl - 1) 0 } := by
  simp only [ipaNatiDelIpv4Rule, bind_eq_ok] at h
  obtain ⟨t, ht, ⟨expn, entry⟩, hparse, h⟩ := h
  obtain rfl : c.ip4Tbl = t := by
    unfold IpaNatCache.tbl at ht
    split_ifs at ht
    exact Except.ok.inj ht
  by_cases h0 : entry = invalidNatEntry
  · rw [if_pos h0] at h
    obtain ⟨rfl, rfl⟩ := Prod.mk.inj (Except.ok.inj h)
    exact Or.inl ⟨rfl, rfl⟩
  rw [if_neg h0] at h
  by_cases hv : c.ip4Tbl.valid = false
  · rw [if_pos hv] at h
    obtain ⟨rfl, rfl⟩ := Prod.mk.inj (Except.ok.inj h)
    exact Or.inl ⟨rfl, rfl⟩
  rw [if_neg hv] at h
  simp only [bind_eq_ok] at h
  obtain ⟨pos, hpos, o, ho, h⟩ := h
  cases o with
  | none =>
      obtain ⟨rfl, rfl⟩ := Prod.mk.inj (Except.ok.inj h)
      exact Or.inl ⟨rfl, rfl⟩
  | some t' =>
      simp only [bind_eq_ok, writeRuleId_eq_ok] at h
      obtain ⟨t'', ⟨hlen, rfl⟩, h⟩ := h
      obtain ⟨rfl, rfl⟩ := Prod.mk.inj (Except.ok.inj h)
      exact Or.inr ⟨expn, entry, pos, t', rfl, hparse, h0, hpos, ho, hlen, rfl⟩

/-- Decoding a handle that is in range reads its slot of `rule_id_array`. -/
lemma parseIpv4RuleHdl_eq_ok {t : IpaNatIp4TableCache} {hdl entry : ℕ} {expn : Bool}
    (h : ipaNatiParseIpv4RuleHdl t hdl = .ok (expn, entry)) :
    (t.total ≤ hdl ∧ expn = false ∧ entry = 0) ∨
      (0 < hdl ∧ hdl < t.total ∧ hdl - 1 < t.ruleIdLen ∧
        expn = decide (t.ruleId (hdl - 1) % 2 = 1) ∧ entry = t.ruleId (hdl - 1) / 2) := by
  unfold ipaNatiParseIpv4RuleHdl at h
  by_cases hT : t.total ≤ hdl
  · rw [if_pos hT] at h
    obtain ⟨rfl, rfl⟩ := Prod.mk.inj (Except.ok.inj h)
    exact Or.inl ⟨hT, rfl, rfl⟩
  · rw [if_neg hT] at h
    by_cases h0 : hdl = 0
    · simp [h0, bind, Except.bind] at h
    · rw [if_neg h0] at h
      simp only [bind_eq_ok, readRuleId_eq_ok] at h
      obtain ⟨v, ⟨hlen, rfl⟩, h⟩ := h
      obtain ⟨rfl, rfl⟩ := Prod.mk.inj (Except.ok.inj h)
      exact Or.inr ⟨by omega, by omega, hlen, rfl, rfl⟩

end IpaNat
