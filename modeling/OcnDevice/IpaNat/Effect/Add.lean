import OcnDevice.IpaNat.Effect.Dma

/-!
# What an add does to the tables

An add that has generated its rule writes the rule and the index entry to the entries chosen for
them, links both behind the ends of their chains, enables the rule, and puts the rule's id into
the first free slot of `rule_id_array`.
-/

namespace IpaNat

open IpaNatIp4TableCache

/-- What an add does to the tables, once it has generated its rule. -/
structure InstallEffect (t t' : IpaNatIp4TableCache) (g : GeneratedRule) : Prop where
  shape : t'.shape = t.shape
  rules : ∀ k, t'.rules k =
    if k = g.entry then g.rule.turnOn
    else if g.rule.prevIndex ≠ 0 ∧ k = g.rule.prevIndex then
      (t.rules k).linkTo g.entry
    else t.rules k
  indx : (g.indxPrevIndex ≠ 0 → g.indxPrevIndex < t.total ∧ g.indxPrevIndex ≠ g.indxEntry ∧
      4 * (indxTblOf t g.indxPrevIndex).2 + 2 < 2 ^ 16) →
    ∀ k, t'.indx k =
      if k = g.indxEntry then { tblEntry := g.entry, nextIndex := 0 }
      else if g.indxPrevIndex ≠ 0 ∧ k = g.indxPrevIndex then
        (t.indx k).linkTo g.indxEntry
      else t.indx k
  metaVal : ∀ i, t'.metaVal i =
    if t.tableEntries ≤ g.indxEntry ∧ i = g.indxEntry - t.tableEntries then g.indxPrevIndex
    else t.metaVal i

/-- The search of `ipa_nati_make_rule_hdl` stops at the first free slot. -/
lemma findRuleId_eq_ok {t : IpaNatIp4TableCache} : ∀ {n cnt : ℕ} {o : Option ℕ},
    findRuleId t cnt n = .ok o →
      (∃ i, o = some i ∧ cnt ≤ i ∧ i < cnt + n ∧ t.ruleId i = 0 ∧
        ∀ j, cnt ≤ j → j < i → t.ruleId j ≠ 0) ∨
      (o = none ∧ ∀ j, cnt ≤ j → j < cnt + n → t.ruleId j ≠ 0)
  | 0, cnt, o, h => by
      obtain rfl : o = none := by simpa [findRuleId, pure, Except.pure] using h.symm
      exact Or.inr ⟨rfl, fun j h1 h2 => by omega⟩
  | n + 1, cnt, o, h => by
      simp only [findRuleId, bind_eq_ok, readRuleId_eq_ok] at h
      obtain ⟨v, ⟨-, rfl⟩, h⟩ := h
      split_ifs at h with h0
      · obtain rfl : o = some cnt := by simpa [pure, Except.pure] using h.symm
        exact Or.inl ⟨cnt, rfl, le_refl _, by omega, h0, fun j h1 h2 => by omega⟩
      · rcases findRuleId_eq_ok h with ⟨i, rfl, h1, h2, h3, h4⟩ | ⟨rfl, h4⟩
        · refine Or.inl ⟨i, rfl, by omega, by omega, h3, fun j hj1 hj2 => ?_⟩
          rcases Nat.eq_or_lt_of_le hj1 with rfl | hj
          · exact h0
          · exact h4 j hj hj2
        · refine Or.inr ⟨rfl, fun j hj1 hj2 => ?_⟩
          rcases Nat.eq_or_lt_of_le hj1 with rfl | hj
          · exact h0
          · exact h4 j hj (by omega)

@[simp] lemma countEntry_rules (t : IpaNatIp4TableCache) (e : ℕ) :
    (countEntry t e).rules = t.rules := by unfold countEntry; split_ifs <;> rfl
@[simp] lemma countEntry_indx (t : IpaNatIp4TableCache) (e : ℕ) :
    (countEntry t e).indx = t.indx := by unfold countEntry; split_ifs <;> rfl
@[simp] lemma countEntry_metaVal (t : IpaNatIp4TableCache) (e : ℕ) :
    (countEntry t e).metaVal = t.metaVal := by unfold countEntry; split_ifs <;> rfl
@[simp] lemma countEntry_ruleId (t : IpaNatIp4TableCache) (e : ℕ) :
    (countEntry t e).ruleId = t.ruleId := by unfold countEntry; split_ifs <;> rfl
@[simp] lemma countEntry_shape (t : IpaNatIp4TableCache) (e : ℕ) :
    (countEntry t e).shape = t.shape := by unfold countEntry; split_ifs <;> rfl
@[simp] lemma countEntry_total (t : IpaNatIp4TableCache) (e : ℕ) :
    (countEntry t e).total = t.total := by unfold countEntry; split_ifs <;> rfl
@[simp] lemma countEntry_tableEntries (t : IpaNatIp4TableCache) (e : ℕ) :
    (countEntry t e).tableEntries = t.tableEntries := by unfold countEntry; split_ifs <;> rfl

lemma ruleIdLen_countEntry (t : IpaNatIp4TableCache) (e : ℕ) :
    (countEntry t e).ruleIdLen = t.ruleIdLen := by unfold countEntry; split_ifs <;> rfl

/-- **The handle of a new entry**: the first free slot of `rule_id_array` gets the entry's id, and
the handle is one more than the slot; without a free slot the handle is zero. -/
theorem makeRuleHdl_eq_ok {t t' : IpaNatIp4TableCache} {e hdl : ℕ}
    (h : ipaNatiMakeRuleHdl t e = .ok (hdl, t')) :
    (∃ i, hdl = i + 1 ∧ i < t.total ∧ t.ruleId i = 0 ∧ (∀ j < i, t.ruleId j ≠ 0) ∧
      i < t.ruleIdLen ∧ t' = (countEntry t e).setRuleId i (ruleIdOf t e)) ∨
    (hdl = 0 ∧ t' = countEntry t e ∧ ∀ j < t.total, t.ruleId j ≠ 0) := by
  simp only [ipaNatiMakeRuleHdl, bind_eq_ok, countEntry_total] at h
  obtain ⟨o, ho, h⟩ := h
  have hid : ∀ i, (countEntry t e).ruleId i = t.ruleId i := fun i => by rw [countEntry_ruleId]
  rcases findRuleId_eq_ok ho with ⟨i, rfl, -, hi, h0, hlt⟩ | ⟨rfl, hfull⟩
  · simp only [bind_eq_ok, writeRuleId_eq_ok, pure, Except.pure, Except.ok.injEq,
      Prod.mk.injEq] at h
    obtain ⟨t'', ⟨hlen, rfl⟩, rfl, rfl⟩ := h
    refine Or.inl ⟨i, rfl, by omega, by rw [← hid, h0], fun j hj => ?_, ?_, ?_⟩
    · rw [← hid]; exact hlt j (Nat.zero_le j) hj
    · rw [ruleIdLen_countEntry] at hlen; exact hlen
    · unfold ruleIdOf; rw [countEntry_tableEntries]
  · simp only [pure, Except.pure, Except.ok.injEq, Prod.mk.injEq] at h
    obtain ⟨rfl, rfl⟩ := h
    exact Or.inr ⟨rfl, rfl, fun j hj => by rw [← hid]; exact hfull j (Nat.zero_le j) (by omega)⟩

/-- The rule part of the write: copy the rule and link it. -/
lemma copyIpv4RuleToHw_eq_ok {t t' : IpaNatIp4TableCache} {r : IpaNatRule} {e : ℕ}
    (hA : Addressable t) (hp : r.prevIndex ≠ 0 → r.prevIndex < t.total ∧ r.prevIndex ≠ e)
    (h : ipaNatiCopyIpv4RuleToHw t true r e = .ok t') :
    e < t.total ∧ t'.indx = t.indx ∧ t'.metaVal = t.metaVal ∧ t'.ruleId = t.ruleId ∧
      t'.shape = t.shape ∧ ∀ k, t'.rules k =
        if k = e then r
        else if r.prevIndex ≠ 0 ∧ k = r.prevIndex then (t.rules k).linkTo e
        else t.rules k := by
  simp only [ipaNatiCopyIpv4RuleToHw, bind_eq_ok, writeRule_eq_ok, entryPos_eq] at h
  obtain ⟨t1, ⟨⟨-, he⟩, rfl⟩, h⟩ := h
  refine ⟨he, ?_⟩
  by_cases h0 : r.prevIndex = invalidNatEntry
  · rw [if_pos h0] at h
    obtain rfl := Except.ok.inj h
    refine ⟨rfl, rfl, rfl, rfl, fun k => ?_⟩
    rw [setRule_rules, if_neg (fun h : r.prevIndex ≠ 0 ∧ k = r.prevIndex => h.1 h0)]
  · rw [if_neg h0] at h
    obtain rfl := Except.ok.inj h
    obtain ⟨hp1, hp2⟩ := hp h0
    rw [post, if_pos rfl, dma_ruleLinkCmd (hA.of_shape setRule_shape) hp1]
    refine ⟨rfl, rfl, rfl, rfl, fun k => ?_⟩
    simp only [setRule_rules]
    by_cases hk : k = r.prevIndex
    · rw [if_pos hk, hk, if_neg hp2, if_neg hp2, if_pos ⟨h0, rfl⟩]
    · rw [if_neg hk, if_neg (fun h : r.prevIndex ≠ 0 ∧ k = r.prevIndex => hk h.2)]

/-- The index part of the write never touches a rule, wherever its command lands. -/
lemma copyIpv4IndexRuleToHw_frame {t t' : IpaNatIp4TableCache} {ok : Bool} {e p x : ℕ}
    (h : ipaNatiCopyIpv4IndexRuleToHw t ok e p x = .ok t') :
    x < t.total ∧ t'.rules = t.rules ∧ t'.metaVal = t.metaVal ∧ t'.ruleId = t.ruleId ∧
      t'.shape = t.shape := by
  simp only [ipaNatiCopyIpv4IndexRuleToHw, bind_eq_ok, writeIndx_eq_ok, entryPos_eq] at h
  obtain ⟨t1, ⟨⟨-, hx⟩, rfl⟩, h⟩ := h
  refine ⟨hx, ?_⟩
  split_ifs at h
  · obtain rfl := Except.ok.inj h
    exact ⟨rfl, rfl, rfl, rfl⟩
  · obtain rfl := Except.ok.inj h
    unfold post
    split_ifs
    · rw [dma_rules (isIndxCmd_indxLinkCmd _ _), dma_metaVal, dma_ruleId, dma_shape]
      exact ⟨rfl, rfl, rfl, rfl⟩
    · exact ⟨rfl, rfl, rfl, rfl⟩

/-- The index part of the write, when the link's offset fits. -/
lemma copyIpv4IndexRuleToHw_indx {t t' : IpaNatIp4TableCache} {e p x : ℕ} (hA : Addressable t)
    (hp : p ≠ 0 → p < t.total ∧ p ≠ x ∧ 4 * (indxTblOf t p).2 + 2 < 2 ^ 16)
    (h : ipaNatiCopyIpv4IndexRuleToHw t true e p x = .ok t') (k : ℕ) :
    t'.indx k =
      if k = x then { tblEntry := e, nextIndex := 0 }
      else if p ≠ 0 ∧ k = p then (t.indx k).linkTo x
      else t.indx k := by
  simp only [ipaNatiCopyIpv4IndexRuleToHw, bind_eq_ok, writeIndx_eq_ok, entryPos_eq] at h
  obtain ⟨t1, ⟨⟨-, hx⟩, rfl⟩, h⟩ := h
  by_cases h0 : p = invalidNatEntry
  · rw [if_pos h0] at h
    obtain rfl := Except.ok.inj h
    have h0' : ¬ (p ≠ 0 ∧ k = p) := fun h => h.1 h0
    rw [setIndx_indx, if_neg h0']
  · rw [if_neg h0] at h
    obtain rfl := Except.ok.inj h
    obtain ⟨hp1, hp2, hp3⟩ := hp h0
    rw [post, if_pos rfl, dma_indxLinkCmd (hA.of_shape setIndx_shape) hp1 hp3]
    simp only [setIndx_indx]
    by_cases hk : k = p
    · subst hk
      rw [if_pos rfl, if_neg hp2, if_neg hp2, if_pos ⟨h0, rfl⟩]
    · rw [if_neg hk, if_neg (fun h : p ≠ 0 ∧ k = p => hk h.2)]

/-- The record of the predecessor is the only thing `ipa_nati_generate_rule` writes. -/
lemma recordIndxPrev_eq_ok {t t' : IpaNatIp4TableCache} {g : GeneratedRule}
    (h : recordIndxPrev t g = .ok t') :
    t'.rules = t.rules ∧ t'.indx = t.indx ∧ t'.ruleId = t.ruleId ∧ t'.shape = t.shape ∧
      ∀ i, t'.metaVal i =
        if t.tableEntries ≤ g.indxEntry ∧ i = g.indxEntry - t.tableEntries then g.indxPrevIndex
        else t.metaVal i := by
  unfold recordIndxPrev at h
  split_ifs at h with hT
  · obtain ⟨hlen, rfl⟩ := writeMeta_eq_ok.mp h
    refine ⟨rfl, rfl, rfl, setMeta_shape, fun i => ?_⟩
    rw [setMeta_metaVal hlen]
    simp [hT]
  · obtain rfl := Except.ok.inj h
    exact ⟨rfl, rfl, rfl, rfl, fun i => by simp [hT]⟩

/-- **What an add does**, once it has generated its rule and when its commands succeed: the tables
change as `InstallEffect` says, and then either a free slot of `rule_id_array` becomes the handle
or, when there is none, the add fails all the same. -/
theorem installRule_eq_ok {c : IpaNatCache} {g : GeneratedRule} {res : AddResult}
    (hA : Addressable c.ip4Tbl)
    (hp : g.rule.prevIndex ≠ 0 → g.rule.prevIndex < c.ip4Tbl.total ∧ g.rule.prevIndex ≠ g.entry)
    (h : installRule {} c g = .ok res) :
    g.entry < c.ip4Tbl.total ∧ g.indxEntry < c.ip4Tbl.total ∧
      ∃ t', res.cache = { c with ip4Tbl := t' } ∧ InstallEffect c.ip4Tbl t' g ∧
        ((∃ i, res.ret = 0 ∧ res.ruleHdl = some (i + 1) ∧ i < c.ip4Tbl.total ∧
            c.ip4Tbl.ruleId i = 0 ∧ (∀ j < i, c.ip4Tbl.ruleId j ≠ 0) ∧
            ∀ j, t'.ruleId j = if j = i then ruleIdOf c.ip4Tbl g.entry else c.ip4Tbl.ruleId j) ∨
          (res.ret = einval ∧ res.ruleHdl = some 0 ∧ t'.ruleId = c.ip4Tbl.ruleId ∧
            ∀ j < c.ip4Tbl.total, c.ip4Tbl.ruleId j ≠ 0)) := by
  simp only [installRule, bind_eq_ok] at h
  obtain ⟨t1, h1, t2, h2, t3, h3, h⟩ := h
  obtain ⟨hr1, hi1, hid1, hs1, hm1⟩ := recordIndxPrev_eq_ok h1
  have htot1 := (total_of_shape hs1).1
  obtain ⟨he, hi2, hm2, hid2, hs2, hr2⟩ :=
    copyIpv4RuleToHw_eq_ok (hA.of_shape hs1) (fun h0 => htot1 ▸ hp h0) h2
  have hs21 := hs2.trans hs1
  obtain ⟨htot2, hT2⟩ := total_of_shape hs21
  obtain ⟨hx, hr3, hm3, hid3, hs3⟩ := copyIpv4IndexRuleToHw_frame h3
  have hs31 := hs3.trans hs21
  rw [htot1] at he
  rw [htot2] at hx
  refine ⟨he, hx, ?_⟩
  rw [if_neg (by simp), dma_enableCmd (hA.of_shape hs31) ((total_of_shape hs31).1 ▸ he)] at h
  simp only [bind_eq_ok, Prod.exists] at h
  obtain ⟨hdl, t4, h4, h⟩ := h
  set t3' := t3.setRule g.entry (t3.rules g.entry).turnOn with ht3'
  have hs3' : t3'.shape = c.ip4Tbl.shape := hs31
  -- all that is left is the handle, which only touches `rule_id_array`
  have hE : InstallEffect c.ip4Tbl t3' g := by
    refine ⟨hs3', fun k => ?_, fun hfit k => ?_, fun i => ?_⟩
    · rw [ht3', setRule_rules, hr3, hr2, hr2, hr1]
      by_cases hk : k = g.entry
      · rw [if_pos hk, if_pos hk, if_pos rfl]
      · rw [if_neg hk, if_neg hk, if_neg hk]
    · have hI := copyIpv4IndexRuleToHw_indx (hA.of_shape hs21)
        (fun h0 => by
          obtain ⟨h1, h2, h3⟩ := hfit h0
          refine ⟨htot2 ▸ h1, h2, ?_⟩
          unfold indxTblOf at h3 ⊢
          rw [hT2]
          exact h3) h3 k
      rw [ht3', setRule_indx, hI, hi2, hi1]
    · rw [ht3', setRule_metaVal, hm3, hm2, hm1]
  have hid : ∀ j, t3'.ruleId j = c.ip4Tbl.ruleId j := fun j => by
    rw [ht3', setRule_ruleId, hid3, hid2, hid1]
  have htot3 := (total_of_shape hs3').1
  rcases makeRuleHdl_eq_ok h4 with ⟨i, rfl, hi, h0, hlt, hlen, rfl⟩ | ⟨rfl, rfl, hfull⟩
  · rw [if_neg (Nat.succ_ne_zero i)] at h
    obtain rfl := Except.ok.inj h
    refine ⟨_, rfl, ⟨?_, ?_, ?_, ?_⟩, Or.inl ⟨i, rfl, rfl, htot3 ▸ hi, hid i ▸ h0,
      fun j hj => hid j ▸ hlt j hj, fun j => ?_⟩⟩
    · rw [setRuleId_shape, countEntry_shape, hE.shape]
    · simpa using hE.rules
    · simpa using hE.indx
    · simpa using hE.metaVal
    · rw [setRuleId_ruleId (by rw [ruleIdLen_countEntry]; exact hlen), countEntry_ruleId, hid]
      unfold ruleIdOf
      rw [(total_of_shape hs3').2]
  · rw [if_pos rfl] at h
    obtain rfl := Except.ok.inj h
    refine ⟨_, rfl, ⟨?_, ?_, ?_, ?_⟩, Or.inr ⟨rfl, rfl, ?_, fun j hj => hid j ▸ hfull j ?_⟩⟩
    · rw [countEntry_shape, hE.shape]
    · simpa using hE.rules
    · simpa using hE.indx
    · simpa using hE.metaVal
    · rw [countEntry_ruleId]
      exact funext hid
    · rw [htot3]
      exact hj

/-- What a generated rule is made of. -/
lemma generateRule_eq_some {c : IpaNatCache} {pubIp : UInt32} {clnt : IpaNatIpv4Rule}
    {g : GeneratedRule} (h : ipaNatiGenerateRule c pubIp clnt = .ok (some g)) :
    ∃ prev, ipaNatiGenerateTblRule c pubIp clnt = .ok (some (g.entry, prev)) ∧
      ipaNatiGenerateIndexRule c clnt = .ok (some (g.indxEntry, g.indxPrevIndex)) ∧
      g.rule = { swRuleOf pubIp clnt with prevIndex := prev, indxTblEntry := g.indxEntry } := by
  simp only [ipaNatiGenerateRule, bind_eq_ok] at h
  obtain ⟨o, ho, h⟩ := h
  cases o with
  | none => simp [pure, Except.pure] at h
  | some p =>
      simp only [bind_eq_ok] at h
      obtain ⟨o', ho', h⟩ := h
      cases o' with
      | none => simp [pure, Except.pure] at h
      | some q =>
          obtain rfl := Option.some.inj (Except.ok.inj h)
          exact ⟨p.2, ho, ho', rfl⟩

/-- **The ways an add goes**: it is refused and changes nothing, or it generates a rule and
installs it. -/
theorem addIpv4Rule_cases {io : AddIoctls} {c : IpaNatCache} {tblHdl : ℕ} {clnt : IpaNatIpv4Rule}
    {res : AddResult} (h : ipaNatiAddIpv4Rule io c tblHdl clnt = .ok res) :
    (res.ret = einval ∧ res.ruleHdl = none ∧ res.cache = c) ∨
      ∃ pdn g, c.pdn clnt.pdnIndex.toNat = .ok pdn ∧ pdn.publicIp ≠ 0 ∧
        ipaNatiGenerateRule c pdn.publicIp clnt = .ok (some g) ∧ installRule io c g = .ok res := by
  simp only [ipaNatiAddIpv4Rule, bind_eq_ok] at h
  obtain ⟨pdn, hpdn, h⟩ := h
  by_cases hip : pdn.publicIp = 0
  · rw [if_pos hip] at h
    obtain rfl := Except.ok.inj h
    exact Or.inl ⟨rfl, rfl, rfl⟩
  · rw [if_neg hip] at h
    simp only [bind_eq_ok] at h
    obtain ⟨-, -, o, ho, h⟩ := h
    cases o with
    | none =>
        obtain rfl := Except.ok.inj h
        exact Or.inl ⟨rfl, rfl, rfl⟩
    | some g => exact Or.inr ⟨pdn, g, hpdn, hip, ho, h⟩

end IpaNat
