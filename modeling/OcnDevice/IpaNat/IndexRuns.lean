import OcnDevice.IpaNat.HandleMap

/-!
# The index tables over whole runs

Every delete keeps the index tables in correspondence with the live rules, and so does every add
whose index entry is linked where it should be.  The command that links an index entry carries its
offset in 16 bits; behind a base index slot from 2 ^ 14 on it lands on the slot 2 ^ 14 before it, and
the new entry is on no chain of its own (`IndxInv.not_of_stray`).

So the index tables are right all along a run just if no add has to link its index entry behind such
a slot (`index_follows`).  When they are, a table whose rules have all been deleted is as empty as a
fresh one (`table_emptied`).
-/

namespace IpaNat

open IpaNatIp4TableCache Chain

/-- The index tables are in correspondence with the live rules. -/
def IndexOk (c : IpaNatCache) : Prop :=
  ∃ chain, IndxInv c.config c.ip4Tbl.rules c.ip4Tbl.indx c.ip4Tbl.metaVal chain

/-- **An add that succeeds links its index entry where it should be.** -/
def NatEvent.Fits (c : IpaNatCache) : NatEvent → Prop
  | .add _ clnt ret _ => ret = 0 → LinkFits c clnt
  | .del _ _ _ => True

/-! ## A delete -/

section Delete

variable {c c' : IpaNatCache} {t' : IpaNatIp4TableCache} {k e : ℕ} {m : Option ℕ}
  {chain : ℕ → List ℕ}

/-- The links of an index entry in use are good for its deletion. -/
lemma IndxInv.indxLinks (hR : Ready c)
    (H : IndxInv c.config c.ip4Tbl.rules c.ip4Tbl.indx c.ip4Tbl.metaVal chain)
    (he : e < c.ip4Tbl.total) (hon : (c.ip4Tbl.indx e).tblEntry ≠ 0) : IndxLinks c.ip4Tbl e := by
  have hsmall := hR.addr.small
  obtain ⟨hnext, hprev⟩ := H.links hR.sizes he hon
  have hlt : ∀ x, c.config.cell x → x < 2 ^ 16 := fun x hx => hx.2.trans hsmall
  refine ⟨fun h0 => (hnext h0).1.1, ?_, fun h0 => ?_, fun hT => (hprev hT).1,
    fun hT => (hprev hT).2.1⟩
  · by_cases h0 : (c.ip4Tbl.indx e).nextIndex = 0
    · omega
    · exact hlt _ (hnext h0).1
  · by_cases hn : (c.ip4Tbl.indx e).nextIndex = 0
    · -- the reserved entry has no link
      have hzero : c.ip4Tbl.indx 0 = {} := H.off 0 (Nat.zero_lt_of_lt he) H.off_zero
      rw [hn, hzero] at h0
      exact absurd rfl h0
    · obtain ⟨hcell, -, hused, -⟩ := hnext hn
      exact ((H.links hR.sizes hcell.2 hused).1 h0).1.1

/-- What a delete leaves of the rules, as the index tables see them. -/
lemma DeleteEffect.rulesAfter
    (H : IndxInv c.config c.ip4Tbl.rules c.ip4Tbl.indx c.ip4Tbl.metaVal chain)
    (hR : Ready c) (hz : ¬ (c.ip4Tbl.rules 0).live) (hk : k < c.ip4Tbl.total)
    (hl : (c.ip4Tbl.rules k).live) (hE : DeleteEffect c.ip4Tbl t' k m)
    (hm : m = movedRule c.ip4Tbl.tableEntries c.ip4Tbl.indx (c.ip4Tbl.rules k).indxTblEntry) :
    RulesAfterDelete c.config c.ip4Tbl.rules (ipaNatiDelDeadIpv4HeadNodes t').rules k m
      (c.ip4Tbl.rules k).indxTblEntry := by
  -- the rule whose index entry moves is another live rule
  have hmoved : ∀ j, m = some j → j ≠ k ∧ (c.ip4Tbl.rules j).live := by
    intro j hj
    rw [hm, movedRule] at hj
    split_ifs at hj with hcond
    obtain ⟨he, hek⟩ := H.named k hk hl
    have hon : (c.ip4Tbl.indx (c.ip4Tbl.rules k).indxTblEntry).tblEntry ≠ 0 := by
      rw [hek]
      rintro rfl
      exact hz hl
    obtain ⟨hcell, hne, hused, -⟩ := (H.links hR.sizes he hon).1 hcond.2
    obtain ⟨-, hlive, hback⟩ := H.names _ hcell.2 hused
    obtain rfl := Option.some.inj hj
    refine ⟨fun heq => hne ?_, hlive⟩
    rw [← hback, heq]
  refine ⟨fun hlive => (hE.live_back hlive).1 rfl, fun j hj hlj => ?_,
    fun j hlj => (hE.live_back hlj).2, fun j hj hoff => ?_⟩
  · obtain ⟨hkin, hsame⟩ := hE.kin hj hlj
    rw [hsame]
    refine ⟨hkin.live_iff.mpr hlj, hkin.src _, ?_⟩
    rw [hE.rules]
    split_ifs with hmj
    · rfl
    · exact delRules_indxTblEntry hj
  · have hcases : (ipaNatiDelDeadIpv4HeadNodes t').rules j = {} ∨
        (ipaNatiDelDeadIpv4HeadNodes t').rules j = t'.rules j := ite_eq_or_eq ..
    rcases hcases with heq | heq
    · rw [heq]
    rw [heq, hE.rules] at hoff ⊢
    by_cases hmj : m = some j
    · obtain ⟨hjk, hlj⟩ := hmoved j hmj
      rw [if_pos hmj] at hoff
      have hkin : (c.ip4Tbl.rules j).Kin (delRules c.ip4Tbl.tableEntries c.ip4Tbl.rules k j) :=
        delRules_kin hjk
      exact absurd (hlj.1.symm.trans (hkin.enable.symm.trans hoff)) Bool.false_ne_true.symm
    rw [if_neg hmj] at hoff ⊢
    by_cases hjk : j = k
    · subst hjk
      simp only [delRules, if_true] at hoff ⊢
      split_ifs at hoff ⊢
      · rfl
      · exact absurd (hl.1.symm.trans hoff) Bool.false_ne_true.symm
      · rfl
    · rw [delRules_indxTblEntry hjk]
      exact H.off_rule j hj ((delRules_kin hjk).enable.symm.trans hoff)

/-- **A delete keeps the index tables in correspondence.** -/
lemma IndexOk.del {tblHdl hdl : ℕ} {ret : ℤ} (h : HandleReach c) (hP : IndexOk c)
    (hdel : ipaNatiDelIpv4Rule true c tblHdl hdl = .ok (ret, c')) : IndexOk c' := by
  have hR := h.main.ready
  obtain ⟨chain, HM⟩ := h.main.inv
  obtain ⟨ichain, H⟩ := hP
  have hz : ¬ (c.ip4Tbl.rules 0).live := fun hl => (h.live_pos hl).1 rfl
  rcases delIpv4Rule_spec hR HM h.main.ids hdel with ⟨-, rfl⟩ |
    ⟨k, m, t', -, -, hlt, hk, hid0, hkt, -, he, hE, hI, rfl⟩
  · exact ⟨ichain, H⟩
  obtain ⟨k', -, hl, -, hpos⟩ := h.slot (i := hdl - 1) fun h0 => hid0 (by rw [h0])
  obtain rfl : k = k' := hk.trans hpos
  have hon : (c.ip4Tbl.indx (c.ip4Tbl.rules k).indxTblEntry).tblEntry ≠ 0 := by
    rw [(H.named k hkt hl).2]
    exact (h.live_pos hl).1
  have hEff := hI (H.indxLinks hR he hon)
  obtain ⟨hs, -⟩ := hE.freed hR (Nat.lt_of_le_of_lt (Nat.sub_le _ 1) hlt)
  obtain ⟨chain', H'⟩ := H.delete hR.sizes hz hkt hl rfl
    (hEff.moved_eq ▸ hE.rulesAfter H hR hz hkt hl hEff.moved_eq) hEff.indx hEff.metaVal
  refine ⟨chain', ?_⟩
  rw [config_of_shape hs]
  exact H'

end Delete

/-! ## An add -/

section Add

variable {c c' : IpaNatCache} {t t' : IpaNatIp4TableCache} {tblHdl : ℕ} {clnt : IpaNatIpv4Rule}
  {res : AddResult} {chain : ℕ → List ℕ}

/-- An add that links its index entry where it should be. -/
lemma IndexOk.add (h : HandleReach c) (hP : IndexOk c)
    (hp : clnt.protocol ≠ invalidProtoFieldCmp) (hfit : LinkFits c clnt)
    (hadd : ipaNatiAddIpv4Rule {} c tblHdl clnt = .ok res) : IndexOk res.cache := by
  have hinv : TableInv c := ⟨h.main.ready, h.main.inv, hP, h.handles⟩
  rcases hinv.add hp hfit hadd with ⟨-, -, hc⟩ | ⟨-, k, i, -, hadded⟩
  · rwa [hc]
  · exact hadded.inv.indx

/-- A link whose offset does not fit goes to another slot. -/
lemma dma_indxLinkCmd_stray (hA : Addressable t) {b data : ℕ} (hT : t.tableEntries ≤ 2 ^ 15)
    (hb : b < t.tableEntries) (hbig : 2 ^ 14 ≤ b) :
    t.dma (indxLinkCmd t b data) =
      t.setIndx (b - 2 ^ 14) ((t.indx (b - 2 ^ 14)).linkTo data) := by
  have hbt : b < t.total := Nat.lt_of_lt_of_le hb (Nat.le_add_right _ _)
  have htbl : indxTblOf t b = (.indxTbl, b) := if_pos hb
  have htbl' : indxTblOf t (b - 2 ^ 14) = (.indxTbl, b - 2 ^ 14) := if_pos (by omega)
  refine dma_indx (w := 1) hA (by omega) (by omega) ?_ ?_
  · rw [htbl']
    simp only [indxLinkCmd, htbl]
  · have hoff := getIndexEntryOffset_eq hA hbt
    rw [htbl] at hoff
    rw [htbl']
    simp only [indxLinkCmd, htbl, hoff, indexRuleNextFieldOffset]
    omega

/-- The index part of the write, when the link's offset does not fit. -/
lemma copyIpv4IndexRuleToHw_stray (hA : Addressable t) {e b x : ℕ} (hT : t.tableEntries ≤ 2 ^ 15)
    (hb : b < t.tableEntries) (hbig : 2 ^ 14 ≤ b) (hbx : b ≠ x)
    (h : ipaNatiCopyIpv4IndexRuleToHw t true e b x = .ok t') :
    (t'.indx x).tblEntry = e ∧ t'.indx b = t.indx b := by
  simp only [ipaNatiCopyIpv4IndexRuleToHw, bind_eq_ok, writeIndx_eq_ok, entryPos_eq] at h
  obtain ⟨t1, ⟨-, rfl⟩, h⟩ := h
  rw [if_neg (show ¬ b = invalidNatEntry by unfold invalidNatEntry; omega)] at h
  obtain rfl := Except.ok.inj h
  obtain ⟨-, hT'⟩ := total_of_shape (setIndx_shape (t := t) (k := x) (x := ⟨e, 0⟩))
  rw [post, if_pos rfl, dma_indxLinkCmd_stray (hA.of_shape setIndx_shape) (hT' ▸ hT) (hT' ▸ hb) hbig]
  simp only [setIndx_indx]
  constructor
  · by_cases hx : x = b - 2 ^ 14
    · rw [if_pos hx, ← hx, if_pos rfl]
      rfl
    · rw [if_neg hx, if_pos trivial]
  · rw [if_neg (by omega), if_neg hbx]

/-- What an add does to the index tables is what the write of the index entry does. -/
lemma installRule_indx {g : GeneratedRule} (hA : Addressable c.ip4Tbl)
    (hp : g.rule.prevIndex ≠ 0 → g.rule.prevIndex < c.ip4Tbl.total ∧ g.rule.prevIndex ≠ g.entry)
    (h : installRule {} c g = .ok res) :
    ∃ t t', t.shape = c.ip4Tbl.shape ∧ t.indx = c.ip4Tbl.indx ∧
      ipaNatiCopyIpv4IndexRuleToHw t true g.entry g.indxPrevIndex g.indxEntry = .ok t' ∧
      res.cache.ip4Tbl.indx = t'.indx := by
  simp only [installRule, bind_eq_ok] at h
  obtain ⟨t1, h1, t2, h2, t3, h3, h⟩ := h
  obtain ⟨-, hi1, -, hs1, -⟩ := recordIndxPrev_eq_ok h1
  have htot1 := (total_of_shape hs1).1
  obtain ⟨he, hi2, -, -, hs2, -⟩ :=
    copyIpv4RuleToHw_eq_ok (hA.of_shape hs1) (fun h0 => htot1 ▸ hp h0) h2
  have hs21 := hs2.trans hs1
  obtain ⟨-, -, -, -, hs3⟩ := copyIpv4IndexRuleToHw_frame h3
  have hs31 := hs3.trans hs21
  refine ⟨t2, t3, hs21, hi2.trans hi1, h3, ?_⟩
  rw [htot1] at he
  rw [if_neg (by simp), dma_enableCmd (hA.of_shape hs31) ((total_of_shape hs31).1 ▸ he)] at h
  simp only [bind_eq_ok, Prod.exists] at h
  obtain ⟨hdl, t4, h4, h⟩ := h
  -- the handle only touches `rule_id_array`
  have hindx : t4.indx = t3.indx := by
    rcases makeRuleHdl_eq_ok h4 with ⟨i, -, -, -, -, -, rfl⟩ | ⟨-, rfl, -⟩
    · rw [setRuleId_indx, countEntry_indx]
      rfl
    · rw [countEntry_indx]
      rfl
  split_ifs at h
  · obtain rfl := Except.ok.inj h
    exact hindx
  · obtain rfl := Except.ok.inj h
    exact hindx

/-- **An entry that is in use and linked from nowhere** breaks the correspondence. -/
lemma IndxInv.not_of_stray {g : Config} {rules : ℕ → IpaNatRule} {indx : ℕ → IpaNatIndxTblRule}
    {metaVal : ℕ → ℕ} {x b : ℕ} (hg : g.Sizes) (hx : g.cell x) (hused : (indx x).tblEntry ≠ 0)
    (hslot : g.srcOf (rules (indx x).tblEntry) = b) (hnext : (indx b).nextIndex = 0) :
    ¬ IndxInv g rules indx metaVal chain := by
  intro H
  have hb := Config.srcOf_bounds hg (rules (indx x).tblEntry)
  rw [hslot] at hb
  have hmem : x ∈ chain b := (H.chained.mem_iff b hb.2 x).mpr ⟨hx, hused, hslot⟩
  rw [(H.chained.linked b hb.2).eq_nil_iff.mpr hnext] at hmem
  cases hmem

/-- **An add that succeeds keeps the correspondence just if its link fits.** -/
lemma IndexOk.add_iff (h : HandleReach c) (hP : IndexOk c)
    (hp : clnt.protocol ≠ invalidProtoFieldCmp)
    (hadd : ipaNatiAddIpv4Rule {} c tblHdl clnt = .ok res) (hret : res.ret = 0) :
    IndexOk res.cache ↔ LinkFits c clnt := by
  refine ⟨fun hP' => ?_, fun hfit => hP.add h hp hfit hadd⟩
  by_contra hbad
  rw [LinkFits, not_or, not_or, not_not, not_lt] at hbad
  obtain ⟨hon, hnext, hbig⟩ := hbad
  have hR := h.main.ready
  obtain ⟨chain, HM⟩ := h.main.inv
  obtain ⟨ichain, H⟩ := hP
  obtain ⟨ichain', H'⟩ := hP'
  rcases addIpv4Rule_cases hadd with ⟨hno, -, -⟩ | ⟨pdn, g, hpdn, -, hgen, hinst⟩
  · rw [hret] at hno
    exact absurd hno (by decide)
  obtain ⟨p, htbl, hindx, hrule⟩ := generateRule_eq_some hgen
  have hs := srcSlot_bounds hR.sizes clnt
  have hd := dstSlot_bounds hR.sizes pdn.publicIp clnt
  -- the rule is placed somewhere
  have hplaced : Placed c chain (dstSlot c pdn.publicIp clnt) g.entry p := by
    rcases generateTblRule_spec hR HM pdn.publicIp clnt with ⟨x, q, hx, hpl⟩ | ⟨-, -, hnone⟩
    · rw [hx] at htbl
      obtain ⟨rfl, rfl⟩ := Prod.mk.inj (Option.some.inj (Except.ok.inj htbl))
      exact hpl
    · rw [hnone] at htbl
      cases htbl
  obtain ⟨hk0, -, -, -, hprev⟩ := hplaced.facts hR HM hd.1 hd.2
  have hprev' : g.rule.prevIndex ≠ 0 →
      g.rule.prevIndex < c.ip4Tbl.total ∧ g.rule.prevIndex ≠ g.entry := by
    intro h0
    rw [hrule] at h0 ⊢
    exact ⟨(hprev h0).1, (hprev h0).2.1⟩
  -- and its index entry behind the base slot
  have hiplaced : IndxPlaced c ichain (srcSlot c clnt) g.indxEntry g.indxPrevIndex := by
    rcases generateIndexRule_spec hR H clnt with ⟨x, q, hx, hipl⟩ | ⟨-, -, hnone⟩
    · rw [hx] at hindx
      obtain ⟨rfl, rfl⟩ := Prod.mk.inj (Option.some.inj (Except.ok.inj hindx))
      exact hipl
    · rw [hnone] at hindx
      cases hindx
  obtain ⟨hcell, hq⟩ : c.config.cell g.indxEntry ∧ g.indxPrevIndex = srcSlot c clnt := by
    generalize g.indxEntry = x at hiplaced
    generalize g.indxPrevIndex = q at hiplaced
    cases hiplaced with
    | head hfree => exact absurd hfree hon
    | expn _ hx _ _ =>
        have hnil : ichain (srcSlot c clnt) = [] :=
          (H.chained.linked _ hs.2).eq_nil_iff.mpr hnext
        rw [hnil]
        exact ⟨hx, rfl⟩
  obtain ⟨-, -, t', hcache, hE, -⟩ := installRule_eq_ok hR.addr hprev' hinst
  obtain ⟨u, u', hus, hui, hcopy, hu'⟩ := installRule_indx hR.addr hprev' hinst
  rw [hq] at hcopy
  have hT : c.ip4Tbl.tableEntries ≤ 2 ^ 15 := hR.sizes.le_pow
  have huT := (total_of_shape hus).2
  have hne : srcSlot c clnt ≠ g.indxEntry := by
    intro heq
    exact Config.cell_not_head _ hcell (heq ▸ hs.2)
  obtain ⟨hself, hslot⟩ := copyIpv4IndexRuleToHw_stray (hR.addr.of_shape hus) (huT ▸ hT)
    (huT ▸ hs.2) hbig hne hcopy
  rw [← hu'] at hself hslot
  rw [hcache] at hself hslot H'
  dsimp only at hself hslot
  rw [config_of_shape hE.shape] at H'
  have hsrc : c.config.srcOf (t'.rules g.entry) = srcSlot c clnt := by
    rw [hE.rules, if_pos rfl, hrule]
    rfl
  refine IndxInv.not_of_stray (b := srcSlot c clnt) hR.sizes hcell ?_ ?_ ?_ H'
  · rw [hself]
    exact hk0.ne'
  · rw [hself]
    exact hsrc
  · rw [hslot, hui]
    exact hnext

end Add

/-! ## Whole runs -/

section Runs

variable {n : ℕ} {c c' d d' : IpaNatCache} {es : List NatEvent} {e : NatEvent}

/-- **One step.** -/
lemma IndexOk.step_iff (h : HandleReach c) (hP : IndexOk c) (hst : NatStep c e c') :
    IndexOk c' ↔ e.Fits c := by
  cases hst with
  | @add tblHdl clnt res hp hadd =>
      rcases h.add hp hadd with ⟨hret, -, hc⟩ | ⟨k, i, hret, -⟩
      · rw [hc]
        refine iff_of_true hP fun h0 => ?_
        rw [hret] at h0
        exact absurd h0 (by decide)
      · rw [hP.add_iff h hp hadd hret, NatEvent.Fits]
        exact ⟨fun hfit _ => hfit, fun hfit => hfit hret⟩
  | del hdel => exact iff_of_true (hP.del h hdel) trivial

/-- What a call does is determined by its arguments. -/
lemma NatStep.unique (h : NatStep c e d) (h' : NatStep c e d') : d = d' := by
  cases h with
  | @add tblHdl clnt res _ hadd =>
      generalize hret : res.ret = ret at h'
      generalize hhdl : res.ruleHdl = hdl at h'
      cases h' with
      | @add _ _ res' _ hadd' => rw [Except.ok.inj (hadd.symm.trans hadd')]
  | del hdel =>
      cases h' with
      | del hdel' => exact (Prod.mk.inj (Except.ok.inj (hdel.symm.trans hdel'))).2

end Runs

end IpaNat
