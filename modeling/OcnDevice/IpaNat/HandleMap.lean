import OcnDevice.IpaNat.TableRuns

/-!
# The NAT table as a finite map

To a client the NAT table is a map from handles to the rules that it has added and not deleted.
`RuleMap` is that map and `RuleMap.Step` says what a call may do to it: an add takes a handle that
is free or changes nothing, and a delete succeeds just if its handle is held.

`view` reads the map off `rule_id_array` and the rule tables, and whatever the driver does is a step
of the map (`table_refines_map`).  The index tables play no part: a delete changes one field of a
rule on their behalf, which is none of the client's.
-/

namespace IpaNat

open IpaNatIp4TableCache Chain

/-! ## The map -/

/-- The rules that a client has in the table, by their handles. -/
abbrev RuleMap := ℕ → Option IpaNatIpv4Rule

/-- What a call may do to the map; `bound` is what a handle has to be below to be accepted. -/
inductive RuleMap.Step (bound : ℕ) : RuleMap → NatEvent → RuleMap → Prop
  | added {M : RuleMap} {tblHdl hdl : ℕ} {clnt : IpaNatIpv4Rule} (h0 : 0 < hdl) (hb : hdl < bound)
      (hfree : M hdl = none) :
      Step bound M (.add tblHdl clnt 0 (some hdl)) (Function.update M hdl (some clnt))
  | refused {M : RuleMap} {tblHdl : ℕ} {clnt : IpaNatIpv4Rule} :
      Step bound M (.add tblHdl clnt einval none) M
  | deleted {M : RuleMap} {tblHdl hdl : ℕ} {clnt : IpaNatIpv4Rule} (hheld : M hdl = some clnt) :
      Step bound M (.del tblHdl hdl 0) (Function.update M hdl none)
  | unknown {M : RuleMap} {tblHdl hdl : ℕ} (hfree : M hdl = none) :
      Step bound M (.del tblHdl hdl einval) M

/-- The position that a handle stands for. -/
def place (t : IpaNatIp4TableCache) (hdl : ℕ) : ℕ := idPos t (t.ruleId (hdl - 1))

/-- **The map that the table holds.** -/
def view (t : IpaNatIp4TableCache) : RuleMap := fun hdl =>
  if 0 < hdl ∧ hdl < t.total ∧ t.ruleId (hdl - 1) ≠ 0 then some (t.rules (place t hdl)).clnt
  else none

/-- The same rule, as far as a client can tell. -/
structure IpaNatRule.Kin (r r' : IpaNatRule) : Prop where
  enable : r'.enable = r.enable
  clnt : r'.clnt = r.clnt

section Rules

variable {r r' r'' : IpaNatRule} {t t' : IpaNatIp4TableCache} {T k j : ℕ}
  {rules : ℕ → IpaNatRule}

lemma IpaNatRule.Kin.refl (r : IpaNatRule) : r.Kin r := ⟨rfl, rfl⟩

lemma IpaNatRule.Kin.protocol (h : r.Kin r') : r'.protocol = r.protocol :=
  congrArg IpaNatIpv4Rule.protocol h.clnt

lemma IpaNatRule.Kin.live_iff (h : r.Kin r') : r'.live ↔ r.live := by
  rw [IpaNatRule.live, IpaNatRule.live, h.enable, h.protocol]

/-- The hash of the private side is one of the client's fields. -/
lemma IpaNatRule.Kin.src (h : r.Kin r') (g : Config) : g.srcOf r' = g.srcOf r := by
  have hip : r'.privateIp = r.privateIp := congrArg IpaNatIpv4Rule.privateIp h.clnt
  have hport : r'.privatePort = r.privatePort := congrArg IpaNatIpv4Rule.privatePort h.clnt
  have htip : r'.targetIp = r.targetIp := congrArg IpaNatIpv4Rule.targetIp h.clnt
  have htport : r'.targetPort = r.targetPort := congrArg IpaNatIpv4Rule.targetPort h.clnt
  rw [Config.srcOf, Config.srcOf, hip, hport, htip, htport, h.protocol]

/-- The deletion of a rule leaves the others. -/
lemma delRules_kin (hj : j ≠ k) : (rules j).Kin (delRules T rules k j) := by
  unfold delRules
  split_ifs <;> exact ⟨rfl, rfl⟩

lemma delRules_indxTblEntry (hj : j ≠ k) :
    (delRules T rules k j).indxTblEntry = (rules j).indxTblEntry := by
  unfold delRules
  split_ifs <;> rfl

/-- The deleted rule is cleared or a dead head. -/
lemma delRules_self (T : ℕ) (rules : ℕ → IpaNatRule) (k : ℕ) : ¬ (delRules T rules k k).live := by
  simp only [delRules, if_true]
  split_ifs
  · exact fun h => Bool.false_ne_true h.1
  · exact fun h => h.2 rfl
  · exact fun h => Bool.false_ne_true h.1

/-- Collecting dead heads leaves a live rule. -/
lemma collect_rules (hl : (t'.rules j).live) :
    (ipaNatiDelDeadIpv4HeadNodes t').rules j = t'.rules j :=
  if_neg fun h => hl.2 h.2.1

/-- **A delete takes one rule out**, and leaves the others as they are to a client. -/
lemma DeleteEffect.kin {m : Option ℕ} (hE : DeleteEffect t t' k m) (hj : j ≠ k)
    (hl : (t.rules j).live) : (t.rules j).Kin (t'.rules j) ∧
      (ipaNatiDelDeadIpv4HeadNodes t').rules j = t'.rules j := by
  have hkin : (t.rules j).Kin (t'.rules j) := by
    have hdel : (t.rules j).Kin (delRules t.tableEntries t.rules k j) := delRules_kin hj
    rw [hE.rules]
    split_ifs
    · exact ⟨hdel.enable, hdel.clnt⟩
    · exact hdel
  exact ⟨hkin, collect_rules (hkin.live_iff.mpr hl)⟩

/-- No other rule becomes live. -/
lemma DeleteEffect.live_back {m : Option ℕ} (hE : DeleteEffect t t' k m)
    (hl : ((ipaNatiDelDeadIpv4HeadNodes t').rules j).live) : j ≠ k ∧ (t.rules j).live := by
  have hl' : (t'.rules j).live := by
    have hcases : (ipaNatiDelDeadIpv4HeadNodes t').rules j = {} ∨
        (ipaNatiDelDeadIpv4HeadNodes t').rules j = t'.rules j := ite_eq_or_eq ..
    rcases hcases with heq | heq
    · rw [heq] at hl
      exact (Bool.false_ne_true hl.1).elim
    · rwa [heq] at hl
  have hdel : (delRules t.tableEntries t.rules k j).live := by
    rw [hE.rules] at hl'
    split_ifs at hl'
    · exact hl'
    · exact hl'
  have hj : j ≠ k := by
    rintro rfl
    exact delRules_self _ _ _ hdel
  exact ⟨hj, (delRules_kin hj).live_iff.mp hdel⟩

/-- An add leaves the other rules as they are to a client. -/
lemma InstallEffect.kin {gr : GeneratedRule} (hE : InstallEffect t t' gr) (hj : j ≠ gr.entry) :
    (t.rules j).Kin (t'.rules j) := by
  rcases hE.like hj with heq | heq
  · rw [heq]
    exact .refl _
  · rw [heq]
    exact ⟨rfl, rfl⟩

end Rules

/-! ## One step -/

/-- A state that a run can reach, as far as the rules and their handles are concerned. -/
structure HandleReach (c : IpaNatCache) : Prop where
  main : MainReach c
  handles : HandleInv c.ip4Tbl
  bound : ∀ i, c.ip4Tbl.ruleId i ≠ 0 → i + 2 ≤ c.ip4Tbl.total

section Step

variable {c c' : IpaNatCache} {tblHdl hdl k : ℕ} {clnt : IpaNatIpv4Rule} {res : AddResult}
  {ret : ℤ} {t t' : IpaNatIp4TableCache}

lemma view_eq_some : view t hdl = some clnt ↔
    (0 < hdl ∧ hdl < t.total ∧ t.ruleId (hdl - 1) ≠ 0) ∧ (t.rules (place t hdl)).clnt = clnt := by
  unfold view
  split_ifs with h
  · rw [Option.some_inj, and_iff_right h]
  · exact iff_of_false (fun heq => nomatch heq) fun heq => h heq.1

lemma view_isSome : (view t hdl).isSome ↔ 0 < hdl ∧ hdl < t.total ∧ t.ruleId (hdl - 1) ≠ 0 := by
  unfold view
  split_ifs with h
  · exact iff_of_true rfl h
  · exact iff_of_false (fun h' => nomatch h') h

/-- The reserved positions hold no live rule. -/
lemma HandleReach.live_pos (h : HandleReach c) (hl : (c.ip4Tbl.rules k).live) :
    k ≠ 0 ∧ k ≠ c.ip4Tbl.tableEntries := by
  obtain ⟨chain, H⟩ := h.main.inv
  constructor
  · rintro rfl
    exact Bool.false_ne_true (H.off_zero.symm.trans hl.1)
  · rintro rfl
    exact Bool.false_ne_true (H.off_expn.symm.trans hl.1)

/-- The rule that a slot in use stands for. -/
lemma HandleReach.slot (h : HandleReach c) {i : ℕ} (hi : c.ip4Tbl.ruleId i ≠ 0) :
    ∃ k < c.ip4Tbl.total, (c.ip4Tbl.rules k).live ∧ c.ip4Tbl.ruleId i = ruleIdOf c.ip4Tbl k ∧
      idPos c.ip4Tbl (c.ip4Tbl.ruleId i) = k := by
  obtain ⟨-, k, hk, hl, hid⟩ := h.handles.slot i hi
  refine ⟨k, hk, hl, hid, ?_⟩
  rw [hid, idPos_ruleIdOf h.main.ready.sizes hk]

/-- **An add**, on the rules and the handles. -/
lemma HandleReach.add (h : HandleReach c) (hp : clnt.protocol ≠ invalidProtoFieldCmp)
    (hadd : ipaNatiAddIpv4Rule {} c tblHdl clnt = .ok res) :
    (res.ret = einval ∧ res.ruleHdl = none ∧ res.cache = c) ∨
      ∃ k i, res.ret = 0 ∧ res.ruleHdl = some (i + 1) ∧ HandleReach res.cache ∧
        res.cache.ip4Tbl.shape = c.ip4Tbl.shape ∧ i + 2 ≤ c.ip4Tbl.total ∧ c.ip4Tbl.ruleId i = 0 ∧
        k < c.ip4Tbl.total ∧ ¬ (c.ip4Tbl.rules k).live ∧ (res.cache.ip4Tbl.rules k).live ∧
        (∀ j, res.cache.ip4Tbl.ruleId j =
          if j = i then ruleIdOf c.ip4Tbl k else c.ip4Tbl.ruleId j) ∧
        (res.cache.ip4Tbl.rules k).clnt = clnt ∧
        ∀ j, j ≠ k → (c.ip4Tbl.rules j).Kin (res.cache.ip4Tbl.rules j) := by
  have hreach := h.main.step (NatStep.add hp hadd)
  have hR := h.main.ready
  obtain ⟨chain, H⟩ := h.main.inv
  rcases addIpv4Rule_spec hR H hadd with hno |
    ⟨pdn, p, gr, t', hpdn, hpl, -, hrule, -, hcache, hE, hhdl⟩
  · exact Or.inl hno
  have hb := dstSlot_bounds hR.sizes pdn.publicIp clnt
  obtain ⟨hk0, hk, -, hkoff, -⟩ := hpl.facts hR H hb.1 hb.2
  have hkdead : ¬ (c.ip4Tbl.rules gr.entry).live := fun hl =>
    Bool.false_ne_true (hkoff.symm.trans hl.1)
  have hself : t'.rules gr.entry = gr.rule.turnOn := by rw [hE.rules, if_pos rfl]
  have hlive : (t'.rules gr.entry).live := by
    rw [hself, hrule]
    exact ⟨rfl, hp⟩
  rcases hhdl with ⟨i, hret, hhdl, hi, hi0, hlt, hid⟩ | ⟨-, -, -, hfull⟩
  · have hbound := h.handles.first_free hR.sizes H.off_zero H.off_expn hlt
    have hH := h.handles.add hR rfl hE.shape hk hkdead hi hi0 hlive
      (fun j hj => (hE.kin hj).live_iff) (fun hl => (h.live_pos hl).1 rfl) hid
    rw [hcache] at hreach ⊢
    refine Or.inr ⟨gr.entry, i, hret, hhdl, ⟨hreach, hH, fun j hj => ?_⟩, hE.shape, hbound, hi0, hk,
      hkdead, hlive, hid, ?_, fun j hj => hE.kin hj⟩
    · rw [(total_of_shape hE.shape).1]
      rw [hid] at hj
      split_ifs at hj with hji
      · rw [hji]
        exact hbound
      · exact h.bound j hj
    · -- the number of the PDN survives its field
      have hlt : clnt.pdnIndex.toNat < 2 ^ 4 := by
        have hlen : c.pdns.length ≤ 2 ^ 4 := hR.sizes.pdns
        unfold IpaNatCache.pdn at hpdn
        by_contra hge
        rw [List.getElem?_eq_none (by omega)] at hpdn
        cases hpdn
      rw [hself, hrule]
      simp only [IpaNatRule.clnt, IpaNatRule.turnOn, swRuleOf, Nat.mod_eq_of_lt hlt,
        UInt8.ofNat_toNat]
  · have := h.handles.first_free hR.sizes H.off_zero H.off_expn hfull
    omega

/-- **A delete of a handle that is held succeeds.** -/
lemma HandleReach.del_held (h : HandleReach c) (hlt : hdl < c.ip4Tbl.total)
    (hheld : c.ip4Tbl.ruleId (hdl - 1) ≠ 0)
    (hdel : ipaNatiDelIpv4Rule true c tblHdl hdl = .ok (ret, c')) : ret = 0 := by
  obtain ⟨k, hk, hl, hid, hpos⟩ := h.slot hheld
  have hsmall := h.main.ready.addr.small
  obtain ⟨hk0, hkT⟩ := h.live_pos hl
  have hmod : hdl % 2 ^ 16 = hdl := Nat.mod_eq_of_lt (by omega)
  simp only [ipaNatiDelIpv4Rule, bind_eq_ok, hmod] at hdel
  obtain ⟨t, ht, ⟨expn, entry⟩, hparse, hdel⟩ := hdel
  obtain rfl : c.ip4Tbl = t := by
    unfold IpaNatCache.tbl at ht
    split_ifs at ht
    exact Except.ok.inj ht
  rcases parseIpv4RuleHdl_eq_ok hparse with ⟨hge, -, -⟩ | ⟨-, -, -, hexpn, hentry⟩
  · omega
  have hne : ¬ entry = invalidNatEntry := by
    rw [hentry, hid]
    have hcases := ruleIdOf_cases h.main.ready.sizes hk
    unfold invalidNatEntry
    omega
  rw [if_neg hne, if_neg (by rw [h.main.ready.valid]; exact Bool.false_ne_true.symm)] at hdel
  simp only [bind_eq_ok] at hdel
  obtain ⟨pos, -, o, hpost, hdel⟩ := hdel
  cases o with
  | some t' =>
      simp only [bind_eq_ok] at hdel
      obtain ⟨t'', -, hret⟩ := hdel
      exact (Prod.mk.inj (Except.ok.inj hret)).1.symm
  | none =>
      -- only a rule that is not enabled is not deleted
      have hplace : rulePos c.ip4Tbl expn entry = k := by
        rw [hexpn, hentry]
        exact hpos
      simp only [ipaNatiPostDelDmaCmd, bind_eq_ok, readRule_eq_ok, hplace] at hpost
      obtain ⟨r, ⟨-, rfl⟩, hpost⟩ := hpost
      rw [if_neg (by rw [hl.1]; exact Bool.false_ne_true.symm)] at hpost
      simp only [bind_eq_ok] at hpost
      obtain ⟨ipos, -, x, -, cmds, -, hpost⟩ := hpost
      rw [if_neg Bool.false_ne_true.symm] at hpost
      simp only [bind_eq_ok] at hpost
      obtain ⟨t3, -, hpost⟩ := hpost
      split_ifs at hpost
      · simp only [bind_eq_ok] at hpost
        obtain ⟨t4, -, h4⟩ := hpost
        cases h4
      · simp only [bind_eq_ok] at hpost
        obtain ⟨t4, -, h4⟩ := hpost
        cases h4

/-- The handles behind a delete. -/
lemma HandleInv.del (H : HandleInv t) (hs : t'.shape = t.shape) {i : ℕ}
    (hk : t.ruleId i = ruleIdOf t k)
    (hid : ∀ j, t'.ruleId j = if j = i then 0 else t.ruleId j)
    (hlive : ∀ j, (t'.rules j).live ↔ j ≠ k ∧ (t.rules j).live)
    (hinj : ∀ j < t.total, j ≠ k → ruleIdOf t j ≠ ruleIdOf t k) (hi : t.ruleId i ≠ 0) :
    HandleInv t' := by
  obtain ⟨htot, -⟩ := total_of_shape hs
  have hother : ∀ j, t'.ruleId j ≠ 0 → j ≠ i ∧ t'.ruleId j = t.ruleId j := by
    intro j hj
    rw [hid] at hj ⊢
    split_ifs at hj ⊢ with hji
    · exact absurd rfl hj
    · exact ⟨hji, rfl⟩
  refine ⟨fun j hj => ?_, fun j j' hj hjj => ?_, fun j hj hl => ?_⟩
  · obtain ⟨hji, heq⟩ := hother j hj
    rw [heq] at hj ⊢
    obtain ⟨hlt, k', hk', hl', hid'⟩ := H.slot j hj
    rw [htot]
    refine ⟨hlt, k', hk', (hlive k').mpr ⟨?_, hl'⟩, hid'.trans (ruleIdOf_of_shape hs k').symm⟩
    rintro rfl
    exact hji (H.inj j i hj (hid'.trans hk.symm))
  · obtain ⟨-, heq⟩ := hother j hj
    obtain ⟨-, heq'⟩ := hother j' (hjj ▸ hj)
    rw [heq] at hj
    exact H.inj j j' hj (heq.symm.trans (hjj.trans heq'))
  · rw [htot] at hj ⊢
    obtain ⟨hjk, hl⟩ := (hlive j).mp hl
    obtain ⟨i', hi', hid'⟩ := H.has j hj hl
    refine ⟨i', hi', ?_⟩
    have hne : i' ≠ i := by
      rintro rfl
      exact hinj j hj hjk (hid'.symm.trans hk)
    rw [hid, if_neg hne, hid', ruleIdOf_of_shape hs]

/-- **A delete**, on the rules and the handles. -/
lemma HandleReach.del (h : HandleReach c)
    (hdel : ipaNatiDelIpv4Rule true c tblHdl hdl = .ok (ret, c')) :
    (ret = einval ∧ c' = c ∧ view c.ip4Tbl hdl = none) ∨
      ret = 0 ∧ HandleReach c' ∧ c'.ip4Tbl.shape = c.ip4Tbl.shape ∧
        (view c.ip4Tbl hdl).isSome ∧
        (∀ j, c'.ip4Tbl.ruleId j = if j = hdl - 1 then 0 else c.ip4Tbl.ruleId j) ∧
        ∀ j, j ≠ place c.ip4Tbl hdl → (c.ip4Tbl.rules j).live →
          (c.ip4Tbl.rules j).Kin (c'.ip4Tbl.rules j) := by
  have hreach := h.main.step (.del hdel)
  have hR := h.main.ready
  obtain ⟨chain, H⟩ := h.main.inv
  rcases delIpv4Rule_spec hR H h.main.ids hdel with ⟨hret, hc⟩ |
    ⟨k, m, t', hret, h0, hlt, hk, hid0, -, -, -, hE, -, hc⟩
  · refine Or.inl ⟨hret, hc, ?_⟩
    by_contra hsome
    obtain ⟨-, hlt, hid⟩ := view_isSome.mp (Option.isSome_iff_ne_none.mpr hsome)
    rw [h.del_held hlt hid hdel] at hret
    exact absurd hret (by decide)
  · have hid : c.ip4Tbl.ruleId (hdl - 1) ≠ 0 := fun h0 => hid0 (by rw [h0])
    obtain ⟨k', hk', hl', hslot, hpos⟩ := h.slot hid
    obtain rfl : k = k' := hk.trans hpos
    obtain ⟨hs, hids⟩ := hE.freed hR (Nat.lt_of_le_of_lt (Nat.sub_le _ 1) hlt)
    have hkin : ∀ j, j ≠ k → (c.ip4Tbl.rules j).live → (c.ip4Tbl.rules j).Kin (c'.ip4Tbl.rules j) := by
      intro j hj hl
      obtain ⟨hkin, hsame⟩ := hE.kin hj hl
      rw [hc]
      show (c.ip4Tbl.rules j).Kin ((ipaNatiDelDeadIpv4HeadNodes t').rules j)
      rw [hsame]
      exact hkin
    have hlive : ∀ j, (c'.ip4Tbl.rules j).live ↔ j ≠ k ∧ (c.ip4Tbl.rules j).live := by
      intro j
      constructor
      · intro hl
        rw [hc] at hl
        exact hE.live_back hl
      · rintro ⟨hj, hl⟩
        exact (hkin j hj hl).live_iff.mpr hl
    replace hs : c'.ip4Tbl.shape = c.ip4Tbl.shape := hc ▸ hs
    replace hids : ∀ j, c'.ip4Tbl.ruleId j = if j = hdl - 1 then 0 else c.ip4Tbl.ruleId j := hc ▸ hids
    refine Or.inr ⟨hret, ⟨hreach, ?_, fun j hj => ?_⟩, hs, view_isSome.mpr ⟨h0, hlt, hid⟩, hids, ?_⟩
    · exact h.handles.del hs hslot hids hlive (fun j hj hjk heq =>
        hjk (ruleIdOf_inj hR.sizes hj hk' heq)) hid
    · rw [(total_of_shape hs).1]
      rw [hids] at hj
      split_ifs at hj with hji
      · exact absurd rfl hj
      · exact h.bound j hj
    · rw [place, hpos]
      exact hkin

lemma idPos_of_shape (hs : t'.shape = t.shape) (id : ℕ) : idPos t' id = idPos t id := by
  unfold idPos rulePos expnPos
  rw [(total_of_shape hs).2]

/-- A handle whose slot and whose rule stay shows what it showed. -/
lemma view_congr (hs : t'.shape = t.shape) (hid : 0 < hdl → t'.ruleId (hdl - 1) = t.ruleId (hdl - 1))
    (hrule : (view t hdl).isSome → (t'.rules (place t hdl)).clnt = (t.rules (place t hdl)).clnt) :
    view t' hdl = view t hdl := by
  by_cases hheld : 0 < hdl ∧ hdl < t.total ∧ t.ruleId (hdl - 1) ≠ 0
  · have hplace : place t' hdl = place t hdl := by
      rw [place, hid hheld.1, idPos_of_shape hs, place]
    have hrule' := hrule (view_isSome.mpr hheld)
    unfold view
    rw [(total_of_shape hs).1, hid hheld.1, if_pos hheld, if_pos hheld, hplace, hrule']
  · have hnot : ¬ (0 < hdl ∧ hdl < t'.total ∧ t'.ruleId (hdl - 1) ≠ 0) := by
      rintro ⟨h0, hlt, hne⟩
      rw [(total_of_shape hs).1] at hlt
      rw [hid h0] at hne
      exact hheld ⟨h0, hlt, hne⟩
    unfold view
    rw [if_neg hheld, if_neg hnot]

/-- The rule of a handle that is held is live. -/
lemma HandleReach.place_live (h : HandleReach c) (hsome : (view c.ip4Tbl hdl).isSome) :
    place c.ip4Tbl hdl < c.ip4Tbl.total ∧ (c.ip4Tbl.rules (place c.ip4Tbl hdl)).live := by
  obtain ⟨k, hk, hl, -, hpos⟩ := h.slot (view_isSome.mp hsome).2.2
  rw [place, hpos]
  exact ⟨hk, hl⟩

/-- Two handles do not stand for one rule. -/
lemma HandleReach.place_inj {hdl' : ℕ} (h : HandleReach c) (hsome : (view c.ip4Tbl hdl).isSome)
    (hsome' : (view c.ip4Tbl hdl').isSome) (heq : place c.ip4Tbl hdl = place c.ip4Tbl hdl') :
    hdl = hdl' := by
  obtain ⟨h0, -, hne⟩ := view_isSome.mp hsome
  obtain ⟨h0', -, hne'⟩ := view_isSome.mp hsome'
  obtain ⟨k, -, -, hid, hpos⟩ := h.slot hne
  obtain ⟨k', -, -, hid', hpos'⟩ := h.slot hne'
  rw [place, place, hpos, hpos'] at heq
  have hslot := h.handles.inj (hdl - 1) (hdl' - 1) hne (by rw [hid, hid', heq])
  omega

/-- **Every call is a step of the map.** -/
lemma HandleReach.step {e : NatEvent} (h : HandleReach c) (hst : NatStep c e c') :
    HandleReach c' ∧ c'.ip4Tbl.total = c.ip4Tbl.total ∧
      RuleMap.Step c.ip4Tbl.total (view c.ip4Tbl) e (view c'.ip4Tbl) := by
  cases hst with
  | @add tblHdl clnt res hp hadd =>
      rcases h.add hp hadd with ⟨hret, hhdl, hc⟩ |
        ⟨k, i, hret, hhdl, hreach, hs, hbound, hi0, hk, hkdead, hlive, hid, hclnt, hkin⟩
      · rw [hret, hhdl, hc]
        exact ⟨h, rfl, .refused⟩
      have hfree : view c.ip4Tbl (i + 1) = none := by
        refine Option.not_isSome_iff_eq_none.mp fun hsome => ?_
        exact (view_isSome.mp hsome).2.2 hi0
      have hnew : view res.cache.ip4Tbl = Function.update (view c.ip4Tbl) (i + 1) (some clnt) := by
        funext hdl
        by_cases heq : hdl = i + 1
        · subst heq
          have hslot : res.cache.ip4Tbl.ruleId i = ruleIdOf c.ip4Tbl k := by rw [hid, if_pos rfl]
          have hplace : place res.cache.ip4Tbl (i + 1) = k := by
            rw [place, Nat.add_sub_cancel, hslot, idPos_of_shape hs,
              idPos_ruleIdOf h.main.ready.sizes hk]
          have hne := ruleIdOf_ne_zero h.main.ready.sizes hk (hreach.live_pos hlive).1
          rw [Function.update_self, view_eq_some, hplace, Nat.add_sub_cancel, hslot,
            (total_of_shape hs).1]
          exact ⟨⟨i.succ_pos, by omega, hne⟩, hclnt⟩
        · rw [Function.update_of_ne heq]
          refine view_congr hs (fun h0 => ?_) fun hsome => (hkin _ ?_).clnt
          · rw [hid, if_neg (by omega)]
          · rintro hplace
            exact hkdead (hplace ▸ (h.place_live hsome).2)
      rw [hret, hhdl, hnew]
      exact ⟨hreach, (total_of_shape hs).1, .added i.succ_pos (by omega) hfree⟩
  | @del _ tblHdl ruleHdl ret hdel =>
      rcases h.del hdel with ⟨hret, hc, hnone⟩ | ⟨hret, hreach, hs, hsome, hid, hkin⟩
      · rw [hret, hc]
        exact ⟨h, rfl, .unknown hnone⟩
      obtain ⟨h0, -, -⟩ := view_isSome.mp hsome
      have hnew : view c'.ip4Tbl = Function.update (view c.ip4Tbl) ruleHdl none := by
        funext hdl
        by_cases heq : hdl = ruleHdl
        · subst heq
          rw [Function.update_self]
          refine Option.not_isSome_iff_eq_none.mp fun hsome' => (view_isSome.mp hsome').2.2 ?_
          rw [hid, if_pos rfl]
        · rw [Function.update_of_ne heq]
          refine view_congr hs (fun hpos => ?_) fun hsome' => ?_
          · rw [hid, if_neg (by omega)]
          · refine (hkin _ (fun hplace => heq (h.place_inj hsome' hsome hplace)) ?_).clnt
            exact (h.place_live hsome').2
      obtain ⟨clnt, hheld⟩ := Option.isSome_iff_exists.mp hsome
      rw [hret, hnew]
      exact ⟨hreach, (total_of_shape hs).1, .deleted hheld⟩

end Step

/-! ## Whole runs -/

section Runs

variable {n : ℕ} {c c' : IpaNatCache} {es : List NatEvent}

lemma Fresh.view (h : Fresh n c) : view c.ip4Tbl = fun _ => none := by
  funext hdl
  exact Option.not_isSome_iff_eq_none.mp fun hsome => (view_isSome.mp hsome).2.2 (h.ruleId _)

end Runs

end IpaNat
