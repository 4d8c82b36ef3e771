import OcnDevice.IpaNat.Runs

/-!
# The rule tables over whole runs

Every add and every delete keeps the invariant of the rule tables.  Nothing here depends on what
happens in the index tables: a command on an index entry never lands in a rule, and the one field
of a rule that an index deletion changes is not looked at.
-/

namespace IpaNat

open IpaNatIp4TableCache Chain

/-! ## Where an add places its rule -/

/-- The entry that an add picks for a rule of base slot `b`, and the entry to link it behind. -/
inductive Placed (c : IpaNatCache) (chain : ℕ → List ℕ) (b : ℕ) : ℕ → ℕ → Prop
  | head (hfree : (c.ip4Tbl.rules b).enable = false) : Placed c chain b b 0
  | expn {x : ℕ} (hon : (c.ip4Tbl.rules b).enable = true) (hx : c.config.cell x)
      (hxT : x ≠ c.ip4Tbl.tableEntries) (hfree : (c.ip4Tbl.rules x).enable = false) :
      Placed c chain b x (lastOf b (chain b))

section Place

variable {c : IpaNatCache} {chain : ℕ → List ℕ}

lemma dstSlot_bounds (hg : c.config.Sizes) (pubIp : UInt32) (clnt : IpaNatIpv4Rule) :
    0 < dstSlot c pubIp clnt ∧ dstSlot c pubIp clnt < c.ip4Tbl.tableEntries :=
  Config.maskHash_bounds hg _

lemma srcSlot_bounds (hg : c.config.Sizes) (clnt : IpaNatIpv4Rule) :
    0 < srcSlot c clnt ∧ srcSlot c clnt < c.ip4Tbl.tableEntries :=
  Config.maskHash_bounds hg _

/-- The PDN index of a rule survives its 4-bit field, so the entry hashes as the client's rule. -/
lemma dstOf_swRuleOf (hg : c.config.Sizes) {clnt : IpaNatIpv4Rule} {pdn : IpaNatPdnEntry}
    (h : c.pdn clnt.pdnIndex.toNat = .ok pdn) :
    c.config.dstOf (swRuleOf pdn.publicIp clnt) = dstSlot c pdn.publicIp clnt := by
  unfold IpaNatCache.pdn at h
  cases hi : c.pdns[clnt.pdnIndex.toNat]? with
  | none => rw [hi] at h; simp at h
  | some e =>
      rw [hi] at h
      obtain rfl := Except.ok.inj h
      have hlen : clnt.pdnIndex.toNat < c.pdns.length := (List.getElem?_eq_some_iff.mp hi).1
      have hle : c.pdns.length ≤ 2 ^ 4 := hg.pdns
      have hmod : clnt.pdnIndex.toNat % 2 ^ 4 = clnt.pdnIndex.toNat :=
        Nat.mod_eq_of_lt (by omega)
      simp only [Config.dstOf, swRuleOf, hmod, IpaNatCache.config, hi, Option.getD_some]
      rfl

/-- **The base and expansion generator**: it finds the free base slot, or a free expansion entry
and the end of the chain, or there is no free expansion entry. -/
theorem generateTblRule_spec (hR : Ready c) (H : MainInv c.config c.ip4Tbl.rules chain)
    (pubIp : UInt32) (clnt : IpaNatIpv4Rule) :
    (∃ x p, ipaNatiGenerateTblRule c pubIp clnt = .ok (some (x, p)) ∧
        Placed c chain (dstSlot c pubIp clnt) x p) ∨
      ((∀ x, c.config.cell x → x ≠ c.ip4Tbl.tableEntries → (c.ip4Tbl.rules x).enable = true) ∧
        (c.ip4Tbl.rules (dstSlot c pubIp clnt)).enable = true ∧
        ipaNatiGenerateTblRule c pubIp clnt = .ok none) := by
  set b := dstSlot c pubIp clnt with hbdef
  have hb : b < c.ip4Tbl.tableEntries := (dstSlot_bounds hR.sizes pubIp clnt).2
  have hsmall := hR.addr.small
  have hexpn : c.ip4Tbl.tableEntries + 2 ≤ c.ip4Tbl.total := hR.sizes.expn
  have htot : c.ip4Tbl.total = c.ip4Tbl.tableEntries + c.ip4Tbl.expnTableEntries := rfl
  have hread : c.ip4Tbl.readRule b = .ok (c.ip4Tbl.rules b) := if_pos ⟨hR.mapped, by omega⟩
  unfold ipaNatiGenerateTblRule
  simp only [← hbdef, hread, bind, Except.bind]
  by_cases hfree : (c.ip4Tbl.rules b).enable = false
  · rw [if_pos hfree]
    exact Or.inl ⟨b, 0, rfl, .head hfree⟩
  have hon : (c.ip4Tbl.rules b).enable = true := by simpa using hfree
  have hcells : ∀ x ∈ chain b, c.config.cell x := fun x hx =>
    ((H.chained.mem_iff b hb x).mp hx).1
  have hlen := length_le_of_range (H.chained.nodup b hb) hcells
  have hwalk := chainEnd_eq (ruleLink c.ip4Tbl) (c.ip4Tbl.expnTableEntries + 1)
    (H.chained.linked b hb) (H.chained.nodup b hb)
    (fun y hy => ruleLink_eq hR.mapped hsmall (hcells y hy).1 (hcells y hy).2)
    (by simp only [IpaNatCache.config] at hlen; omega)
  simp only [ruleStore] at hwalk
  simp only [if_neg hfree, hwalk]
  rcases firstFree_spec (fun cnt => (c.ip4Tbl.rules (c.ip4Tbl.expnPos cnt)).enable)
    (c.ip4Tbl.expnTableEntries - 1) 1 with ⟨h0, hbusy⟩ | ⟨h1, h2, h3⟩
  · refine Or.inr ⟨fun x hx hxT => ?_, hon, ?_⟩
    · obtain ⟨hx1, hx2⟩ := hx
      simp only [IpaNatCache.config] at hx1 hx2
      have := hbusy (x - c.ip4Tbl.tableEntries) (by omega) (by omega)
      rwa [expnPos, show c.ip4Tbl.tableEntries + (x - c.ip4Tbl.tableEntries) = x by omega] at this
    · rw [if_pos (show ipaNatiExpnTblFreeEntry c.ip4Tbl = invalidNatEntry from h0)]
      rfl
  · have hne : ipaNatiExpnTblFreeEntry c.ip4Tbl ≠ invalidNatEntry := Nat.pos_iff_ne_zero.mp h1
    rw [if_neg hne]
    refine Or.inl ⟨_, _, rfl, .expn hon ⟨Nat.le_add_right _ _, ?_⟩ ?_ h3⟩
    · have : ipaNatiExpnTblFreeEntry c.ip4Tbl < 1 + (c.ip4Tbl.expnTableEntries - 1) := h2
      simp only [IpaNatCache.config, expnPos]
      omega
    · have : 0 < ipaNatiExpnTblFreeEntry c.ip4Tbl := h1
      simp only [expnPos]; omega

end Place

/-! ## One step -/

section Step

variable {c c' : IpaNatCache} {chain : ℕ → List ℕ} {tblHdl ruleHdl : ℕ} {clnt : IpaNatIpv4Rule}
  {res : AddResult} {ret : ℤ}

/-- What is known of the entries that an add picked for its rule. -/
lemma Placed.facts (hR : Ready c) (H : MainInv c.config c.ip4Tbl.rules chain) {b x p : ℕ}
    (hb0 : 0 < b) (hb : b < c.ip4Tbl.tableEntries) (h : Placed c chain b x p) :
    0 < x ∧ x < c.ip4Tbl.total ∧ x ≠ c.ip4Tbl.tableEntries ∧ (c.ip4Tbl.rules x).enable = false ∧
      (p ≠ 0 → p < c.ip4Tbl.total ∧ p ≠ x ∧ (c.ip4Tbl.rules p).enable = true) := by
  have h2 : 2 ≤ c.ip4Tbl.tableEntries := hR.sizes.two_le
  have hexpn : c.ip4Tbl.tableEntries + 2 ≤ c.ip4Tbl.total := hR.sizes.expn
  cases h with
  | head hfree => exact ⟨hb0, by omega, by omega, hfree, fun h0 => absurd rfl h0⟩
  | expn hon hx hxT hfree =>
      have hx1 : c.ip4Tbl.tableEntries ≤ x := hx.1
      have hx2 : x < c.ip4Tbl.total := hx.2
      have hpon := H.lastOf_enable (b := b) hb hon
      refine ⟨by omega, hx2, hxT, hfree, fun _ => ⟨?_, ?_, hpon⟩⟩
      · rcases lastOf_eq_or_mem b (chain b) with e | hmem
        · rw [e]; omega
        · exact ((H.chained.mem_iff b hb _).mp hmem).1.2
      · rintro rfl
        rw [hfree] at hpon
        simp at hpon

/-- **What an add does on well-formed rule tables.**  Either it is refused and changes nothing, or
it installs the client's rule at the entry that `Placed` describes, and then takes the first free
slot of `rule_id_array` for the handle if there is one. -/
theorem addIpv4Rule_spec (hR : Ready c) (H : MainInv c.config c.ip4Tbl.rules chain)
    (h : ipaNatiAddIpv4Rule {} c tblHdl clnt = .ok res) :
    (res.ret = einval ∧ res.ruleHdl = none ∧ res.cache = c) ∨
      ∃ pdn p, ∃ g : GeneratedRule, ∃ t', c.pdn clnt.pdnIndex.toNat = .ok pdn ∧
        Placed c chain (dstSlot c pdn.publicIp clnt) g.entry p ∧
        ipaNatiGenerateIndexRule c clnt = .ok (some (g.indxEntry, g.indxPrevIndex)) ∧
        g.rule =
          { swRuleOf pdn.publicIp clnt with prevIndex := p, indxTblEntry := g.indxEntry } ∧
        g.indxEntry < c.ip4Tbl.total ∧
        res.cache = { c with ip4Tbl := t' } ∧ InstallEffect c.ip4Tbl t' g ∧
        ((∃ i, res.ret = 0 ∧ res.ruleHdl = some (i + 1) ∧ i < c.ip4Tbl.total ∧
            c.ip4Tbl.ruleId i = 0 ∧ (∀ j < i, c.ip4Tbl.ruleId j ≠ 0) ∧
            ∀ j, t'.ruleId j = if j = i then ruleIdOf c.ip4Tbl g.entry else c.ip4Tbl.ruleId j) ∨
          (res.ret = einval ∧ res.ruleHdl = some 0 ∧ t'.ruleId = c.ip4Tbl.ruleId ∧
            ∀ j < c.ip4Tbl.total, c.ip4Tbl.ruleId j ≠ 0)) := by
  rcases addIpv4Rule_cases h with hno | ⟨pdn, g, hpdn, -, hgen, hinst⟩
  · exact Or.inl hno
  · obtain ⟨p, htbl, hindx, hrule⟩ := generateRule_eq_some hgen
    have hb := dstSlot_bounds hR.sizes pdn.publicIp clnt
    have hplaced : Placed c chain (dstSlot c pdn.publicIp clnt) g.entry p := by
      rcases generateTblRule_spec hR H pdn.publicIp clnt with ⟨x, q, hx, hpl⟩ | ⟨-, -, hnone⟩
      · rw [hx] at htbl
        obtain ⟨rfl, rfl⟩ := Prod.mk.inj (Option.some.inj (Except.ok.inj htbl))
        exact hpl
      · rw [hnone] at htbl
        simp at htbl
    have hfacts := hplaced.facts hR H hb.1 hb.2
    obtain ⟨-, hie, t', hcache, hE, hhdl⟩ := installRule_eq_ok hR.addr
      (fun h0 => by
        rw [hrule] at h0 ⊢
        exact ⟨(hfacts.2.2.2.2 h0).1, (hfacts.2.2.2.2 h0).2.1⟩) hinst
    exact Or.inr ⟨pdn, p, g, t', hpdn, hplaced, hindx, hrule, hie, hcache, hE, hhdl⟩

/-- Installing a placed rule keeps the invariant of the rule tables. -/
lemma MainInv.install (hR : Ready c) (H : MainInv c.config c.ip4Tbl.rules chain)
    (hp : clnt.protocol ≠ invalidProtoFieldCmp) {pdn : IpaNatPdnEntry} {p : ℕ}
    {g : GeneratedRule} {t' : IpaNatIp4TableCache} (hpdn : c.pdn clnt.pdnIndex.toNat = .ok pdn)
    (hpl : Placed c chain (dstSlot c pdn.publicIp clnt) g.entry p)
    (hrule : g.rule =
      { swRuleOf pdn.publicIp clnt with prevIndex := p, indxTblEntry := g.indxEntry })
    (hE : InstallEffect c.ip4Tbl t' g) : ∃ chain', MainInv c.config t'.rules chain' := by
  have hb := dstSlot_bounds hR.sizes pdn.publicIp clnt
  have hdst : c.config.dstOf g.rule.turnOn = dstSlot c pdn.publicIp clnt := by
    rw [hrule, ← dstOf_swRuleOf hR.sizes hpdn]
    rfl
  have hproto : g.rule.turnOn.protocol ≠ invalidProtoFieldCmp := by rw [hrule]; exact hp
  have hnext : g.rule.turnOn.nextIndex = 0 := by rw [hrule]; rfl
  have hprev : g.rule.prevIndex = p := by rw [hrule]
  have hrules := hE.rules
  rw [hprev] at hrules
  generalize hx : g.entry = x at hpl hrules
  cases hpl with
  | head hfree =>
      refine ⟨chain, H.install_head hR.sizes hb.2 hb.1 hfree rfl hnext hdst hproto fun k => ?_⟩
      rw [hrules, if_neg fun h : (0 : ℕ) ≠ 0 ∧ k = 0 => h.1 rfl]
  | expn hon hcell hxT hfree =>
      refine ⟨_, H.install_expn hR.sizes hb.2 hon hcell hxT hfree rfl hnext hprev hdst hproto
        fun k => ?_⟩
      have hp0 : lastOf (dstSlot c pdn.publicIp clnt) (chain (dstSlot c pdn.publicIp clnt)) ≠ 0 := by
        have hpon := H.lastOf_enable hb.2 hon
        intro e
        rw [e, H.off_zero] at hpon
        simp at hpon
      rw [hrules]
      simp only [ne_eq, hp0, not_false_eq_true, true_and]

/-- The rule ids of the base table stay below `table_entries`. -/
def IdsInRange (t : IpaNatIp4TableCache) : Prop :=
  ∀ i, t.ruleId i % 2 = 0 → t.ruleId i / 2 < t.tableEntries

lemma ruleIdOf_base (hR : Ready c) {e : ℕ} (h : ruleIdOf c.ip4Tbl e % 2 = 0) :
    e < c.ip4Tbl.tableEntries ∧ ruleIdOf c.ip4Tbl e = 2 * e := by
  have hT : c.ip4Tbl.tableEntries ≤ 2 ^ 15 := hR.sizes.le_pow
  unfold ruleIdOf at h ⊢
  split_ifs at h ⊢ <;> omega

/-- The links of an enabled rule are good for its deletion. -/
lemma MainCore.ruleLinks (hR : Ready c) (H : MainCore c.config c.ip4Tbl.rules chain) {k : ℕ}
    (hk : k < c.ip4Tbl.total) (hon : (c.ip4Tbl.rules k).enable = true) :
    RuleLinks c.ip4Tbl k := by
  have hsmall := hR.addr.small
  have h2 : 2 ≤ c.ip4Tbl.tableEntries := hR.sizes.two_le
  have hcell : c.ip4Tbl.tableEntries ≤ k → c.config.cell k := fun hT => ⟨hT, hk⟩
  refine ⟨fun hT => (H.links hR.sizes (hcell hT) hon).2.1,
    fun hT => (H.links hR.sizes (hcell hT) hon).2.2.1,
    fun hT h0 => ((H.links hR.sizes (hcell hT) hon).2.2.2.2 h0).1.1, fun hT => ?_, fun hT => ?_⟩
  · by_cases h0 : (c.ip4Tbl.rules k).nextIndex = 0
    · omega
    · have := ((H.links hR.sizes (hcell hT) hon).2.2.2.2 h0).1.2
      simp only [IpaNatCache.config] at this
      omega
  · obtain ⟨hp0, -, -, -, hn⟩ := H.links hR.sizes (hcell hT) hon
    by_cases h0 : (c.ip4Tbl.rules k).nextIndex = 0
    · exact ⟨by omega, by omega⟩
    · exact ⟨(hn h0).2.1, (hn h0).2.2.1⟩

/-- The position that a rule id stands for. -/
def idPos (t : IpaNatIp4TableCache) (id : ℕ) : ℕ := rulePos t (decide (id % 2 = 1)) (id / 2)

@[simp] lemma collect_shape (t : IpaNatIp4TableCache) :
    (ipaNatiDelDeadIpv4HeadNodes t).shape = t.shape := rfl

/-- **What a delete does on well-formed rule tables.**  Either it is refused and changes nothing,
or its handle decodes to an enabled rule, which is deleted, dead heads are collected, and the
handle's slot is freed. -/
theorem delIpv4Rule_spec (hR : Ready c) (H : MainInv c.config c.ip4Tbl.rules chain)
    (hids : IdsInRange c.ip4Tbl)
    (h : ipaNatiDelIpv4Rule true c tblHdl ruleHdl = .ok (ret, c')) :
    (ret = einval ∧ c' = c) ∨
      ∃ k m t', ret = 0 ∧ 0 < ruleHdl ∧ ruleHdl < c.ip4Tbl.total ∧
        k = idPos c.ip4Tbl (c.ip4Tbl.ruleId (ruleHdl - 1)) ∧
        c.ip4Tbl.ruleId (ruleHdl - 1) / 2 ≠ 0 ∧
        k < c.ip4Tbl.total ∧ (c.ip4Tbl.rules k).enable = true ∧
        (c.ip4Tbl.rules k).indxTblEntry < c.ip4Tbl.total ∧ DeleteEffect c.ip4Tbl t' k m ∧
        (IndxLinks c.ip4Tbl (c.ip4Tbl.rules k).indxTblEntry →
          IndxDeleteEffect c.ip4Tbl t' (c.ip4Tbl.rules k).indxTblEntry m) ∧
        c' = { c with ip4Tbl := (ipaNatiDelDeadIpv4HeadNodes t').setRuleId (ruleHdl - 1) 0 } := by
  rcases delIpv4Rule_cases h with hno | ⟨expn, entry, pos, t', hret, hparse, h0, hpos, hpost, hlen,
    hc'⟩
  · exact Or.inl hno
  have hsmall := hR.addr.small
  have hen : (c.ip4Tbl.rules (rulePos c.ip4Tbl expn entry)).enable = true := by
    simp only [ipaNatiPostDelDmaCmd, bind_eq_ok, readRule_eq_ok] at hpost
    obtain ⟨r, ⟨-, rfl⟩, hpost⟩ := hpost
    by_contra hoff
    rw [if_pos (by simpa using hoff)] at hpost
    simp [pure, Except.pure] at hpost
  obtain ⟨hk, -⟩ := findRulePos_eq_ok hpos
  have hbase : expn = false → entry < c.ip4Tbl.tableEntries := by
    rintro rfl
    rcases parseIpv4RuleHdl_eq_ok hparse with ⟨-, -, rfl⟩ | ⟨-, -, -, hodd, rfl⟩
    · exact absurd rfl h0
    · refine hids _ ?_
      have : c.ip4Tbl.ruleId (ruleHdl % 2 ^ 16 - 1) % 2 ≠ 1 := by simpa using hodd
      omega
  obtain ⟨-, hie, m, hE, hI⟩ :=
    postDelDmaCmd_eq_ok hR.addr hbase (H.toMainCore.ruleLinks hR hk hen) hpos hpost
  have hlen' : ruleHdl - 1 < c.ip4Tbl.total := by
    have hs := hE.shape
    simp only [shape, Prod.mk.injEq] at hs
    rw [hs.2.2.2.2.2.2, hR.ruleIdLen] at hlen
    exact hlen
  rcases parseIpv4RuleHdl_eq_ok hparse with ⟨-, -, rfl⟩ | ⟨hpos0, hlt, -, rfl, rfl⟩
  · exact absurd rfl h0
  · have hmod : ruleHdl % 2 ^ 16 = ruleHdl := Nat.mod_eq_of_lt (by omega)
    simp only [hmod] at hpos0 hlt h0 hk hen hie hE hI
    exact Or.inr ⟨_, m, t', hret, hpos0, hlt, rfl, h0, hk, hen, hie, hE, hI, hc'⟩

/-- Deleting a rule keeps the invariant of the rule tables. -/
lemma MainInv.delete (hR : Ready c) (H : MainInv c.config c.ip4Tbl.rules chain) {k : ℕ}
    {m : Option ℕ} {t' : IpaNatIp4TableCache} (hk : k < c.ip4Tbl.total)
    (hon : (c.ip4Tbl.rules k).enable = true) (hE : DeleteEffect c.ip4Tbl t' k m) :
    ∃ chain', MainInv c.config (ipaNatiDelDeadIpv4HeadNodes t').rules chain' := by
  obtain ⟨chain', H'⟩ := H.toMainCore.delRules hR.sizes hk hon fun j => rfl
  have H'' : MainCore c.config t'.rules chain' := H'.congr_indx fun x => by
    rw [hE.rules]
    split_ifs <;> rfl
  refine ⟨chain', H''.collect fun j => ?_⟩
  rw [show c.config.tableEntries = t'.tableEntries from (total_of_shape hE.shape).2.symm]
  rfl

/-- A delete that is through frees the slot of its handle and no other. -/
lemma DeleteEffect.freed (hR : Ready c) {k i : ℕ} {m : Option ℕ} {t' : IpaNatIp4TableCache}
    (hE : DeleteEffect c.ip4Tbl t' k m) (hi : i < c.ip4Tbl.total) :
    ((ipaNatiDelDeadIpv4HeadNodes t').setRuleId i 0).shape = c.ip4Tbl.shape ∧
      ∀ j, ((ipaNatiDelDeadIpv4HeadNodes t').setRuleId i 0).ruleId j =
        if j = i then 0 else c.ip4Tbl.ruleId j := by
  have hlen : i < (ipaNatiDelDeadIpv4HeadNodes t').ruleIdLen := by
    have hs := hE.shape
    simp only [IpaNatIp4TableCache.shape, Prod.mk.injEq] at hs
    rw [show (ipaNatiDelDeadIpv4HeadNodes t').ruleIdLen = t'.ruleIdLen from rfl,
      hs.2.2.2.2.2.2, hR.ruleIdLen]
    exact hi
  refine ⟨setRuleId_shape.trans hE.shape, fun j => ?_⟩
  rw [setRuleId_ruleId hlen, show (ipaNatiDelDeadIpv4HeadNodes t').ruleId = t'.ruleId from rfl,
    hE.ruleId]

/-- A state that a run with the main table intact can reach. -/
structure MainReach (c : IpaNatCache) : Prop where
  ready : Ready c
  ids : IdsInRange c.ip4Tbl
  inv : ∃ chain, MainInv c.config c.ip4Tbl.rules chain

/-- **One step keeps the rule tables well formed.** -/
theorem MainReach.step {e : NatEvent} (h : MainReach c) (hst : NatStep c e c') : MainReach c' := by
  obtain ⟨hR, hids, chain, H⟩ := h
  cases hst with
  | add hp hadd =>
      rcases addIpv4Rule_spec hR H hadd with ⟨-, -, hc⟩ |
        ⟨pdn, p, g, t', hpdn, hpl, -, hrule, -, hc, hE, hhdl⟩
      · rw [hc]; exact ⟨hR, hids, chain, H⟩
      · rw [hc]
        refine ⟨hR.of_shape hE.shape, fun i hi => ?_, ?_⟩
        · simp only [(total_of_shape hE.shape).2] at hi ⊢
          rcases hhdl with ⟨n, -, -, -, -, -, hid⟩ | ⟨-, -, hid, -⟩
          · rw [hid] at hi ⊢
            split_ifs at hi ⊢ with hin
            · obtain ⟨h1, h2⟩ := ruleIdOf_base hR hi
              omega
            · exact hids i hi
          · rw [hid] at hi ⊢
            exact hids i hi
        · rw [config_of_shape hE.shape]
          exact H.install hR hp hpdn hpl hrule hE
  | del hdel =>
      rcases delIpv4Rule_spec hR H hids hdel with ⟨-, rfl⟩ |
        ⟨k, m, t', -, -, hlt, -, -, hk, hon, -, hE, -, rfl⟩
      · exact ⟨hR, hids, chain, H⟩
      · obtain ⟨hs, hid⟩ := hE.freed hR (Nat.lt_of_le_of_lt (Nat.sub_le _ 1) hlt)
        refine ⟨hR.of_shape hs, fun i hi => ?_, ?_⟩
        · simp only [(total_of_shape hs).2, hid] at hi ⊢
          split_ifs at hi ⊢
          · have := hR.sizes.two_le
            simp only [IpaNatCache.config] at this
            omega
          · exact hids i hi
        · rw [config_of_shape hs]
          exact H.delete hR hk hon hE

end Step

/-! ## Whole runs -/

/-- **The base and expansion tables are well formed**, with `chain b` the expansion entries behind
base slot `b`. -/
structure MainTableOk (g : Config) (rules : ℕ → IpaNatRule) (chain : ℕ → List ℕ) : Prop where
  /-- the links of an enabled base slot visit its chain and end, and the back links agree -/
  linked : ∀ b, g.head b → (rules b).enable = true →
    Linked (fun x => (rules x).nextIndex) (fun x => (rules x).prevIndex) 0 b (chain b)
  /-- no chain visits an entry twice -/
  acyclic : ∀ b, g.head b → (rules b).enable = true → (chain b).Nodup
  /-- a chain consists of enabled expansion entries -/
  on_chain : ∀ b, g.head b → (rules b).enable = true → ∀ x ∈ chain b,
    g.cell x ∧ (rules x).enable = true
  /-- two chains share no entry -/
  disjoint : ∀ b b', g.head b → (rules b).enable = true → g.head b' → (rules b').enable = true →
    b ≠ b' → (chain b).Disjoint (chain b')
  /-- an enabled expansion entry lies on exactly one chain -/
  exactly_one : ∀ x, g.cell x → (rules x).enable = true →
    ∃! b, g.head b ∧ (rules b).enable = true ∧ x ∈ chain b
  /-- every entry of a chain hashes to the base slot of the chain -/
  hash : ∀ b, g.head b → (rules b).enable = true → ∀ x ∈ chain b, g.dstOf (rules x) = b
  /-- and so does a live base slot itself -/
  head_hash : ∀ b, g.head b → (rules b).enable = true →
    (rules b).protocol ≠ invalidProtoFieldCmp → g.dstOf (rules b) = b
  /-- behind a dead head there is a chain -/
  dead_head : ∀ b, g.head b → (rules b).enable = true →
    (rules b).protocol = invalidProtoFieldCmp → chain b ≠ []

/-- The invariant says all of this. -/
lemma MainInv.mainTableOk {g : Config} {rules : ℕ → IpaNatRule} {chain : ℕ → List ℕ}
    (hg : g.Sizes) (H : MainInv g rules chain) : MainTableOk g rules chain where
  linked b hb _ := H.chained.linked b hb
  acyclic b hb _ := H.chained.nodup b hb
  on_chain b hb _ x hx := by
    have h := (H.chained.mem_iff b hb x).mp hx
    exact ⟨h.1, h.2.1⟩
  disjoint b b' hb _ hb' _ hne := H.chained.disjoint hb hb' hne
  exactly_one x hx hon := by
    have hb := Config.dstOf_bounds hg (rules x)
    have hmem : x ∈ chain (g.dstOf (rules x)) := H.chained.mem_slot hx hon hb.2
    refine ⟨g.dstOf (rules x), ⟨hb.2, ?_, hmem⟩, fun b' hb' => ?_⟩
    · -- an entry that is not enabled has no link to follow
      by_contra hoff
      have hexpn := hg.expn
      have h0 := congrArg IpaNatRule.nextIndex
        (H.off (g.dstOf (rules x)) (by omega) (by simpa using hoff))
      rw [(H.chained.linked _ hb.2).eq_nil_iff.mpr h0] at hmem
      simp at hmem
    · exact ((H.chained.mem_iff b' hb'.1 x).mp hb'.2.2).2.2.symm
  hash b hb _ x hx := ((H.chained.mem_iff b hb x).mp hx).2.2
  head_hash := H.live_dst
  dead_head b hb hon hp := by
    rw [ne_eq, (H.chained.linked b hb).eq_nil_iff]
    exact H.dead_next b hb hon hp

/-- **The rule tables stay well formed** over every run from a fresh table whose size did not wrap
and that the kernel put at offset zero. -/
theorem mainTable_wellFormed {n : ℕ} {c c' : IpaNatCache} {es : List NatEvent} (hn : n ≤ 40961)
    (hf : Fresh n c) (ho : c.ip4Tbl.tblAddrOffset = 0) (hp : c.pdns.length ≤ 2 ^ 4)
    (hr : Run NatStep c es c') : ∃ chain, MainTableOk c'.config c'.ip4Tbl.rules chain := by
  have h0 : MainReach c :=
    ⟨hf.ready hn ho hp, fun i hi => by
      have := (hf.ready hn ho hp).sizes.two_le
      rw [hf.ruleId]
      simp only [IpaNatCache.config] at this
      omega, _, hf.mainInv⟩
  obtain ⟨hR, -, chain, H⟩ := hr.invariant (fun _ _ _ h hst => h.step hst) h0
  exact ⟨chain, H.mainTableOk hR.sizes⟩

/-- An add to a table for ten entries. -/
theorem mainTable_wellFormed_ten : ∃ es c' chain, Run NatStep (tableOf 10) es c' ∧
    MainTableOk c'.config c'.ip4Tbl.rules chain := by
  obtain ⟨es, c', hr, -⟩ := exists_run (c := tableOf 10) [.add (tcpRule 1 80), .add (tcpRule 2 80)]
    (fun _ _ => true) (by decide +kernel)
  obtain ⟨chain, h⟩ := mainTable_wellFormed (n := 10) (by decide)
    ⟨{}, { pdns := [{}] }, 0x0A000001, some 1, rfl, rfl⟩ rfl (by decide) hr
  exact ⟨es, c', chain, hr, h⟩

/-- For 50000 entries `table_entries` wraps to zero: there is no base slot, so the rule that an add
installs lies on no chain. -/
theorem mainTable_wrapped : ∃ c es c', Fresh 50000 c ∧ c.ip4Tbl.tblAddrOffset = 0 ∧
    c.pdns.length ≤ 2 ^ 4 ∧ Run NatStep c es c' ∧
      ¬ ∃ chain, MainTableOk c'.config c'.ip4Tbl.rules chain := by
  obtain ⟨es, c', hr, h⟩ := exists_run (c := tableOf 50000)
    [.add { tcpRule 1 80 with targetIp := 0, privateIp := 0, publicPort := 0 }]
    (fun _ c' => c'.ip4Tbl.tableEntries = 0 ∧ 86 < c'.ip4Tbl.total ∧ (c'.ip4Tbl.rules 86).enable)
    (by decide +kernel)
  refine ⟨_, es, c', ⟨{}, { pdns := [{}] }, 0x0A000001, some 1, rfl, rfl⟩, rfl, by decide, hr, ?_⟩
  rintro ⟨chain, H⟩
  simp only [Bool.decide_and, Bool.and_eq_true, decide_eq_true_eq] at h
  obtain ⟨hT, htot, hon⟩ := h
  obtain ⟨b, ⟨hb, -⟩, -⟩ := H.exactly_one 86 ⟨by simp [IpaNatCache.config, hT], htot⟩ hon
  simp [Config.head, IpaNatCache.config, hT] at hb

end IpaNat
