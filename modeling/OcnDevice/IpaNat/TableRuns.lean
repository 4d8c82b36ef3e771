import OcnDevice.IpaNat.IndexTable

/-!
# Both tables and the handles over whole runs

`TableInv` holds the invariants of the rule tables, the index tables and `rule_id_array` together.
The slots of `rule_id_array` that are in use name the live rules, one slot for each.

A step keeps it under one condition.  The command that links an index entry carries its offset in
16 bits, so an entry that goes behind a base index slot is linked only when the slot is below 2 ^ 14
(`LinkFits`).  For `table_entries` up to 2 ^ 14 every slot is.
-/

namespace IpaNat

open IpaNatIp4TableCache Chain

/-! ## Where an add places its index entry -/

/-- The index entry that an add picks for a rule of index slot `b`, and the one to link it
behind. -/
inductive IndxPlaced (c : IpaNatCache) (chain : ℕ → List ℕ) (b : ℕ) : ℕ → ℕ → Prop
  | head (hfree : (c.ip4Tbl.indx b).tblEntry = 0) : IndxPlaced c chain b b 0
  | expn {x : ℕ} (hon : (c.ip4Tbl.indx b).tblEntry ≠ 0) (hx : c.config.cell x)
      (hxT : x ≠ c.ip4Tbl.tableEntries) (hfree : (c.ip4Tbl.indx x).tblEntry = 0) :
      IndxPlaced c chain b x (lastOf b (chain b))

section Place

variable {c : IpaNatCache} {chain : ℕ → List ℕ}

/-- **The index generator**: it finds the free index slot, or a free index expansion entry and the
end of the chain, or there is no free index expansion entry. -/
theorem generateIndexRule_spec (hR : Ready c)
    (H : IndxInv c.config c.ip4Tbl.rules c.ip4Tbl.indx c.ip4Tbl.metaVal chain)
    (clnt : IpaNatIpv4Rule) :
    (∃ x p, ipaNatiGenerateIndexRule c clnt = .ok (some (x, p)) ∧
        IndxPlaced c chain (srcSlot c clnt) x p) ∨
      ((∀ x, c.config.cell x → x ≠ c.ip4Tbl.tableEntries → (c.ip4Tbl.indx x).tblEntry ≠ 0) ∧
        (c.ip4Tbl.indx (srcSlot c clnt)).tblEntry ≠ 0 ∧
        ipaNatiGenerateIndexRule c clnt = .ok none) := by
  set b := srcSlot c clnt with hbdef
  have hb : b < c.ip4Tbl.tableEntries := (srcSlot_bounds hR.sizes clnt).2
  have hsmall := hR.addr.small
  have hexpn : c.ip4Tbl.tableEntries + 2 ≤ c.ip4Tbl.total := hR.sizes.expn
  have htot : c.ip4Tbl.total = c.ip4Tbl.tableEntries + c.ip4Tbl.expnTableEntries := rfl
  have hread : c.ip4Tbl.readIndx b = .ok (c.ip4Tbl.indx b) := if_pos ⟨hR.mapped, by omega⟩
  unfold ipaNatiGenerateIndexRule
  simp only [← hbdef, hread, bind, Except.bind]
  by_cases hfree : (c.ip4Tbl.indx b).tblEntry = 0
  · rw [if_pos hfree]
    exact Or.inl ⟨b, 0, rfl, .head hfree⟩
  have hcells : ∀ x ∈ chain b, c.config.cell x := fun x hx =>
    ((H.chained.mem_iff b hb x).mp hx).1
  have hlen := length_le_of_range (H.chained.nodup b hb) hcells
  have hwalk := chainEnd_eq (indxLink c.ip4Tbl) (c.ip4Tbl.expnTableEntries + 1)
    (H.chained.linked b hb) (H.chained.nodup b hb)
    (fun y hy => indxLink_eq hR.mapped hsmall (hcells y hy).1 (hcells y hy).2)
    (by simp only [IpaNatCache.config] at hlen; omega)
  simp only [indxStore] at hwalk
  simp only [if_neg hfree, hwalk]
  rcases firstFree_spec
    (fun cnt => decide ((c.ip4Tbl.indx (c.ip4Tbl.expnPos cnt)).tblEntry ≠ 0))
    (c.ip4Tbl.expnTableEntries - 1) 1 with ⟨h0, hbusy⟩ | ⟨h1, h2, h3⟩
  · refine Or.inr ⟨fun x hx hxT => ?_, hfree, ?_⟩
    · obtain ⟨hx1, hx2⟩ := hx
      simp only [IpaNatCache.config] at hx1 hx2
      have := hbusy (x - c.ip4Tbl.tableEntries) (by omega) (by omega)
      rw [expnPos, show c.ip4Tbl.tableEntries + (x - c.ip4Tbl.tableEntries) = x by omega] at this
      simpa using this
    · rw [if_pos (show ipaNatiIndexExpnGetFreeEntry c.ip4Tbl = invalidNatEntry from h0)]
      rfl
  · have hne : ipaNatiIndexExpnGetFreeEntry c.ip4Tbl ≠ invalidNatEntry :=
      Nat.pos_iff_ne_zero.mp h1
    have hx0 : (c.ip4Tbl.indx (c.ip4Tbl.expnPos (ipaNatiIndexExpnGetFreeEntry c.ip4Tbl))).tblEntry
        = 0 := not_not.mp (of_decide_eq_false h3)
    have hlast : lastOf b (chain b) ≠ c.ip4Tbl.expnPos (ipaNatiIndexExpnGetFreeEntry c.ip4Tbl) :=
      fun e => H.lastOf_used hb hfree (e ▸ hx0)
    rw [if_neg hne, if_neg hlast]
    refine Or.inl ⟨_, _, rfl, .expn hfree ⟨Nat.le_add_right _ _, ?_⟩ ?_ hx0⟩
    · have : ipaNatiIndexExpnGetFreeEntry c.ip4Tbl < 1 + (c.ip4Tbl.expnTableEntries - 1) := h2
      simp only [IpaNatCache.config, expnPos]
      omega
    · have : 0 < ipaNatiIndexExpnGetFreeEntry c.ip4Tbl := h1
      simp only [expnPos]; omega

end Place

/-! ## Handles -/

section Handles

variable {t : IpaNatIp4TableCache} {g : Config}

/-- **The invariant of `rule_id_array`**: the slots in use name the live rules, each of which has
exactly one slot. -/
structure HandleInv (t : IpaNatIp4TableCache) : Prop where
  slot : ∀ i, t.ruleId i ≠ 0 → i < t.total ∧ ∃ k < t.total, (t.rules k).live ∧
    t.ruleId i = ruleIdOf t k
  inj : ∀ i j, t.ruleId i ≠ 0 → t.ruleId i = t.ruleId j → i = j
  has : ∀ k < t.total, (t.rules k).live → ∃ i < t.total, t.ruleId i = ruleIdOf t k

/-- The sizes of the table alone. -/
lemma ruleIdOf_cases {c : IpaNatCache} (hg : c.config.Sizes) {k : ℕ} (hk : k < c.ip4Tbl.total) :
    (k < c.ip4Tbl.tableEntries ∧ ruleIdOf c.ip4Tbl k = 2 * k) ∨
      (c.ip4Tbl.tableEntries ≤ k ∧
        ruleIdOf c.ip4Tbl k = 2 * (k - c.ip4Tbl.tableEntries) + 1) := by
  have h1 : c.ip4Tbl.tableEntries ≤ 2 ^ 15 := hg.le_pow
  have h2 : c.ip4Tbl.total ≤ c.ip4Tbl.tableEntries + 2 ^ 14 := hg.expn_le
  unfold ruleIdOf
  split_ifs <;> omega

/-- A rule id names its position. -/
lemma idPos_ruleIdOf {c : IpaNatCache} (hg : c.config.Sizes) {k : ℕ} (hk : k < c.ip4Tbl.total) :
    idPos c.ip4Tbl (ruleIdOf c.ip4Tbl k) = k := by
  unfold idPos rulePos expnPos
  rcases ruleIdOf_cases hg hk with ⟨h1, h2⟩ | ⟨h1, h2⟩
  · rw [h2, if_neg (by simp)]
    omega
  · rw [h2, if_pos (by simp only [decide_eq_true_eq]; omega)]
    omega

lemma ruleIdOf_inj {c : IpaNatCache} (hg : c.config.Sizes) {k k' : ℕ} (hk : k < c.ip4Tbl.total)
    (hk' : k' < c.ip4Tbl.total) (h : ruleIdOf c.ip4Tbl k = ruleIdOf c.ip4Tbl k') : k = k' := by
  rw [← idPos_ruleIdOf hg hk, h, idPos_ruleIdOf hg hk']

lemma ruleIdOf_ne_zero {c : IpaNatCache} (hg : c.config.Sizes) {k : ℕ} (hk : k < c.ip4Tbl.total)
    (hk0 : k ≠ 0) : ruleIdOf c.ip4Tbl k ≠ 0 := by
  rcases ruleIdOf_cases hg hk with ⟨h1, h2⟩ | ⟨h1, h2⟩ <;> omega

lemma ruleIdOf_of_shape {t' : IpaNatIp4TableCache} (hs : t'.shape = t.shape) (k : ℕ) :
    ruleIdOf t' k = ruleIdOf t k := by
  unfold ruleIdOf
  rw [(total_of_shape hs).2]

/-- **The counting argument.**  The slots in front of the first free one are in use, each by a rule
at a position of its own that is none of the two reserved ones: so the first free slot comes at
least two before the end of the array. -/
lemma HandleInv.first_free {c : IpaNatCache} (hg : c.config.Sizes) (H : HandleInv c.ip4Tbl)
    (h0 : (c.ip4Tbl.rules 0).enable = false)
    (hT : (c.ip4Tbl.rules c.ip4Tbl.tableEntries).enable = false) {i : ℕ}
    (hi : ∀ j < i, c.ip4Tbl.ruleId j ≠ 0) : i + 2 ≤ c.ip4Tbl.total := by
  have h2 : 2 ≤ c.ip4Tbl.tableEntries := hg.two_le
  have hexpn : c.ip4Tbl.tableEntries + 2 ≤ c.ip4Tbl.total := hg.expn
  have hpos : ∀ j < i, ∃ k < c.ip4Tbl.total, k ≠ 0 ∧ k ≠ c.ip4Tbl.tableEntries ∧
      c.ip4Tbl.ruleId j = ruleIdOf c.ip4Tbl k := fun j hj => by
    obtain ⟨-, k, hk, hl, hid⟩ := H.slot j (hi j hj)
    refine ⟨k, hk, ?_, ?_, hid⟩
    · rintro rfl
      simp [IpaNatRule.live, h0] at hl
    · rintro rfl
      simp [IpaNatRule.live, hT] at hl
  choose! f hf using hpos
  have hcard : (Finset.range i).card ≤
      (((Finset.range c.ip4Tbl.total).erase 0).erase c.ip4Tbl.tableEntries).card := by
    refine Finset.card_le_card_of_injOn f (fun j hj => ?_) fun j hj j' hj' e => ?_
    · obtain ⟨h1, h2, h3, -⟩ := hf j (Finset.mem_range.mp hj)
      simp only [Finset.coe_erase, Set.mem_sdiff, Finset.coe_range, Set.mem_Iio,
        Set.mem_singleton_iff]
      exact ⟨⟨h1, h2⟩, h3⟩
    · have hji : j < i := by simpa using hj
      have hji' : j' < i := by simpa using hj'
      refine H.inj j j' (hi j hji) ?_
      rw [(hf j hji).2.2.2, (hf j' hji').2.2.2, e]
  rw [Finset.card_range, Finset.card_erase_of_mem, Finset.card_erase_of_mem, Finset.card_range]
    at hcard
  · omega
  · simp only [Finset.mem_range]; omega
  · simp only [Finset.mem_erase, Finset.mem_range]; omega

end Handles

/-! ## The rules behind an add and a delete -/

/-- The fields of an entry that come from the client. -/
def IpaNatRule.clnt (r : IpaNatRule) : IpaNatIpv4Rule where
  targetIp := r.targetIp
  privateIp := r.privateIp
  targetPort := r.targetPort
  privatePort := r.privatePort
  publicPort := r.publicPort
  protocol := r.protocol
  pdnIndex := UInt8.ofNat r.pdnIndex

section Rules

variable {g : Config} {t t' : IpaNatIp4TableCache}

/-- An add leaves every rule but the new one as it was, links apart. -/
lemma InstallEffect.like {gr : GeneratedRule} (hE : InstallEffect t t' gr) {j : ℕ}
    (hj : j ≠ gr.entry) : t'.rules j = t.rules j ∨ t'.rules j = (t.rules j).linkTo gr.entry := by
  rw [hE.rules, if_neg hj]
  split_ifs <;> simp

lemma InstallEffect.sameView {gr : GeneratedRule} (hE : InstallEffect t t' gr) {j : ℕ}
    (hj : j ≠ gr.entry) : SameView g (t.rules j) (t'.rules j) := by
  rcases hE.like hj with e | e <;> rw [e] <;> exact ⟨rfl, rfl, rfl, rfl⟩

end Rules

/-! ## One step -/

/-- **The invariant of a whole table.** -/
structure TableInv (c : IpaNatCache) : Prop where
  ready : Ready c
  main : ∃ chain, MainInv c.config c.ip4Tbl.rules chain
  indx : ∃ chain, IndxInv c.config c.ip4Tbl.rules c.ip4Tbl.indx c.ip4Tbl.metaVal chain
  handles : HandleInv c.ip4Tbl

/-- The index entry of the rule goes into a free slot, or behind an expansion entry, or behind a
base slot whose offset fits in 16 bits. -/
def LinkFits (c : IpaNatCache) (clnt : IpaNatIpv4Rule) : Prop :=
  (c.ip4Tbl.indx (srcSlot c clnt)).tblEntry = 0 ∨ (c.ip4Tbl.indx (srcSlot c clnt)).nextIndex ≠ 0 ∨
    srcSlot c clnt < 2 ^ 14

section Step

variable {c c' : IpaNatCache} {tblHdl ruleHdl : ℕ} {clnt : IpaNatIpv4Rule} {res : AddResult}
  {ret : ℤ} {ichain : ℕ → List ℕ}

/-- What is known of the entries that an add picked for its index entry. -/
lemma IndxPlaced.facts (hR : Ready c)
    (H : IndxInv c.config c.ip4Tbl.rules c.ip4Tbl.indx c.ip4Tbl.metaVal ichain) {x p : ℕ}
    (hfit : LinkFits c clnt) (h : IndxPlaced c ichain (srcSlot c clnt) x p) (hp : p ≠ 0) :
    p < c.ip4Tbl.total ∧ p ≠ x ∧ 4 * (indxTblOf c.ip4Tbl p).2 + 2 < 2 ^ 16 := by
  have hb := srcSlot_bounds hR.sizes clnt
  have hexpn : c.ip4Tbl.tableEntries + 2 ≤ c.ip4Tbl.total := hR.sizes.expn
  have hexpn' : c.ip4Tbl.total ≤ c.ip4Tbl.tableEntries + 2 ^ 14 := hR.sizes.expn_le
  cases h with
  | head => exact absurd rfl hp
  | expn hon hx hxT hfree =>
      have hpon := H.lastOf_used (b := srcSlot c clnt) hb.2 hon
      have hpx : lastOf (srcSlot c clnt) (ichain (srcSlot c clnt)) ≠ x := fun e => hpon (e ▸ hfree)
      rcases lastOf_eq_or_mem (srcSlot c clnt) (ichain (srcSlot c clnt)) with e | hmem
      · rw [e] at hpx ⊢
        refine ⟨by omega, hpx, ?_⟩
        -- nothing is behind the slot, so it is the slot's own offset that has to fit
        have h0 : (c.ip4Tbl.indx (srcSlot c clnt)).nextIndex = 0 := by
          have hl := (H.chained.linked (srcSlot c clnt) hb.2).next_last
          rwa [e] at hl
        have hlt : srcSlot c clnt < 2 ^ 14 := by
          rcases hfit with h | h | h
          · exact absurd h hon
          · exact absurd h0 h
          · exact h
        unfold indxTblOf
        rw [if_pos hb.2]
        simp only
        omega
      · have hc := ((H.chained.mem_iff _ hb.2 _).mp hmem).1
        have hc1 : c.ip4Tbl.tableEntries ≤ lastOf (srcSlot c clnt) (ichain (srcSlot c clnt)) :=
          hc.1
        have hc2 : lastOf (srcSlot c clnt) (ichain (srcSlot c clnt)) < c.ip4Tbl.total := hc.2
        refine ⟨hc2, hpx, ?_⟩
        unfold indxTblOf
        rw [if_neg (by omega)]
        simp only
        omega

/-- The position zero is reserved. -/
lemma TableInv.not_live_zero (h : TableInv c) : ¬ (c.ip4Tbl.rules 0).live := fun hl => by
  obtain ⟨chain, H⟩ := h.main
  rw [IpaNatRule.live, H.off_zero] at hl
  simp at hl

/-- **A successful add**: the rule of `clnt` is at position `k`, free before, with slot `i` of
`rule_id_array`, and no other rule is touched but for links. -/
structure Added (c c' : IpaNatCache) (clnt : IpaNatIpv4Rule) (k i : ℕ) : Prop where
  inv : TableInv c'
  shape : c'.ip4Tbl.shape = c.ip4Tbl.shape
  config : c'.config = c.config
  lt : k < c.ip4Tbl.total
  ne_zero : k ≠ 0
  ne_expn : k ≠ c.ip4Tbl.tableEntries
  was_off : (c.ip4Tbl.rules k).enable = false
  in_bounds : i + 2 ≤ c.ip4Tbl.total
  slot_free : c.ip4Tbl.ruleId i = 0
  ruleId : ∀ j, c'.ip4Tbl.ruleId j =
    if j = i then ruleIdOf c.ip4Tbl k else c.ip4Tbl.ruleId j
  live : (c'.ip4Tbl.rules k).live
  clnt_eq : (c'.ip4Tbl.rules k).clnt = clnt
  other : ∀ j, j ≠ k → c'.ip4Tbl.rules j = c.ip4Tbl.rules j ∨
    c'.ip4Tbl.rules j = (c.ip4Tbl.rules j).linkTo k

/-- The handle invariant behind an add. -/
lemma HandleInv.add {t t' : IpaNatIp4TableCache} (hR : Ready c) (hc : c.ip4Tbl = t)
    (H : HandleInv t) (hs : t'.shape = t.shape) {k i : ℕ} (hk : k < t.total)
    (hkoff : ¬ (t.rules k).live) (hi : i < t.total) (hi0 : t.ruleId i = 0)
    (hnew : (t'.rules k).live) (hlive : ∀ j, j ≠ k → ((t'.rules j).live ↔ (t.rules j).live))
    (hz : ¬ (t.rules 0).live)
    (hid : ∀ j, t'.ruleId j = if j = i then ruleIdOf t k else t.ruleId j) : HandleInv t' := by
  subst hc
  obtain ⟨htot, -⟩ := total_of_shape hs
  have hold : ∀ j, c.ip4Tbl.ruleId j ≠ 0 → c.ip4Tbl.ruleId j ≠ ruleIdOf c.ip4Tbl k := fun j hj e => by
    obtain ⟨-, k', hk', hl', hid'⟩ := H.slot j hj
    exact hkoff (ruleIdOf_inj hR.sizes hk' hk (hid'.symm.trans e) ▸ hl')
  refine ⟨fun j hj => ?_, fun j j' hj hjj => ?_, fun j hj hl => ?_⟩
  · rw [hid] at hj ⊢
    rw [htot]
    by_cases hji : j = i
    · rw [if_pos hji]
      exact ⟨hji ▸ hi, k, hk, hnew, (ruleIdOf_of_shape hs k).symm⟩
    · rw [if_neg hji] at hj ⊢
      obtain ⟨h1, k', h2, h3, h4⟩ := H.slot j hj
      have hne : k' ≠ k := fun e => hkoff (e ▸ h3)
      exact ⟨h1, k', h2, (hlive k' hne).mpr h3, h4.trans (ruleIdOf_of_shape hs k').symm⟩
  · rw [hid] at hj hjj
    rw [hid] at hjj
    by_cases hji : j = i
    · by_cases hji' : j' = i
      · rw [hji, hji']
      · rw [if_pos hji, if_neg hji'] at hjj
        rw [if_pos hji, hjj] at hj
        exact absurd hjj.symm (hold j' hj)
    · rw [if_neg hji] at hj hjj
      by_cases hji' : j' = i
      · rw [if_pos hji'] at hjj
        exact absurd hjj (hold j hj)
      · rw [if_neg hji'] at hjj
        exact H.inj j j' hj hjj
  · rw [htot] at hj ⊢
    by_cases hjk : j = k
    · exact ⟨i, hi, by rw [hid, if_pos rfl, hjk, ruleIdOf_of_shape hs]⟩
    · have hl' := (hlive j hjk).mp hl
      obtain ⟨i', hi', hid'⟩ := H.has j hj hl'
      have hj0 : j ≠ 0 := fun e => hz (e ▸ hl')
      have hne : i' ≠ i := fun e =>
        ruleIdOf_ne_zero hR.sizes hj hj0 (by rw [← hid', e, hi0])
      exact ⟨i', hi', by rw [hid, if_neg hne, hid', ruleIdOf_of_shape hs]⟩

/-- **An add on a well-formed table** is refused and changes nothing, or succeeds. -/
theorem TableInv.add (h : TableInv c) (hp : clnt.protocol ≠ invalidProtoFieldCmp)
    (hfit : LinkFits c clnt) (hadd : ipaNatiAddIpv4Rule {} c tblHdl clnt = .ok res) :
    (res.ret = einval ∧ res.ruleHdl = none ∧ res.cache = c) ∨
      (res.ret = 0 ∧ ∃ k i, res.ruleHdl = some (i + 1) ∧ Added c res.cache clnt k i) := by
  obtain ⟨chain, HM⟩ := h.main
  obtain ⟨ichain, HI⟩ := h.indx
  have hz := h.not_live_zero
  rcases addIpv4Rule_spec h.ready HM hadd with hno |
    ⟨pdn, p, gr, t', hpdn, hpl, hindx, hrule, hie, hcache, hE, hhdl⟩
  · exact Or.inl hno
  have hb := dstSlot_bounds h.ready.sizes pdn.publicIp clnt
  have hs := srcSlot_bounds h.ready.sizes clnt
  obtain ⟨hk0, hk, hkT, hkoff, -⟩ := hpl.facts h.ready HM hb.1 hb.2
  have hkdead : ¬ (c.ip4Tbl.rules gr.entry).live := fun hl => by
    rw [hl.1] at hkoff
    simp at hkoff
  have hipl : IndxPlaced c ichain (srcSlot c clnt) gr.indxEntry gr.indxPrevIndex := by
    rcases generateIndexRule_spec h.ready HI clnt with ⟨x, q, hx, hipl⟩ | ⟨-, -, hnone⟩
    · rw [hx] at hindx
      obtain ⟨rfl, rfl⟩ := Prod.mk.inj (Option.some.inj (Except.ok.inj hindx))
      exact hipl
    · rw [hnone] at hindx
      simp at hindx
  have hself : t'.rules gr.entry = gr.rule.turnOn := by rw [hE.rules, if_pos rfl]
  have hlive : (t'.rules gr.entry).live := by
    rw [hself, hrule]
    exact ⟨rfl, hp⟩
  have hview : ∀ j, j ≠ gr.entry → SameView c.config (c.ip4Tbl.rules j) (t'.rules j) :=
    fun j hj => hE.sameView hj
  have hIndx := hE.indx fun h0 => hipl.facts h.ready HI hfit h0
  obtain ⟨chain', HM'⟩ := HM.install h.ready hp hpdn hpl hrule hE
  have hloc : (t'.rules gr.entry).indxTblEntry = gr.indxEntry := by rw [hself, hrule]; rfl
  have hslot : c.config.srcOf (t'.rules gr.entry) = srcSlot c clnt := by
    rw [hself, hrule]; rfl
  have HI' : ∃ ichain', IndxInv c.config t'.rules t'.indx t'.metaVal ichain' := by
    have hmeta := hE.metaVal
    generalize hx : gr.indxEntry = x at hipl hIndx hmeta hloc
    generalize hq : gr.indxPrevIndex = q at hipl hIndx hmeta
    cases hipl with
    | head hfree =>
        have hm : t'.metaVal = c.ip4Tbl.metaVal := funext fun i => by
          rw [hmeta, if_neg fun h => Nat.not_le.mpr hs.2 h.1]
        rw [hm]
        refine ⟨ichain, HI.install_head h.ready.sizes hz hk hk0.ne' hkdead hs.2 hs.1 hfree hlive
          hloc hslot hview fun j => ?_⟩
        rw [hIndx, if_neg (c := (0 : ℕ) ≠ 0 ∧ j = 0) fun h => h.1 rfl]
    | expn hon hcell hxT hfree =>
        have hq0 : lastOf (srcSlot c clnt) (ichain (srcSlot c clnt)) ≠ 0 := fun e =>
          HI.lastOf_used (b := srcSlot c clnt) hs.2 hon (e ▸ HI.off_zero)
        refine ⟨_, HI.install_expn h.ready.sizes hz hk hk0.ne' hkdead hs.2 hon hcell hxT hfree
          hlive hloc hslot hview (fun j => ?_) fun i => ?_⟩
        · rw [hIndx]
          simp only [ne_eq, hq0, not_false_eq_true, true_and]
        · have hc1 : c.ip4Tbl.tableEntries ≤ x := hcell.1
          rw [hmeta]
          simp only [hc1, true_and]
          rfl
  rcases hhdl with ⟨i, hret, hhdl, hi, hi0, hlt, hid⟩ | ⟨-, -, -, hfull⟩
  · refine Or.inr ⟨hret, gr.entry, i, hhdl, ?_⟩
    have hH := h.handles.add h.ready rfl hE.shape hk hkdead hi hi0 hlive
      (fun j hj => (hview j hj).live_iff) hz hid
    rw [hcache]
    exact
      { inv := ⟨h.ready.of_shape hE.shape, ⟨chain', by rw [config_of_shape hE.shape]; exact HM'⟩,
          HI'.imp fun _ h => by rw [config_of_shape hE.shape]; exact h, hH⟩
        shape := hE.shape
        config := config_of_shape hE.shape
        lt := hk
        ne_zero := hk0.ne'
        ne_expn := hkT
        was_off := hkoff
        in_bounds := h.handles.first_free h.ready.sizes HM.off_zero HM.off_expn hlt
        slot_free := hi0
        ruleId := hid
        live := hlive
        clnt_eq := by
          have hlt : clnt.pdnIndex.toNat < 2 ^ 4 := by
            have hlen : c.pdns.length ≤ 2 ^ 4 := h.ready.sizes.pdns
            unfold IpaNatCache.pdn at hpdn
            by_contra hge
            rw [List.getElem?_eq_none (by omega)] at hpdn
            simp at hpdn
          rw [hself, hrule]
          simp only [IpaNatRule.clnt, IpaNatRule.turnOn, swRuleOf, Nat.mod_eq_of_lt hlt,
            UInt8.ofNat_toNat]
        other := fun j hj => hE.like hj }
  · have := h.handles.first_free h.ready.sizes HM.off_zero HM.off_expn hfull
    omega

end Step

end IpaNat
