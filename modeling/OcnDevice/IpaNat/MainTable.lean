import OcnDevice.IpaNat.Generate
import OcnDevice.IpaNat.Effect.Del

/-!
# The base and expansion tables

The two rule tables are a hash table whose collisions are chained through the expansion table, so
`Chain.Chained` is the heart of their invariant.  Beside it, an entry that is not enabled is
cleared, and an enabled base entry is either *live*, and then it is the rule that hashes to this
slot, or *dead*, and then something is behind it.

The invariant is stated about the rules as a function of the position.  What the index table does
to a rule is to change the index entry that it names, and none of this looks at that field.
-/

namespace IpaNat

open IpaNatIp4TableCache Chain

/-! ## What a run never changes -/

/-- The parameters of the two hashes, and the sizes. -/
structure Config where
  hwV4 : Bool
  pdns : List IpaNatPdnEntry
  tableEntries : ℕ
  total : ℕ

/-- The configuration of a driver state. -/
def IpaNatCache.config (c : IpaNatCache) : Config where
  hwV4 := c.hwV4
  pdns := c.pdns
  tableEntries := c.ip4Tbl.tableEntries
  total := c.ip4Tbl.total

namespace Config

variable (g : Config)

/-- `dst_hash` of a rule in the table. -/
def dstOf (r : IpaNatRule) : ℕ :=
  (dstHash g.hwV4 (g.pdns[r.pdnIndex]?.getD {}).publicIp r.targetIp r.targetPort r.publicPort
    r.protocol (hashSize g.tableEntries)).toNat

/-- `src_hash` of a rule in the table. -/
def srcOf (r : IpaNatRule) : ℕ :=
  (srcHash r.privateIp r.privatePort r.targetIp r.targetPort r.protocol
    (hashSize g.tableEntries)).toNat

/-- The sizes of a table that can be created, and PDN indices that fit in their 4-bit field. -/
structure Sizes : Prop where
  two_le : 2 ≤ g.tableEntries
  le_pow : g.tableEntries ≤ 2 ^ 15
  expn : g.tableEntries + 2 ≤ g.total
  expn_le : g.total ≤ g.tableEntries + 2 ^ 14
  small : g.total < 2 ^ 16
  pdns : g.pdns.length ≤ 2 ^ 4

/-- A position of the expansion table. -/
def cell (x : ℕ) : Prop := g.tableEntries ≤ x ∧ x < g.total

/-- A position of the base table. -/
def head (b : ℕ) : Prop := b < g.tableEntries

variable {g}

lemma cell_not_head : ∀ y, g.cell y → ¬ g.head y := fun _ h => Nat.not_lt.mpr h.1

lemma maskHash_bounds (hg : g.Sizes) (hash : UInt16) :
    0 < (maskHash hash (hashSize g.tableEntries)).toNat ∧
      (maskHash hash (hashSize g.tableEntries)).toNat < g.tableEntries := by
  have := hg.two_le
  have hs := hashSize_toNat (n := g.tableEntries) (by omega) (by have := hg.le_pow; omega)
  have hle := maskHash_le hash (hashSize g.tableEntries)
  exact ⟨maskHash_pos (by omega), by omega⟩

/-- A hash is a base slot and never the reserved slot zero. -/
lemma dstOf_bounds (hg : g.Sizes) (r : IpaNatRule) : 0 < g.dstOf r ∧ g.dstOf r < g.tableEntries :=
  maskHash_bounds hg _

lemma srcOf_bounds (hg : g.Sizes) (r : IpaNatRule) : 0 < g.srcOf r ∧ g.srcOf r < g.tableEntries :=
  maskHash_bounds hg _

end Config

/-! ## The invariant -/

/-- What the rule tables show as a chained table. -/
def ruleStore (g : Config) (rules : ℕ → IpaNatRule) : Store ℕ where
  used x := (rules x).enable = true
  next x := (rules x).nextIndex
  prev x := (rules x).prevIndex
  slot x := g.dstOf (rules x)

/-- The invariant of the rule tables, less the clause about dead heads, which does not hold in the
middle of a delete. -/
structure MainCore (g : Config) (rules : ℕ → IpaNatRule) (chain : ℕ → List ℕ) : Prop where
  chained : Chained 0 g.head g.cell (ruleStore g rules) chain
  off_zero : (rules 0).enable = false
  off_expn : (rules g.tableEntries).enable = false
  off : ∀ x < g.total, (rules x).enable = false → (rules x).nameIndx 0 = {}
  live_dst : ∀ b, g.head b → (rules b).enable = true → (rules b).protocol ≠ invalidProtoFieldCmp →
    g.dstOf (rules b) = b
  expn_proto : ∀ x, g.cell x → (rules x).enable = true → (rules x).protocol ≠ invalidProtoFieldCmp

/-- **The invariant of the rule tables.** -/
structure MainInv (g : Config) (rules : ℕ → IpaNatRule) (chain : ℕ → List ℕ) : Prop
    extends MainCore g rules chain where
  dead_next : ∀ b, g.head b → (rules b).enable = true → (rules b).protocol = invalidProtoFieldCmp →
    (rules b).nextIndex ≠ 0

section Lemmas

variable {g : Config} {rules rules' : ℕ → IpaNatRule} {chain : ℕ → List ℕ}

/-- Cleared tables satisfy the invariant, with empty chains. -/
lemma MainInv.empty (h : ∀ x, (rules x).nameIndx 0 = {}) : MainInv g rules fun _ => [] := by
  have hen : ∀ x, (rules x).enable = false := fun x => congrArg IpaNatRule.enable (h x)
  refine ⟨⟨⟨fun b _ => congrArg IpaNatRule.nextIndex (h b), fun _ _ => List.nodup_nil,
    fun b _ x => ?_⟩, hen 0, hen _, fun x _ _ => h x, fun b _ hb => ?_, fun x _ hx => ?_⟩,
    fun b _ hb => ?_⟩
  · simp [ruleStore, hen]
  · simp [hen] at hb
  · simp [hen] at hx
  · simp [hen] at hb

/-- The invariant does not look at the index entries that the rules name. -/
lemma MainCore.congr_indx (H : MainCore g rules chain)
    (h : ∀ x, (rules' x).nameIndx 0 = (rules x).nameIndx 0) : MainCore g rules' chain := by
  have hfield : ∀ {α : Type} (f : IpaNatRule → α) x,
      f ((rules' x).nameIndx 0) = f ((rules x).nameIndx 0) := fun f x => congrArg f (h x)
  have hen : ∀ x, (rules' x).enable = (rules x).enable := hfield IpaNatRule.enable
  have hpr : ∀ x, (rules' x).protocol = (rules x).protocol := hfield IpaNatRule.protocol
  have hdst : ∀ x, g.dstOf (rules' x) = g.dstOf (rules x) := hfield g.dstOf
  refine ⟨H.chained.congr (fun y _ => by simp only [ruleStore, hen])
    (fun y _ => hfield IpaNatRule.nextIndex y) (fun y _ _ => hfield IpaNatRule.prevIndex y)
    (fun y _ _ => hdst y), ?_, ?_, ?_, ?_, ?_⟩
  · rw [hen]; exact H.off_zero
  · rw [hen]; exact H.off_expn
  · intro x hx hoff
    rw [hen] at hoff
    rw [h, H.off x hx hoff]
  · intro b hb
    rw [hen, hpr, hdst]
    exact H.live_dst b hb
  · intro x hx
    rw [hen, hpr]
    exact H.expn_proto x hx

/-- **Installing in a free base slot.** -/
lemma MainInv.install_head (H : MainInv g rules chain) (hg : g.Sizes) {b : ℕ} {r : IpaNatRule}
    (hb : g.head b) (hb0 : 0 < b) (hfree : (rules b).enable = false) (hon : r.enable = true)
    (hnext : r.nextIndex = 0) (hdst : g.dstOf r = b) (hpr : r.protocol ≠ invalidProtoFieldCmp)
    (h : ∀ k, rules' k = if k = b then r else rules k) : MainInv g rules' chain := by
  have hself : rules' b = r := by rw [h, if_pos rfl]
  have hother : ∀ k, k ≠ b → rules' k = rules k := fun k hk => by rw [h, if_neg hk]
  have hcell : ∀ y, g.cell y → y ≠ b := fun y hy e => Config.cell_not_head y hy (e ▸ hb)
  have hbN : b < g.total := by have := hg.expn; unfold Config.head at hb; omega
  have hnext0 : (rules b).nextIndex = 0 := congrArg IpaNatRule.nextIndex (H.off b hbN hfree)
  refine ⟨⟨H.chained.congr ?_ ?_ ?_ ?_, ?_, ?_, ?_, ?_, ?_⟩, ?_⟩
  · intro y hy
    simp only [ruleStore, hother y (hcell y hy)]
  · intro y _
    by_cases hy : y = b
    · simp only [ruleStore, hy, hself, hnext, hnext0]
    · simp only [ruleStore, hother y hy]
  · intro y hy _
    simp only [ruleStore, hother y (hcell y hy)]
  · intro y hy _
    simp only [ruleStore, hother y (hcell y hy)]
  · rw [hother 0 hb0.ne]; exact H.off_zero
  · rw [hother _ (Nat.ne_of_gt hb)]; exact H.off_expn
  · intro x hx hoff
    have hxb : x ≠ b := by rintro rfl; simp [hself, hon] at hoff
    rw [hother x hxb] at hoff ⊢
    exact H.off x hx hoff
  · intro x hx
    by_cases hxb : x = b
    · rw [hxb, hself]; exact fun _ _ => hdst
    · rw [hother x hxb]; exact H.live_dst x hx
  · intro x hx
    rw [hother x (hcell x hx)]
    exact H.expn_proto x hx
  · intro x hx
    by_cases hxb : x = b
    · rw [hxb, hself]; exact fun _ hp => absurd hp hpr
    · rw [hother x hxb]; exact H.dead_next x hx

/-- The end of a chain behind an enabled head is enabled. -/
lemma MainCore.lastOf_enable (H : MainCore g rules chain) {b : ℕ} (hb : g.head b)
    (hbon : (rules b).enable = true) : (rules (lastOf b (chain b))).enable = true := by
  rcases lastOf_eq_or_mem b (chain b) with e | hmem
  · rw [e]; exact hbon
  · exact ((H.chained.mem_iff b hb _).mp hmem).2.1

/-- **Installing behind the end of a chain.** -/
lemma MainInv.install_expn (H : MainInv g rules chain) (hg : g.Sizes) {b x : ℕ} {r : IpaNatRule}
    (hb : g.head b) (hbon : (rules b).enable = true) (hx : g.cell x) (hxT : x ≠ g.tableEntries)
    (hfree : (rules x).enable = false) (hon : r.enable = true) (hnext : r.nextIndex = 0)
    (hprev : r.prevIndex = lastOf b (chain b)) (hdst : g.dstOf r = b)
    (hpr : r.protocol ≠ invalidProtoFieldCmp)
    (h : ∀ k, rules' k =
      if k = x then r else if k = lastOf b (chain b) then (rules k).linkTo x else rules k) :
    MainInv g rules' (Function.update chain b (chain b ++ [x])) := by
  have hpon := H.lastOf_enable hb hbon
  have hx0 : x ≠ 0 := by have := hg.two_le; have := hx.1; omega
  have hpx : lastOf b (chain b) ≠ x := fun e => by rw [e, hfree] at hpon; simp at hpon
  have hself : rules' x = r := by rw [h, if_pos rfl]
  have hp : rules' (lastOf b (chain b)) = (rules (lastOf b (chain b))).linkTo x := by
    rw [h, if_neg hpx, if_pos rfl]
  have hother : ∀ k, k ≠ x → k ≠ lastOf b (chain b) → rules' k = rules k := fun k h1 h2 => by
    rw [h, if_neg h1, if_neg h2]
  -- away from the new entry only links change
  have hlike : ∀ k, k ≠ x → rules' k = rules k ∨ rules' k = (rules k).linkTo x := fun k hk => by
    by_cases hkp : k = lastOf b (chain b)
    · rw [hkp]; exact Or.inr hp
    · exact Or.inl (hother k hk hkp)
  have hfield : ∀ {α : Type} (f : IpaNatRule → α), (∀ r n, f (r.linkTo n) = f r) →
      ∀ k, k ≠ x → f (rules' k) = f (rules k) := fun f hf k hk => by
    rcases hlike k hk with e | e
    · rw [e]
    · rw [e, hf]
  have hen := hfield IpaNatRule.enable fun _ _ => rfl
  have hprev' := hfield IpaNatRule.prevIndex fun _ _ => rfl
  have hproto := hfield IpaNatRule.protocol fun _ _ => rfl
  have hdst' := hfield g.dstOf fun _ _ => rfl
  have hused : ∀ y, (rules y).enable = true → y ≠ x := by
    rintro y hy rfl
    rw [hfree] at hy
    simp at hy
  have hheadne : ∀ y, g.head y → y ≠ x := fun y hy e => Config.cell_not_head x hx (e ▸ hy)
  refine ⟨⟨H.chained.append Config.cell_not_head hb hx hx0 (by simp [ruleStore, hfree])
    ⟨?_, ?_, ?_, ?_, ?_, ?_, ?_, ?_⟩, ?_, ?_, ?_, ?_, ?_⟩, ?_⟩
  · simp only [ruleStore, hp, IpaNatRule.linkTo_nextIndex]
  · simp only [ruleStore, hself, hnext]
  · simp only [ruleStore, hself, hprev]
  · simp only [ruleStore, hself, hdst]
  · intro y _
    by_cases hy : y = x
    · simp [ruleStore, hy, hself, hon]
    · simp only [ruleStore, hen y hy, hy, or_false]
  · rintro y hy hyp
    have hyx : y ≠ x := by
      rcases hy with hy | hy
      · exact hheadne y hy
      · exact hused y hy.2
    simp only [ruleStore, hother y hyx hyp]
  · intro y _ hy
    exact hprev' y (hused y hy)
  · intro y _ hy
    exact hdst' y (hused y hy)
  · rw [hen 0 hx0.symm]; exact H.off_zero
  · rw [hen _ hxT.symm]; exact H.off_expn
  · intro y hy hoff
    have hyx : y ≠ x := by rintro rfl; simp [hself, hon] at hoff
    rw [hen y hyx] at hoff
    rw [hother y hyx (by rintro rfl; simp [hpon] at hoff)]
    exact H.off y hy hoff
  · intro y hy
    rw [hen y (hheadne y hy), hproto y (hheadne y hy), hdst' y (hheadne y hy)]
    exact H.live_dst y hy
  · intro y hy
    by_cases hyx : y = x
    · rw [hyx, hself]; exact fun _ => hpr
    · rw [hen y hyx, hproto y hyx]; exact H.expn_proto y hy
  · intro y hy hyon hyp
    have hyx := hheadne y hy
    rcases hlike y hyx with e | e
    · rw [e] at hyon hyp ⊢
      exact H.dead_next y hy hyon hyp
    · rw [e]; exact hx0

/-- Clearing base entries that have nothing behind them. -/
lemma MainCore.clearHeads (H : MainCore g rules chain) (S : ℕ → Prop) [DecidablePred S]
    (hS : ∀ k, S k → g.head k ∧ (rules k).nextIndex = 0)
    (h : ∀ k, rules' k = if S k then {} else rules k) : MainCore g rules' chain := by
  have hcell : ∀ y, g.cell y → rules' y = rules y := fun y hy => by
    rw [h, if_neg fun hy' => Config.cell_not_head y hy (hS y hy').1]
  have hor : ∀ y, rules' y = {} ∨ rules' y = rules y := fun y => by
    rw [h]
    split_ifs <;> simp
  have hen : ∀ y, (rules' y).enable = true → rules' y = rules y := fun y hy =>
    (hor y).resolve_left fun e => by rw [e] at hy; simp at hy
  refine ⟨H.chained.congr ?_ ?_ ?_ ?_, ?_, ?_, ?_, ?_, ?_⟩
  · intro y hy
    simp only [ruleStore, hcell y hy]
  · intro y _
    simp only [ruleStore]
    rw [h]
    split_ifs with hy
    · exact (hS y hy).2.symm
    · rfl
  · intro y hy _
    simp only [ruleStore, hcell y hy]
  · intro y hy _
    simp only [ruleStore, hcell y hy]
  · rcases hor 0 with e | e <;> rw [e]
    exact H.off_zero
  · rcases hor g.tableEntries with e | e <;> rw [e]
    exact H.off_expn
  · intro y hy hoff
    rcases hor y with e | e
    · rw [e]; rfl
    · rw [e] at hoff ⊢
      exact H.off y hy hoff
  · intro y hy hon
    rw [hen y hon]
    exact H.live_dst y hy (hen y hon ▸ hon)
  · intro y hy hon
    rw [hcell y hy] at hon ⊢
    exact H.expn_proto y hy hon

/-- Turning an enabled base entry into a dead head. -/
lemma MainCore.killHead (H : MainCore g rules chain) {b : ℕ} (hb : g.head b)
    (hbon : (rules b).enable = true)
    (h : ∀ k, rules' k = if k = b then (rules b).deadHead else rules k) :
    MainCore g rules' chain := by
  have hself : rules' b = (rules b).deadHead := by rw [h, if_pos rfl]
  have hother : ∀ k, k ≠ b → rules' k = rules k := fun k hk => by rw [h, if_neg hk]
  have hcell : ∀ y, g.cell y → rules' y = rules y := fun y hy =>
    hother y fun e => Config.cell_not_head y hy (e ▸ hb)
  have hen : ∀ y, (rules' y).enable = (rules y).enable := fun y => by
    by_cases hy : y = b
    · rw [hy, hself]; rfl
    · rw [hother y hy]
  refine ⟨H.chained.congr ?_ ?_ ?_ ?_, ?_, ?_, ?_, ?_, ?_⟩
  · intro y hy
    simp only [ruleStore, hcell y hy]
  · intro y _
    by_cases hy : y = b
    · simp only [ruleStore, hy, hself, IpaNatRule.deadHead_nextIndex]
    · simp only [ruleStore, hother y hy]
  · intro y hy _
    simp only [ruleStore, hcell y hy]
  · intro y hy _
    simp only [ruleStore, hcell y hy]
  · rw [hen]; exact H.off_zero
  · rw [hen]; exact H.off_expn
  · intro y hy hoff
    rw [hen] at hoff
    rw [hother y (by rintro rfl; simp [hbon] at hoff)]
    exact H.off y hy hoff
  · intro y hy hon hp
    have hyb : y ≠ b := by rintro rfl; simp [hself] at hp
    rw [hother y hyb] at hon hp ⊢
    exact H.live_dst y hy hon hp
  · intro y hy hon
    rw [hcell y hy] at hon ⊢
    exact H.expn_proto y hy hon

/-- Where the links of an enabled expansion entry point to. -/
lemma MainCore.links (H : MainCore g rules chain) (hg : g.Sizes) {k : ℕ} (hk : g.cell k)
    (hon : (rules k).enable = true) :
    0 < (rules k).prevIndex ∧ (rules k).prevIndex < g.total ∧ (rules k).prevIndex ≠ k ∧
      (rules (rules k).prevIndex).enable = true ∧
      ((rules k).nextIndex ≠ 0 → g.cell (rules k).nextIndex ∧ (rules k).nextIndex ≠ k ∧
        (rules k).nextIndex ≠ (rules k).prevIndex ∧ (rules (rules k).nextIndex).enable = true) := by
  have hb := Config.dstOf_bounds hg (rules k)
  have := hg.expn
  have := hg.two_le
  obtain ⟨hprev, hnext⟩ := H.chained.neighbours hk hon hb.2
  obtain ⟨hpne, hnne⟩ := H.chained.neighbours_ne Config.cell_not_head hk hon hb.2
  have hmem : ∀ {y}, y ∈ chain (g.dstOf (rules k)) → g.cell y ∧ (rules y).enable = true :=
    fun hy => ((H.chained.mem_iff _ hb.2 _).mp hy).imp_right And.left
  -- a head with something behind it is enabled
  have hhead : (rules (g.dstOf (rules k))).enable = true := by
    by_contra hoff
    have h0 := congrArg IpaNatRule.nextIndex
      (H.off _ (by omega) (by simpa using hoff : (rules (g.dstOf (rules k))).enable = false))
    have hnil := (H.chained.linked _ hb.2).eq_nil_iff.mpr h0
    have := H.chained.mem_slot hk hon hb.2
    rw [show (ruleStore g rules).slot k = g.dstOf (rules k) from rfl, hnil] at this
    simp at this
  simp only [ruleStore] at hprev hnext hpne hnne
  refine ⟨?_, ?_, hpne, ?_, fun h0 => ?_⟩
  · rcases hprev with e | hp
    · rw [e]; exact hb.1
    · have := (hmem hp).1.1; omega
  · rcases hprev with e | hp
    · rw [e]; omega
    · exact (hmem hp).1.2
  · rcases hprev with e | hp
    · rw [e]; exact hhead
    · exact (hmem hp).2
  · have hn := hmem (hnext.resolve_left h0)
    exact ⟨hn.1, (hnne h0).1, (hnne h0).2, hn.2⟩

/-- Taking an expansion entry out of its chain. -/
lemma MainCore.unlink (H : MainCore g rules chain) (hg : g.Sizes) {k : ℕ} (hk : g.cell k)
    (hon : (rules k).enable = true)
    (h : ∀ j, rules' j =
      if j = k then {}
      else if j = (rules k).prevIndex then (rules j).linkTo (rules k).nextIndex
      else if (rules k).nextIndex ≠ 0 ∧ j = (rules k).nextIndex then
        (rules j).linkBack (rules k).prevIndex
      else rules j) :
    MainCore g rules' (Function.update chain (g.dstOf (rules k))
      ((chain (g.dstOf (rules k))).erase k)) := by
  have hb := Config.dstOf_bounds hg (rules k)
  obtain ⟨-, -, hpk, hpon, hnext⟩ := H.links hg hk hon
  have hself : rules' k = {} := by rw [h, if_pos rfl]
  have hprev : rules' (rules k).prevIndex
      = (rules (rules k).prevIndex).linkTo (rules k).nextIndex := by
    rw [h, if_neg hpk, if_pos rfl]
  -- away from the deleted entry only links change
  have hlike : ∀ j, j ≠ k → rules' j = rules j ∨ rules' j = (rules j).linkTo (rules k).nextIndex ∨
      rules' j = (rules j).linkBack (rules k).prevIndex := fun j hj => by
    rw [h, if_neg hj]
    split_ifs <;> simp
  have hfield : ∀ {α : Type} (f : IpaNatRule → α), (∀ r n, f (r.linkTo n) = f r) →
      (∀ r p, f (r.linkBack p) = f r) → ∀ j, j ≠ k → f (rules' j) = f (rules j) :=
    fun f hf hf' j hj => by
      rcases hlike j hj with e | e | e
      · rw [e]
      · rw [e, hf]
      · rw [e, hf']
  have hen := hfield IpaNatRule.enable (fun _ _ => rfl) fun _ _ => rfl
  have hproto := hfield IpaNatRule.protocol (fun _ _ => rfl) fun _ _ => rfl
  have hdst := hfield g.dstOf (fun _ _ => rfl) fun _ _ => rfl
  have hheadne : ∀ j, g.head j → j ≠ k := fun j hj e => Config.cell_not_head k hk (e ▸ hj)
  refine ⟨H.chained.remove Config.cell_not_head hk hon hb.2 ⟨?_, ?_, ?_, ?_, ?_, ?_⟩,
    ?_, ?_, ?_, ?_, ?_⟩
  · simp only [ruleStore, hprev, IpaNatRule.linkTo_nextIndex]
  · intro h0
    obtain ⟨-, hnk, hnp, -⟩ := hnext h0
    simp only [ruleStore]
    rw [h, if_neg hnk, if_neg hnp, if_pos ⟨h0, rfl⟩]
    rfl
  · intro j _
    by_cases hj : j = k
    · simp [ruleStore, hj, hself]
    · simp only [ruleStore, hen j hj, hj, ne_eq, not_false_eq_true, and_true]
  · rintro j - hjp hjk
    simp only [ruleStore] at hjp ⊢
    rw [h, if_neg hjk, if_neg hjp]
    split_ifs <;> rfl
  · rintro j - - hjn hjk
    simp only [ruleStore] at hjn ⊢
    have hjn' : ¬ ((rules k).nextIndex ≠ 0 ∧ j = (rules k).nextIndex) := fun hx => hjn hx.2
    rw [h, if_neg hjk, if_neg hjn']
    split_ifs <;> rfl
  · intro j _ _ hjk
    exact hdst j hjk
  · by_cases h0 : 0 = k
    · rw [h0, hself]
    · rw [hen 0 h0]; exact H.off_zero
  · by_cases hT : g.tableEntries = k
    · rw [hT, hself]
    · rw [hen _ hT]; exact H.off_expn
  · intro j hj hoff
    by_cases hjk : j = k
    · rw [hjk, hself]; rfl
    · rw [hen j hjk] at hoff
      have hjp : j ≠ (rules k).prevIndex := by rintro rfl; simp [hpon] at hoff
      have hjn : ¬ ((rules k).nextIndex ≠ 0 ∧ j = (rules k).nextIndex) := by
        rintro ⟨h0, rfl⟩
        simp [(hnext h0).2.2.2] at hoff
      rw [h, if_neg hjk, if_neg hjp, if_neg hjn]
      exact H.off j hj hoff
  · intro j hj
    rw [hen j (hheadne j hj), hproto j (hheadne j hj), hdst j (hheadne j hj)]
    exact H.live_dst j hj
  · intro j hj
    by_cases hjk : j = k
    · rw [hjk, hself]; simp
    · rw [hen j hjk, hproto j hjk]; exact H.expn_proto j hj

/-- **Deleting an enabled rule**, before dead heads are collected. -/
lemma MainCore.delRules (H : MainCore g rules chain) (hg : g.Sizes) {k : ℕ} (hk : k < g.total)
    (hon : (rules k).enable = true)
    (h : ∀ j, rules' j = IpaNat.delRules g.tableEntries rules k j) :
    ∃ chain', MainCore g rules' chain' := by
  by_cases hkT : k < g.tableEntries
  · by_cases h0 : (rules k).nextIndex = 0
    · refine ⟨chain, H.clearHeads (fun j => j = k) (by rintro j rfl; exact ⟨hkT, h0⟩) fun j => ?_⟩
      rw [h, IpaNat.delRules, if_pos hkT, if_pos h0]
    · refine ⟨chain, H.killHead hkT hon fun j => ?_⟩
      rw [h, IpaNat.delRules, if_pos hkT, if_neg h0]
  · refine ⟨_, H.unlink hg ⟨by omega, hk⟩ hon fun j => ?_⟩
    rw [h, IpaNat.delRules, if_neg hkT]

/-- **Collecting dead heads** restores the whole invariant. -/
lemma MainCore.collect (H : MainCore g rules chain)
    (h : ∀ j, rules' j =
      if j < g.tableEntries ∧ (rules j).protocol = invalidProtoFieldCmp
        ∧ (rules j).nextIndex = invalidNatEntry then {} else rules j) :
    MainInv g rules' chain := by
  refine ⟨H.clearHeads _ (fun k hk => ⟨hk.1, hk.2.2⟩) h, fun b hb hon hp => ?_⟩
  rw [h] at hon hp ⊢
  by_cases hc : b < g.tableEntries ∧ (rules b).protocol = invalidProtoFieldCmp
      ∧ (rules b).nextIndex = invalidNatEntry
  · rw [if_pos hc] at hon
    simp at hon
  · rw [if_neg hc] at hon hp ⊢
    exact fun h0 => hc ⟨hb, hp, h0⟩

end Lemmas

end IpaNat
