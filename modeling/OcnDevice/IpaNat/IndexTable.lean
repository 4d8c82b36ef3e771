import OcnDevice.IpaNat.MainChains

/-!
# The index tables

The index tables hold one entry for every live rule, hashed by the private side of the rule.  They
are a second chained table over the same positions: the predecessor of an expansion entry is kept
in `index_expn_table_meta`, and the slot of an entry is the hash of the rule that it names.

The invariant ties the two tables together in both directions: an index entry in use names a live
rule that names it back, and a live rule names an index entry that names it back.  Deleting the
head of an index chain moves the successor into the head, so to the chain it is the successor that
is taken out; the rule that the successor named then gets the head as its index entry.
-/

namespace IpaNat

open IpaNatIp4TableCache Chain

/-- The rule is live: enabled, and no dead head. -/
def IpaNatRule.live (r : IpaNatRule) : Prop :=
  r.enable = true ∧ r.protocol ≠ invalidProtoFieldCmp

/-- What the index tables show as a chained table. -/
def indxStore (g : Config) (rules : ℕ → IpaNatRule) (indx : ℕ → IpaNatIndxTblRule)
    (metaVal : ℕ → ℕ) : Store ℕ where
  used x := (indx x).tblEntry ≠ 0
  next x := (indx x).nextIndex
  prev x := metaVal (x - g.tableEntries)
  slot x := g.srcOf (rules (indx x).tblEntry)

/-- **The invariant of the index tables.** -/
structure IndxInv (g : Config) (rules : ℕ → IpaNatRule) (indx : ℕ → IpaNatIndxTblRule)
    (metaVal : ℕ → ℕ) (chain : ℕ → List ℕ) : Prop where
  chained : Chained 0 g.head g.cell (indxStore g rules indx metaVal) chain
  off_zero : (indx 0).tblEntry = 0
  off_expn : (indx g.tableEntries).tblEntry = 0
  off : ∀ x < g.total, (indx x).tblEntry = 0 → indx x = {}
  head_slot : ∀ b, g.head b → (indx b).tblEntry ≠ 0 → g.srcOf (rules (indx b).tblEntry) = b
  names : ∀ x < g.total, (indx x).tblEntry ≠ 0 → (indx x).tblEntry < g.total ∧
    (rules (indx x).tblEntry).live ∧ (rules (indx x).tblEntry).indxTblEntry = x
  named : ∀ k < g.total, (rules k).live → (rules k).indxTblEntry < g.total ∧
    (indx (rules k).indxTblEntry).tblEntry = k
  off_rule : ∀ k < g.total, (rules k).enable = false → (rules k).indxTblEntry = 0

section Lemmas

variable {g : Config} {rules rules' : ℕ → IpaNatRule} {indx indx' : ℕ → IpaNatIndxTblRule}
  {metaVal metaVal' : ℕ → ℕ} {chain : ℕ → List ℕ}

/-- Cleared tables satisfy the invariant, with empty chains. -/
lemma IndxInv.empty (hr : ∀ x, rules x = {}) (hi : ∀ x, indx x = {}) :
    IndxInv g rules indx metaVal fun _ => [] := by
  have hen : ∀ x, ¬ (rules x).live := fun x h => by simp [IpaNatRule.live, hr] at h
  have hte : ∀ x, (indx x).tblEntry = 0 := fun x => by rw [hi]
  refine ⟨⟨fun b _ => by simp [indxStore, hi], fun _ _ => List.nodup_nil, fun b _ x => ?_⟩,
    hte 0, hte _, fun x _ _ => hi x, fun b _ hb => absurd (hte b) hb,
    fun x _ hx => absurd (hte x) hx, fun k _ hk => absurd hk (hen k), fun k _ _ => by rw [hr]⟩
  simp [indxStore, hte]

/-- An index head that is free has nothing behind it. -/
lemma IndxInv.chain_of_free (H : IndxInv g rules indx metaVal chain) (hg : g.Sizes) {b : ℕ}
    (hb : g.head b) (hfree : (indx b).tblEntry = 0) : chain b = [] := by
  have hexpn := hg.expn
  have hlt : b < g.total := by unfold Config.head at hb; omega
  refine (H.chained.linked b hb).eq_nil_iff.mpr ?_
  simp only [indxStore, H.off b hlt hfree]

/-- The end of a chain behind a head in use is in use. -/
lemma IndxInv.lastOf_used (H : IndxInv g rules indx metaVal chain) {b : ℕ} (hb : g.head b)
    (hon : (indx b).tblEntry ≠ 0) : (indx (lastOf b (chain b))).tblEntry ≠ 0 := by
  rcases lastOf_eq_or_mem b (chain b) with e | hmem
  · rw [e]; exact hon
  · exact ((H.chained.mem_iff b hb _).mp hmem).2.1

/-- The reserved entries are never in use. -/
lemma IndxInv.ne_reserved (H : IndxInv g rules indx metaVal chain) {e : ℕ}
    (hon : (indx e).tblEntry ≠ 0) : e ≠ 0 ∧ e ≠ g.tableEntries :=
  ⟨fun h => hon (h ▸ H.off_zero), fun h => hon (h ▸ H.off_expn)⟩

/-- Where the links of an index entry in use point to. -/
lemma IndxInv.links (H : IndxInv g rules indx metaVal chain) (hg : g.Sizes) {e : ℕ}
    (he : e < g.total) (hon : (indx e).tblEntry ≠ 0) :
    ((indx e).nextIndex ≠ 0 → g.cell (indx e).nextIndex ∧ (indx e).nextIndex ≠ e ∧
      (indx (indx e).nextIndex).tblEntry ≠ 0 ∧
      g.srcOf (rules (indx (indx e).nextIndex).tblEntry) = g.srcOf (rules (indx e).tblEntry)) ∧
      (g.tableEntries ≤ e → metaVal (e - g.tableEntries) < g.total ∧
        metaVal (e - g.tableEntries) ≠ e ∧ (indx (metaVal (e - g.tableEntries))).tblEntry ≠ 0 ∧
        (indx e).nextIndex ≠ metaVal (e - g.tableEntries) ∧
        0 < metaVal (e - g.tableEntries)) := by
  have hexpn := hg.expn
  have h2 := hg.two_le
  by_cases hT : g.tableEntries ≤ e
  · have hcell : g.cell e := ⟨hT, he⟩
    have hs := Config.srcOf_bounds hg (rules (indx e).tblEntry)
    have hmem : ∀ {y}, y ∈ chain (g.srcOf (rules (indx e).tblEntry)) → g.cell y ∧
        (indx y).tblEntry ≠ 0 ∧
        g.srcOf (rules (indx y).tblEntry) = g.srcOf (rules (indx e).tblEntry) :=
      fun hy => (H.chained.mem_iff _ hs.2 _).mp hy
    obtain ⟨hprev, hnext⟩ := H.chained.neighbours hcell hon hs.2
    obtain ⟨hpne, hnne⟩ := H.chained.neighbours_ne Config.cell_not_head hcell hon hs.2
    have hself : e ∈ chain (g.srcOf (rules (indx e).tblEntry)) :=
      H.chained.mem_slot hcell hon hs.2
    simp only [indxStore] at hprev hnext hpne hnne
    refine ⟨fun h0 => ?_, fun _ => ?_⟩
    · have hn := hmem (hnext.resolve_left h0)
      exact ⟨hn.1, (hnne h0).1, hn.2.1, hn.2.2⟩
    · have hp : metaVal (e - g.tableEntries) < g.total ∧
          (indx (metaVal (e - g.tableEntries))).tblEntry ≠ 0 ∧
          0 < metaVal (e - g.tableEntries) := by
        rcases hprev with hp | hp
        · rw [hp]
          refine ⟨by omega, fun h0 => ?_, hs.1⟩
          rw [H.chain_of_free hg hs.2 h0] at hself
          simp at hself
        · have h := hmem hp
          have h1 := h.1.1
          exact ⟨h.1.2, h.2.1, by omega⟩
      refine ⟨hp.1, hpne, hp.2.1, fun h => ?_, hp.2.2⟩
      have h0 : (indx e).nextIndex ≠ 0 := by rw [h]; exact hp.2.2.ne'
      exact (hnne h0).2 h
  · have hb : g.head e := by unfold Config.head; omega
    have hslot := H.head_slot e hb hon
    refine ⟨fun h0 => ?_, fun h => absurd h hT⟩
    have hl := H.chained.linked e hb
    have hn : (indx e).nextIndex ∈ chain e := by
      cases hc : chain e with
      | nil => rw [hc] at hl; exact absurd hl h0
      | cons z l =>
          rw [hc] at hl
          rw [show (indx e).nextIndex = z from hl.1]
          simp
    have h := (H.chained.mem_iff e hb _).mp hn
    refine ⟨h.1, fun e' => Config.cell_not_head _ h.1 (by rw [e']; exact hb), h.2.1, ?_⟩
    rw [hslot]
    exact h.2.2

/-! ### Installing -/

/-- The two rules are the same to the index tables. -/
structure SameView (g : Config) (r r' : IpaNatRule) : Prop where
  enable : r'.enable = r.enable
  protocol : r'.protocol = r.protocol
  indxTblEntry : r'.indxTblEntry = r.indxTblEntry
  src : g.srcOf r' = g.srcOf r

lemma SameView.live_iff {r r' : IpaNatRule} (h : SameView g r r') : r'.live ↔ r.live := by
  unfold IpaNatRule.live
  rw [h.enable, h.protocol]

/-- What an installation does to the correspondence, whatever it does to the chains: rule `k` and
index entry `x`, both free before, now name each other. -/
lemma IndxInv.install_of (H : IndxInv g rules indx metaVal chain) (hg : g.Sizes) {k x : ℕ}
    {chain' : ℕ → List ℕ} (hz : ¬ (rules 0).live)
    (hchain : Chained 0 g.head g.cell (indxStore g rules' indx' metaVal') chain')
    (hk : k < g.total) (hkoff : ¬ (rules k).live) (hx : x < g.total) (hx0 : x ≠ 0)
    (hxT : x ≠ g.tableEntries) (hnew : (rules' k).live) (hloc : (rules' k).indxTblEntry = x)
    (hslot : g.head x → g.srcOf (rules' k) = x)
    (hview : ∀ j, j ≠ k → SameView g (rules j) (rules' j))
    (hfree : (indx x).tblEntry = 0) (hself : indx' x = { tblEntry := k, nextIndex := 0 })
    (hte : ∀ j, j ≠ x → (indx' j).tblEntry = (indx j).tblEntry)
    (hoff : ∀ j, j ≠ x → (indx j).tblEntry = 0 → indx' j = indx j) (hk0 : k ≠ 0) :
    IndxInv g rules' indx' metaVal' chain' := by
  have hnek : ∀ j < g.total, (indx j).tblEntry ≠ 0 → (indx j).tblEntry ≠ k := fun j hj h0 e =>
    hkoff (e ▸ (H.names j hj h0).2.1)
  refine ⟨hchain, ?_, ?_, fun j hj h0 => ?_, fun b hb h0 => ?_, fun j hj h0 => ?_,
    fun j hj hl => ?_, fun j hj hen => ?_⟩
  · rw [hte 0 hx0.symm]; exact H.off_zero
  · rw [hte _ hxT.symm]; exact H.off_expn
  · by_cases hjx : j = x
    · rw [hjx, hself] at h0
      exact absurd h0 hk0
    · rw [hte j hjx] at h0
      rw [hoff j hjx h0]
      exact H.off j hj h0
  · by_cases hbx : b = x
    · rw [hbx, hself]
      exact hslot (hbx ▸ hb)
    · rw [hte b hbx] at h0 ⊢
      have hbN : b < g.total := by
        have := hg.expn
        unfold Config.head at hb
        omega
      rw [(hview _ (hnek b hbN h0)).src]
      exact H.head_slot b hb h0
  · by_cases hjx : j = x
    · rw [hjx, hself]
      exact ⟨hk, hnew, hloc⟩
    · rw [hte j hjx] at h0 ⊢
      obtain ⟨h1, h2, h3⟩ := H.names j hj h0
      have hv := hview _ (hnek j hj h0)
      exact ⟨h1, hv.live_iff.mpr h2, hv.indxTblEntry.trans h3⟩
  · by_cases hjk : j = k
    · rw [hjk, hloc, hself]
      exact ⟨hx, rfl⟩
    · have hv := hview j hjk
      obtain ⟨h1, h2⟩ := H.named j hj (hv.live_iff.mp hl)
      rw [hv.indxTblEntry]
      refine ⟨h1, ?_⟩
      have hne : (rules j).indxTblEntry ≠ x := fun e => by
        rw [e, hfree] at h2
        exact hz (h2 ▸ hv.live_iff.mp hl)
      rw [hte _ hne, h2]
  · by_cases hjk : j = k
    · rw [hjk, hnew.1] at hen
      simp at hen
    · have hv := hview j hjk
      rw [hv.indxTblEntry]
      exact H.off_rule j hj (hv.enable ▸ hen)

/-- **Installing in a free index slot.** -/
lemma IndxInv.install_head (H : IndxInv g rules indx metaVal chain) (hg : g.Sizes) {k b : ℕ}
    (hz : ¬ (rules 0).live) (hk : k < g.total) (hk0 : k ≠ 0) (hkoff : ¬ (rules k).live)
    (hb : g.head b) (hb0 : 0 < b) (hfree : (indx b).tblEntry = 0) (hnew : (rules' k).live)
    (hloc : (rules' k).indxTblEntry = b) (hslot : g.srcOf (rules' k) = b)
    (hview : ∀ j, j ≠ k → SameView g (rules j) (rules' j))
    (hindx : ∀ j, indx' j = if j = b then { tblEntry := k, nextIndex := 0 } else indx j) :
    IndxInv g rules' indx' metaVal chain := by
  have hexpn := hg.expn
  have hb' : b < g.tableEntries := hb
  have hself : indx' b = { tblEntry := k, nextIndex := 0 } := by rw [hindx, if_pos rfl]
  have hother : ∀ j, j ≠ b → indx' j = indx j := fun j hj => by rw [hindx, if_neg hj]
  have hcell : ∀ y, g.cell y → indx' y = indx y := fun y hy =>
    hother y fun e => Config.cell_not_head y hy (e ▸ hb)
  have hnext0 : (indx b).nextIndex = 0 := by rw [H.off b (by omega) hfree]
  refine H.install_of hg hz (H.chained.congr ?_ ?_ ?_ ?_) hk hkoff (by omega) hb0.ne' hb'.ne hnew
    hloc (fun _ => hslot) hview hfree hself (fun j hj => by rw [hother j hj])
    (fun j hj _ => hother j hj) hk0
  · intro y hy
    simp only [indxStore, hcell y hy]
  · intro y _
    by_cases hy : y = b
    · simp only [indxStore, hy, hself, hnext0]
    · simp only [indxStore, hother y hy]
  · intro y _ _
    rfl
  · intro y hy hu
    simp only [indxStore] at hu ⊢
    rw [hcell y hy]
    refine (hview _ fun e => hkoff ?_).src
    rw [← e]
    exact (H.names y hy.2 hu).2.1

/-- **Installing behind the end of an index chain.** -/
lemma IndxInv.install_expn (H : IndxInv g rules indx metaVal chain) (hg : g.Sizes) {k b x : ℕ}
    (hz : ¬ (rules 0).live) (hk : k < g.total) (hk0 : k ≠ 0) (hkoff : ¬ (rules k).live)
    (hb : g.head b) (hbon : (indx b).tblEntry ≠ 0) (hx : g.cell x) (hxT : x ≠ g.tableEntries)
    (hfree : (indx x).tblEntry = 0) (hnew : (rules' k).live)
    (hloc : (rules' k).indxTblEntry = x) (hslot : g.srcOf (rules' k) = b)
    (hview : ∀ j, j ≠ k → SameView g (rules j) (rules' j))
    (hindx : ∀ j, indx' j = if j = x then { tblEntry := k, nextIndex := 0 }
      else if j = lastOf b (chain b) then (indx j).linkTo x else indx j)
    (hmeta : ∀ i, metaVal' i =
      if i = x - g.tableEntries then lastOf b (chain b) else metaVal i) :
    IndxInv g rules' indx' metaVal' (Function.update chain b (chain b ++ [x])) := by
  have hx1 : g.tableEntries ≤ x := hx.1
  have h2 := hg.two_le
  have hpon := H.lastOf_used hb hbon
  have hpx : lastOf b (chain b) ≠ x := fun e => hpon (e ▸ hfree)
  have hself : indx' x = { tblEntry := k, nextIndex := 0 } := by rw [hindx, if_pos rfl]
  have hlast : indx' (lastOf b (chain b)) = (indx (lastOf b (chain b))).linkTo x := by
    rw [hindx, if_neg hpx, if_pos rfl]
  have hother : ∀ j, j ≠ x → j ≠ lastOf b (chain b) → indx' j = indx j := fun j h1 h2 => by
    rw [hindx, if_neg h1, if_neg h2]
  have hte : ∀ j, j ≠ x → (indx' j).tblEntry = (indx j).tblEntry := fun j hj => by
    by_cases hjp : j = lastOf b (chain b)
    · rw [hjp, hlast]; rfl
    · rw [hother j hj hjp]
  have hused : ∀ y, (indx y).tblEntry ≠ 0 → y ≠ x := fun y hy e => hy (e ▸ hfree)
  refine H.install_of hg hz (H.chained.append Config.cell_not_head hb hx (by omega)
    (by simp [indxStore, hfree]) ⟨?_, ?_, ?_, ?_, ?_, ?_, ?_, ?_⟩) hk hkoff hx.2 (by omega) hxT
    hnew hloc (fun h => absurd h (Config.cell_not_head x hx)) hview hfree hself hte
    (fun j hj h0 => hother j hj fun e => hpon (e ▸ h0)) hk0
  · simp only [indxStore, hlast, IpaNatIndxTblRule.linkTo_nextIndex]
  · simp only [indxStore, hself]
  · simp only [indxStore, hmeta, if_true]
  · simp only [indxStore, hself, hslot]
  · intro y _
    by_cases hy : y = x
    · simp [indxStore, hy, hself, hk0]
    · simp only [indxStore, hte y hy, hy, or_false]
  · rintro y hy hyp
    have hyx : y ≠ x := by
      rcases hy with hy | hy
      · exact fun e => Config.cell_not_head x hx (e ▸ hy)
      · exact hused y hy.2
    simp only [indxStore, hother y hyx hyp]
  · intro y hy hu
    have hyx := hused y hu
    have hy1 : g.tableEntries ≤ y := hy.1
    simp only [indxStore]
    rw [hmeta, if_neg (by omega)]
  · intro y hy hu
    simp only [indxStore] at hu ⊢
    rw [hte y (hused y hu)]
    refine (hview _ fun e => hkoff ?_).src
    rw [← e]
    exact (H.names y hy.2 hu).2.1

/-! ### Deleting -/

/-- What the deletion of rule `k`, whose index entry is `e`, leaves of the other rules: they stay
as they were, except that `moved`, if there is one, has `e` as its index entry. -/
structure RulesAfterDelete (g : Config) (rules rules' : ℕ → IpaNatRule) (k : ℕ)
    (moved : Option ℕ) (e : ℕ) : Prop where
  gone : ¬ (rules' k).live
  kept : ∀ j, j ≠ k → (rules j).live → (rules' j).live ∧
    g.srcOf (rules' j) = g.srcOf (rules j) ∧
    (rules' j).indxTblEntry = if moved = some j then e else (rules j).indxTblEntry
  back : ∀ j, (rules' j).live → (rules j).live
  off_rule : ∀ j < g.total, (rules' j).enable = false → (rules' j).indxTblEntry = 0

/-- What a deletion does to the correspondence, whatever it does to the chains: the index entries
that are left name the rules that are left. -/
lemma IndxInv.delete_of {k e : ℕ} {moved : Option ℕ} {chain' : ℕ → List ℕ} (hg : g.Sizes)
    (hD : RulesAfterDelete g rules rules' k moved e)
    (hchain : Chained 0 g.head g.cell (indxStore g rules' indx' metaVal') chain')
    (hzero : (indx' 0).tblEntry = 0) (hexpn : (indx' g.tableEntries).tblEntry = 0)
    (hoff : ∀ x < g.total, (indx' x).tblEntry = 0 → indx' x = {})
    (hnames : ∀ x < g.total, (indx' x).tblEntry ≠ 0 → (indx' x).tblEntry ≠ k ∧
      (indx' x).tblEntry < g.total ∧ (rules (indx' x).tblEntry).live ∧
      (if moved = some (indx' x).tblEntry then e else (rules (indx' x).tblEntry).indxTblEntry) = x)
    (hnamed : ∀ j < g.total, j ≠ k → (rules j).live →
      (if moved = some j then e else (rules j).indxTblEntry) < g.total ∧
      (indx' (if moved = some j then e else (rules j).indxTblEntry)).tblEntry = j)
    (hhead : ∀ b, g.head b → (indx' b).tblEntry ≠ 0 → g.srcOf (rules (indx' b).tblEntry) = b) :
    IndxInv g rules' indx' metaVal' chain' := by
  refine ⟨hchain, hzero, hexpn, hoff, fun b hb h0 => ?_, fun x hx h0 => ?_, fun j hj hl => ?_,
    hD.off_rule⟩
  · have hbN : b < g.total := by
      have := hg.expn
      unfold Config.head at hb
      omega
    obtain ⟨hne, -, hl, -⟩ := hnames b hbN h0
    rw [(hD.kept _ hne hl).2.1]
    exact hhead b hb h0
  · obtain ⟨hne, hlt, hl, hloc⟩ := hnames x hx h0
    obtain ⟨h1, -, h3⟩ := hD.kept _ hne hl
    exact ⟨hlt, h1, h3.trans hloc⟩
  · have hne : j ≠ k := by
      rintro rfl
      exact hD.gone hl
    have hl' := hD.back j hl
    rw [(hD.kept j hne hl').2.2]
    exact hnamed j hj hne hl'

/-- Deleting the only entry of an index slot. -/
lemma IndxInv.delete_onlyOne (H : IndxInv g rules indx metaVal chain) (hg : g.Sizes) {k e : ℕ}
    (hz : ¬ (rules 0).live) (hk : k < g.total) (hl : (rules k).live) (he : (rules k).indxTblEntry = e) (hb : g.head e)
    (h0 : (indx e).nextIndex = 0) (hD : RulesAfterDelete g rules rules' k none e)
    (hindx : ∀ j, indx' j = if j = e then {} else indx j) :
    IndxInv g rules' indx' metaVal chain := by
  obtain ⟨-, hek⟩ := H.named k hk hl
  rw [he] at hek
  obtain ⟨he0, -⟩ := H.ne_reserved (e := e) (hek ▸ fun h => hz (h ▸ hl))
  have hself : indx' e = {} := by rw [hindx, if_pos rfl]
  have hother : ∀ j, j ≠ e → indx' j = indx j := fun j hj => by rw [hindx, if_neg hj]
  have hcell : ∀ y, g.cell y → indx' y = indx y := fun y hy =>
    hother y fun h => Config.cell_not_head y hy (h ▸ hb)
  have hnek : ∀ x < g.total, x ≠ e → (indx x).tblEntry ≠ 0 → (indx x).tblEntry ≠ k :=
    fun x hx hne h0 h => hne (by rw [← (H.names x hx h0).2.2, h, he])
  refine delete_of hg hD (H.chained.congr ?_ ?_ ?_ ?_) ?_ ?_ ?_ ?_ ?_ ?_
  · intro y hy
    simp only [indxStore, hcell y hy]
  · intro y _
    by_cases hy : y = e
    · simp only [indxStore, hy, hself, h0]
    · simp only [indxStore, hother y hy]
  · intro y _ _
    rfl
  · intro y hy hu
    simp only [indxStore] at hu ⊢
    rw [hcell y hy]
    have hye : y ≠ e := fun h => Config.cell_not_head y hy (h ▸ hb)
    exact (hD.kept _ (hnek y hy.2 hye hu) (H.names y hy.2 hu).2.1).2.1
  · rw [hother 0 he0.symm]; exact H.off_zero
  · rw [hother _ (Nat.ne_of_gt hb)]; exact H.off_expn
  · intro x hx hx0
    by_cases hxe : x = e
    · rw [hxe, hself]
    · rw [hother x hxe] at hx0 ⊢
      exact H.off x hx hx0
  · intro x hx hx0
    have hxe : x ≠ e := by rintro rfl; simp [hself] at hx0
    rw [hother x hxe] at hx0 ⊢
    obtain ⟨h1, h2, h3⟩ := H.names x hx hx0
    exact ⟨hnek x hx hxe hx0, h1, h2, h3⟩
  · intro j hj hjk hlj
    obtain ⟨h1, h2⟩ := H.named j hj hlj
    have hne : (rules j).indxTblEntry ≠ e := fun h => hjk (by rw [← h2, h, hek])
    rw [if_neg (by simp), hother _ hne]
    exact ⟨h1, h2⟩
  · intro b hb' hb0
    have hbe : b ≠ e := by rintro rfl; simp [hself] at hb0
    rw [hother b hbe] at hb0 ⊢
    exact H.head_slot b hb' hb0

/-- Deleting an index expansion entry. -/
lemma IndxInv.delete_expn (H : IndxInv g rules indx metaVal chain) (hg : g.Sizes) {k e : ℕ}
    (hz : ¬ (rules 0).live) (hk : k < g.total) (hl : (rules k).live) (he : (rules k).indxTblEntry = e) (hc : g.cell e)
    (hD : RulesAfterDelete g rules rules' k none e)
    (hindx : ∀ j, indx' j = if j = e then {}
      else if j = metaVal (e - g.tableEntries) then (indx j).linkTo (indx e).nextIndex else indx j)
    (hmeta : ∀ i, metaVal' i = if (indx e).nextIndex = 0 then metaVal i
      else if i = e - g.tableEntries then 0
      else if i = (indx e).nextIndex - g.tableEntries then metaVal (e - g.tableEntries)
      else metaVal i) :
    ∃ chain', IndxInv g rules' indx' metaVal' chain' := by
  obtain ⟨heN, hek⟩ := H.named k hk hl
  rw [he] at hek heN
  have hon : (indx e).tblEntry ≠ 0 := hek ▸ fun h => hz (h ▸ hl)
  obtain ⟨he0, heT⟩ := H.ne_reserved hon
  obtain ⟨hnext, hprev⟩ := H.links hg heN hon
  obtain ⟨hp1, hp2, hp3, hp4, hp5⟩ := hprev hc.1
  have hself : indx' e = {} := by rw [hindx, if_pos rfl]
  have hlast : indx' (metaVal (e - g.tableEntries))
      = (indx (metaVal (e - g.tableEntries))).linkTo (indx e).nextIndex := by
    rw [hindx, if_neg hp2, if_pos rfl]
  have hother : ∀ j, j ≠ e → j ≠ metaVal (e - g.tableEntries) → indx' j = indx j :=
    fun j h1 h2 => by rw [hindx, if_neg h1, if_neg h2]
  have hte : ∀ j, j ≠ e → (indx' j).tblEntry = (indx j).tblEntry := fun j hj => by
    by_cases hjp : j = metaVal (e - g.tableEntries)
    · rw [hjp, hlast]; rfl
    · rw [hother j hj hjp]
  have hnek : ∀ x < g.total, x ≠ e → (indx x).tblEntry ≠ 0 → (indx x).tblEntry ≠ k :=
    fun x hx hne h0 h => hne (by rw [← (H.names x hx h0).2.2, h, he])
  have hs := Config.srcOf_bounds hg (rules (indx e).tblEntry)
  refine ⟨_, delete_of hg hD (H.chained.remove Config.cell_not_head hc hon hs.2
    ⟨?_, ?_, ?_, ?_, ?_, ?_⟩) ?_ ?_ ?_ ?_ ?_ ?_⟩
  · simp only [indxStore, hlast, IpaNatIndxTblRule.linkTo_nextIndex]
  · intro h0
    simp only [indxStore] at h0 ⊢
    obtain ⟨hcn, hne, -, -⟩ := hnext h0
    have hcn1 : g.tableEntries ≤ (indx e).nextIndex := hcn.1
    have hc1 : g.tableEntries ≤ e := hc.1
    rw [hmeta, if_neg h0, if_neg (by omega), if_pos rfl]
  · intro y _
    by_cases hy : y = e
    · simp [indxStore, hy, hself]
    · simp only [indxStore, hte y hy, hy, ne_eq, not_false_eq_true, and_true]
  · rintro y - hyp hye
    simp only [indxStore] at hyp ⊢
    rw [hother y hye hyp]
  · rintro y hy - hyn hye
    have hy1 : g.tableEntries ≤ y := hy.1
    have hc1 : g.tableEntries ≤ e := hc.1
    simp only [indxStore] at hyn ⊢
    by_cases h0 : (indx e).nextIndex = 0
    · rw [hmeta, if_pos h0]
    · have hcn1 : g.tableEntries ≤ (indx e).nextIndex := (hnext h0).1.1
      rw [hmeta, if_neg h0, if_neg (by omega), if_neg (by omega)]
  · intro y hy hu hye
    simp only [indxStore] at hu ⊢
    rw [hte y hye]
    exact (hD.kept _ (hnek y hy.2 hye hu) (H.names y hy.2 hu).2.1).2.1
  · rw [hte 0 he0.symm]; exact H.off_zero
  · rw [hte _ heT.symm]; exact H.off_expn
  · intro x hx hx0
    by_cases hxe : x = e
    · rw [hxe, hself]
    · rw [hte x hxe] at hx0
      rw [hother x hxe fun h => hp3 (h ▸ hx0)]
      exact H.off x hx hx0
  · intro x hx hx0
    have hxe : x ≠ e := by rintro rfl; simp [hself] at hx0
    rw [hte x hxe] at hx0 ⊢
    obtain ⟨h1, h2, h3⟩ := H.names x hx hx0
    exact ⟨hnek x hx hxe hx0, h1, h2, h3⟩
  · intro j hj hjk hlj
    obtain ⟨h1, h2⟩ := H.named j hj hlj
    have hne : (rules j).indxTblEntry ≠ e := fun h => hjk (by rw [← h2, h, hek])
    rw [if_neg (by simp), hte _ hne]
    exact ⟨h1, h2⟩
  · intro b hb hb0
    have hbe : b ≠ e := fun h => Config.cell_not_head e hc (h ▸ hb)
    rw [hte b hbe] at hb0 ⊢
    exact H.head_slot b hb hb0

/-- Deleting an index head with entries behind it: the successor moves into the head, so it is the
successor's own entry that leaves the chain. -/
lemma IndxInv.delete_head (H : IndxInv g rules indx metaVal chain) (hg : g.Sizes) {k e n : ℕ}
    (hz : ¬ (rules 0).live) (hk : k < g.total) (hl : (rules k).live)
    (he : (rules k).indxTblEntry = e) (hb : g.head e) (hn : (indx e).nextIndex = n) (hn0 : n ≠ 0)
    (hD : RulesAfterDelete g rules rules' k (some (indx n).tblEntry) e)
    (hindx : ∀ j, indx' j = if j = n then {} else if j = e then indx n else indx j)
    (hmeta : ∀ i, metaVal' i = if (indx n).nextIndex ≠ 0 ∧ i = (indx n).nextIndex - g.tableEntries
      then e else metaVal i) :
    ∃ chain', IndxInv g rules' indx' metaVal' chain' := by
  obtain ⟨heN, hek⟩ := H.named k hk hl
  rw [he] at hek heN
  have hon : (indx e).tblEntry ≠ 0 := hek ▸ fun h => hz (h ▸ hl)
  obtain ⟨he0, -⟩ := H.ne_reserved hon
  obtain ⟨hc, hne, hnon, hnsrc⟩ := hn ▸ (H.links hg heN hon).1 (hn ▸ hn0)
  have hc1 : g.tableEntries ≤ n := hc.1
  obtain ⟨-, hnT⟩ := H.ne_reserved hnon
  obtain ⟨hnnext, -⟩ := H.links hg hc.2 hnon
  -- the head is what the successor names as its predecessor
  have hslot : g.srcOf (rules (indx n).tblEntry) = e := hnsrc.trans (H.head_slot e hb hon)
  have hprev : metaVal (n - g.tableEntries) = e := by
    have hl := H.chained.linked e hb
    cases hch : chain e with
    | nil => rw [hch] at hl; exact absurd (hn.symm.trans hl) hn0
    | cons z l =>
        rw [hch] at hl
        obtain rfl : n = z := hn.symm.trans hl.1
        exact hl.2.1
  have hself : indx' n = {} := by rw [hindx, if_pos rfl]
  have hhead : indx' e = indx n := by rw [hindx, if_neg hne.symm, if_pos rfl]
  have hother : ∀ j, j ≠ n → j ≠ e → indx' j = indx j := fun j h1 h2 => by
    rw [hindx, if_neg h1, if_neg h2]
  have hcell : ∀ y, g.cell y → y ≠ n → indx' y = indx y := fun y hy hyn =>
    hother y hyn fun h => Config.cell_not_head y hy (h ▸ hb)
  have hnek : ∀ x < g.total, x ≠ e → (indx x).tblEntry ≠ 0 → (indx x).tblEntry ≠ k :=
    fun x hx hne h0 h => hne (by rw [← (H.names x hx h0).2.2, h, he])
  have hnen : ∀ x < g.total, x ≠ n → (indx x).tblEntry ≠ 0 →
      (indx x).tblEntry ≠ (indx n).tblEntry := fun x hx hne h0 h =>
    hne (by rw [← (H.names x hx h0).2.2, h, (H.names n hc.2 hnon).2.2])
  have hs := Config.srcOf_bounds hg (rules (indx n).tblEntry)
  refine ⟨_, delete_of hg hD (H.chained.remove Config.cell_not_head hc hnon hs.2
    ⟨?_, ?_, ?_, ?_, ?_, ?_⟩) ?_ ?_ ?_ ?_ ?_ ?_⟩
  · simp only [indxStore, hprev, hhead]
  · intro h0
    simp only [indxStore] at h0 ⊢
    rw [hmeta, if_pos ⟨h0, rfl⟩, hprev]
  · intro y hy
    by_cases hyn : y = n
    · simp [indxStore, hyn, hself]
    · simp only [indxStore, hcell y hy hyn, hyn, ne_eq, not_false_eq_true, and_true]
  · rintro y - hyp hyn
    simp only [indxStore, hprev] at hyp ⊢
    rw [hother y hyn hyp]
  · rintro y hy - hyn -
    have hy1 : g.tableEntries ≤ y := hy.1
    simp only [indxStore] at hyn ⊢
    by_cases h0 : (indx n).nextIndex = 0
    · rw [hmeta, if_neg fun h => h.1 h0]
    · have h1 : g.tableEntries ≤ (indx n).nextIndex := (hnnext h0).1.1
      rw [hmeta, if_neg]
      rintro ⟨-, h⟩
      omega
  · intro y hy hu hyn
    simp only [indxStore] at hu ⊢
    rw [hcell y hy hyn]
    have hye : y ≠ e := fun h => Config.cell_not_head y hy (h ▸ hb)
    exact (hD.kept _ (hnek y hy.2 hye hu) (H.names y hy.2 hu).2.1).2.1
  · rw [hother 0 (by omega) he0.symm]; exact H.off_zero
  · rw [hother _ hnT.symm (Nat.ne_of_gt hb)]; exact H.off_expn
  · intro x hx hx0
    by_cases hxn : x = n
    · rw [hxn, hself]
    · by_cases hxe : x = e
      · rw [hxe, hhead] at hx0
        exact absurd hx0 hnon
      · rw [hother x hxn hxe] at hx0 ⊢
        exact H.off x hx hx0
  · intro x hx hx0
    have hxn : x ≠ n := by rintro rfl; simp [hself] at hx0
    by_cases hxe : x = e
    · rw [hxe, hhead] at hx0 ⊢
      obtain ⟨h1, h2, -⟩ := H.names n hc.2 hnon
      exact ⟨hnek n hc.2 hne hnon, h1, h2, if_pos rfl⟩
    · rw [hother x hxn hxe] at hx0 ⊢
      obtain ⟨h1, h2, h3⟩ := H.names x hx hx0
      refine ⟨hnek x hx hxe hx0, h1, h2, ?_⟩
      rw [if_neg fun h => hnen x hx hxn hx0 (Option.some.inj h).symm]
      exact h3
  · intro j hj hjk hlj
    by_cases hjm : some (indx n).tblEntry = some j
    · rw [if_pos hjm, hhead]
      exact ⟨heN, Option.some.inj hjm⟩
    · obtain ⟨h1, h2⟩ := H.named j hj hlj
      rw [if_neg hjm, hother _ (fun h => hjm (by rw [← h2, h])) fun h => hjk (by rw [← h2, h, hek])]
      exact ⟨h1, h2⟩
  · intro b hb' hb0
    by_cases hbe : b = e
    · rw [hbe, hhead]
      exact hslot
    · have hbn : b ≠ n := fun h => Config.cell_not_head n hc (h ▸ hb')
      rw [hother b hbn hbe] at hb0 ⊢
      exact H.head_slot b hb' hb0

/-- **Deleting the index entry of a live rule.** -/
lemma IndxInv.delete (H : IndxInv g rules indx metaVal chain) (hg : g.Sizes) {k e : ℕ}
    (hz : ¬ (rules 0).live) (hk : k < g.total) (hl : (rules k).live)
    (he : (rules k).indxTblEntry = e)
    (hD : RulesAfterDelete g rules rules' k (movedRule g.tableEntries indx e) e)
    (hindx : ∀ j, indx' j = delIndx g.tableEntries indx metaVal e j)
    (hmeta : ∀ i, metaVal' i = delMeta g.tableEntries indx metaVal e i) :
    ∃ chain', IndxInv g rules' indx' metaVal' chain' := by
  obtain ⟨heN, -⟩ := he ▸ H.named k hk hl
  by_cases hT : e < g.tableEntries
  · by_cases h0 : (indx e).nextIndex = 0
    · rw [movedRule, if_neg fun h => h.2 h0] at hD
      have hm : metaVal' = metaVal := funext fun i => by
        rw [hmeta, delMeta, if_pos hT, if_neg fun h => h.1 h0]
      refine ⟨chain, hm ▸ H.delete_onlyOne hg hz hk hl he hT h0 hD fun j => ?_⟩
      rw [hindx, delIndx, if_pos hT, if_pos h0]
    · rw [movedRule, if_pos ⟨hT, h0⟩] at hD
      refine H.delete_head hg hz hk hl he hT rfl h0 hD (fun j => ?_) fun i => ?_
      · rw [hindx, delIndx, if_pos hT, if_neg h0]
      · rw [hmeta, delMeta, if_pos hT]
        simp only [h0, ne_eq, not_false_eq_true, true_and]
  · rw [movedRule, if_neg fun h => hT h.1] at hD
    refine H.delete_expn hg hz hk hl he ⟨by omega, heN⟩ hD (fun j => ?_) fun i => ?_
    · rw [hindx, delIndx, if_neg hT]
    · rw [hmeta, delMeta, if_neg hT]

end Lemmas

end IpaNat
