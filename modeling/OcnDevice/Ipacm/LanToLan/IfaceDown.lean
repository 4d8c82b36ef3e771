import OcnDevice.Ipacm.LanToLan.Links

/-!
# An interface goes down

`handle_down_event` walks over the peers of its interface and takes back both sides of every link, while
its own list of peers stays as it was until the loop is over.  `needRest k a l` is what is there when the
peers of `l` are still to come; the counters of the interface say how many of them have each type
(`Leaving`).  When nothing is left the interface has no rules but those within itself, and goes.
-/

namespace Ipacm

namespace Skeleton

variable (lan : ℕ → LanProps) (k : Skeleton)

/-- What the topology needs while the interface at `a` has only the peers of `l`. -/
def needRest (a : ℕ) (l : List ℕ) : Cells :=
  { k.need lan with
    flt := fun x p c ip => (k.need lan).flt x p c ip ∧ (x = a → p ∈ l)
    rt := fun x c t => c ∈ (k.node x).clientInfo ∧
      ∃ b ∈ if x = a then l else k.peers x, k.l2 lan b = t
    ctx := fun x t => ∃ b ∈ if x = a then l else k.peers x, k.l2 lan b = t }

/-- One peer less of an L2 type is counted. -/
def decRef (x : ℕ) (t : IpaHdrL2Type) : Skeleton :=
  k.modNode x fun n =>
    { n with refCntPeerL2HdrType :=
        Function.update n.refCntPeerL2HdrType t (n.refCntPeerL2HdrType t + -1) }

/-- The link between the interface at `a`, which goes down, and the one at `b` is taken back. -/
def unlink (a b : ℕ) : Skeleton :=
  ((k.decRef a (k.l2 lan b)).decRef b (k.l2 lan a)).modNode b fun n =>
    { n with peerIfaceInfo := n.peerIfaceInfo.eraseP fun q => q.peer = a }

variable {lan k} {k' : Skeleton} {a b c x : ℕ} {t t' : IpaHdrL2Type} {l : List ℕ}

lemma decRef_same : k.SameButPeers (k.decRef x t) := by
  refine ⟨rfl, rfl, rfl, rfl, fun b => ?_⟩
  rcases eq_or_ne b x with rfl | hb
  · rw [decRef, modNode_self]
  · rw [decRef, modNode_ne hb]

lemma decRef_peers : (k.decRef x t).peers b = k.peers b := by
  rw [peers, peers]
  rcases eq_or_ne b x with rfl | hb
  · rw [decRef, modNode_self]
  · rw [decRef, modNode_ne hb]

lemma decRef_ref : ((k.decRef x t).node b).refCntPeerL2HdrType t' =
    (k.node b).refCntPeerL2HdrType t' - if b = x ∧ t' = t then 1 else 0 := by
  rcases eq_or_ne b x with rfl | hb
  · rw [decRef, modNode_self]
    show Function.update _ t _ t' = _
    rcases eq_or_ne t' t with rfl | ht
    · simp [sub_eq_add_neg]
    · simp [ht]
  · rw [decRef, modNode_ne hb]
    simp [hb]

lemma unlink_same : k.SameButPeers (k.unlink lan a b) := by
  refine (decRef_same (t := k.l2 lan b) (x := a)).trans
    ((decRef_same (t := k.l2 lan a) (x := b)).trans ⟨rfl, rfl, rfl, rfl, fun d => ?_⟩)
  rcases eq_or_ne d b with rfl | hd
  · rw [unlink, modNode_self]
  · rw [unlink, modNode_ne hd]

lemma unlink_peers_self : (k.unlink lan a b).peers b = (k.peers b).erase a := by
  have hpeers : (k.unlink lan a b).peers b =
      (((k.decRef a (k.l2 lan b)).decRef b (k.l2 lan a)).peers b).erase a := by
    rw [unlink, peers, modNode_self, List.erase_eq_eraseP, peers, List.eraseP_map]
    have hkey : ((fun d => a == d) ∘ fun q : PeerIfaceInfo => q.peer) =
        fun q => decide (q.peer = a) := by
      funext q
      show (a == q.peer) = decide (q.peer = a)
      rw [Bool.eq_iff_iff, beq_iff_eq, decide_eq_true_eq, eq_comm]
    rw [hkey]
  rw [hpeers, decRef_peers, decRef_peers]

lemma unlink_peers_ne (hx : x ≠ b) : (k.unlink lan a b).peers x = k.peers x := by
  have hpeers : (k.unlink lan a b).peers x =
      ((k.decRef a (k.l2 lan b)).decRef b (k.l2 lan a)).peers x := by
    rw [unlink, peers, modNode_ne hx]
    rfl
  rw [hpeers, decRef_peers, decRef_peers]

lemma mem_unlink {q : PeerIfaceInfo} (hq : q ∈ ((k.unlink lan a b).node x).peerIfaceInfo) :
    q ∈ (k.node x).peerIfaceInfo := by
  have hmem : q ∈ (((k.decRef a (k.l2 lan b)).decRef b (k.l2 lan a)).node x).peerIfaceInfo := by
    rcases eq_or_ne x b with rfl | hx
    · rw [unlink, modNode_self] at hq
      exact List.mem_of_mem_eraseP hq
    · rwa [unlink, modNode_ne hx] at hq
  have hinfo : ∀ (k : Skeleton) (y : ℕ) (t : IpaHdrL2Type),
      ((k.decRef y t).node x).peerIfaceInfo = (k.node x).peerIfaceInfo := by
    intro k y t
    rcases eq_or_ne x y with rfl | hx
    · rw [decRef, modNode_self]
    · rw [decRef, modNode_ne hx]
  rwa [hinfo, hinfo] at hmem

lemma unlink_ref : ((k.unlink lan a b).node x).refCntPeerL2HdrType t =
    (k.node x).refCntPeerL2HdrType t - (if x = a ∧ t = k.l2 lan b then 1 else 0) -
      if x = b ∧ t = k.l2 lan a then 1 else 0 := by
  have href : ((k.unlink lan a b).node x).refCntPeerL2HdrType t =
      (((k.decRef a (k.l2 lan b)).decRef b (k.l2 lan a)).node x).refCntPeerL2HdrType t := by
    rcases eq_or_ne x b with rfl | hx
    · rw [unlink, modNode_self]
    · rw [unlink, modNode_ne hx]
  rw [href, decRef_ref, decRef_ref]

end Skeleton

namespace LanToLan

variable {lan : ℕ → LanProps} {s t : LanToLan} {a b c p x : ℕ} {F : Cells}

/-- The peers in `l` are still to come: the counters of the interface at `a` say how many have each
type, and those of the others count their peers. -/
structure Leaving (lan : ℕ → LanProps) (k : Skeleton) (a : ℕ) (l : List ℕ) : Prop where
  self : ∀ t, (k.node a).refCntPeerL2HdrType t = l.countP fun b => k.l2 lan b = t
  others : ∀ x ∈ k.iface, x ≠ a → ∀ t,
    (k.node x).refCntPeerL2HdrType t = (k.peers x).countP fun b => k.l2 lan b = t

lemma countP_pos_iff {k : Skeleton} {l : List ℕ} {t : IpaHdrL2Type} :
    ((l.countP fun b => k.l2 lan b = t : ℕ) : ℤ) ≠ 0 ↔ ∃ b ∈ l, k.l2 lan b = t := by
  rw [Nat.cast_ne_zero, ← Nat.pos_iff_ne_zero, List.countP_pos_iff]
  simp

/-- A link less is counted on both sides. -/
lemma Leaving.unlink {k : Skeleton} {l : List ℕ} (L : Leaving lan k a (b :: l)) (hba : b ≠ a)
    (hmem : a ∈ k.peers b) : Leaving lan (k.unlink lan a b) a l where
  self t := by
    simp only [Skeleton.unlink_same.l2]
    rw [Skeleton.unlink_ref, L.self, List.countP_cons]
    rcases eq_or_ne t (k.l2 lan b) with rfl | ht
    · simp [hba.symm]
    · simp [ht, ht.symm, hba.symm]
  others x hx hxa t := by
    simp only [Skeleton.unlink_same.l2]
    rw [Skeleton.unlink_ref, L.others x hx hxa]
    rcases eq_or_ne x b with rfl | hxb
    · rw [Skeleton.unlink_peers_self, (List.perm_cons_erase hmem).countP_eq, List.countP_cons]
      rcases eq_or_ne t (k.l2 lan a) with rfl | ht
      · simp [hxa]
      · simp [ht, ht.symm, hxa]
    · rw [Skeleton.unlink_peers_ne hxb]
      simp [hxa, hxb]

/-- The counters change on one interface. -/
lemma Filled.addRefCnt (H : Filled lan F s) (t : IpaHdrL2Type) (k : ℤ) :
    Filled lan F (s.addRefCnt a t k) :=
  H.frame rfl fun b _ => by
    rcases eq_or_ne b a with rfl | hb
    · rw [LanToLan.addRefCnt, modNode_self]
    · rw [LanToLan.addRefCnt, modNode_ne _ hb]

/-- **All filter rules for a peer are deleted.** -/
lemma Filled.clearPeer (H : Filled lan F s) (ha : a ∈ s.iface) (hp : p ∈ s.skel.peers a)
    (hflt : ∀ c ip, F.flt a p c ip → (s.node a).isIpAddrAssigned ip = true)
    (hall : ∀ c, (∃ ip, F.flt a p c ip) →
      ∀ ip, (s.node a).isIpAddrAssigned ip = true → F.flt a p c ip) :
    Filled lan (F.setFlt a p fun _ _ => False)
        (s.onPeer a p (clearAllFltRuleForOnePeerIface (s.node a).isIpAddrAssigned)) ∧
      (s.onPeer a p (clearAllFltRuleForOnePeerIface (s.node a).isIpAddrAssigned)).skel =
        s.skel := by
  obtain ⟨q, hq, rfl⟩ := exists_peer hp
  exact H.onPeer ha hq fun G hG => PeerIfaceInfo.clear_turns hG (H.flt a ha q hq)
    fun c hc ip => ⟨hflt c ip, hall c hc ip⟩

/-- **One pass of `handle_down_event`** over the peers. -/
lemma downPass_filled {l : List ℕ} (L : Leaving lan s.skel a (b :: l))
    (H : Filled lan (s.skel.needRest lan a (b :: l)) s) (ha : a ∈ s.iface) (hb : b ∈ s.iface)
    (hba : b ≠ a) (hbl : b ∉ l) (hab : a ∈ s.skel.peers b) (hbPeer : b ∈ s.skel.peers a)
    {q : PeerIfaceInfo} (hq : q.peer = b) :
    (downPass lan a q s).skel = s.skel.unlink lan a b ∧
      Filled lan ((downPass lan a q s).skel.needRest lan a l) (downPass lan a q s) := by
  subst hq
  set b := q.peer with hb'
  set F := s.skel.needRest lan a (b :: l) with hF
  -- the counters
  set s₁ := s.addRefCnt a (s.l2 lan b) (-1) with hs₁
  set s₂ := s₁.addRefCnt b (s.l2 lan a) (-1) with hs₂
  have hskel₂ : s₂.skel = (s.skel.decRef a (s.skel.l2 lan b)).decRef b (s.skel.l2 lan a) := by
    have h₁ : s₁.skel = s.skel.decRef a (s.skel.l2 lan b) := skel_modNode fun _ => rfl
    have h₂ : s₂.skel = s₁.skel.decRef b (s.skel.l2 lan a) := skel_modNode fun _ => rfl
    rw [h₂, h₁]
  have hsame₂ : s.skel.SameButPeers s₂.skel :=
    hskel₂ ▸ Skeleton.decRef_same.trans Skeleton.decRef_same
  have hpeers₂ : ∀ d, s₂.skel.peers d = s.skel.peers d := fun d => by
    rw [hskel₂, Skeleton.decRef_peers, Skeleton.decRef_peers]
  have hl2₂ : ∀ d, s₂.l2 lan d = s.l2 lan d := fun d => hsame₂.l2 d
  have hass₂ : ∀ d, (s₂.node d).isIpAddrAssigned = (s.node d).isIpAddrAssigned := hsame₂.assigned
  have href₂ : ∀ d t, (s₂.node d).refCntPeerL2HdrType t =
      ((s.skel.unlink lan a b).node d).refCntPeerL2HdrType t := by
    intro d t
    show (s₂.skel.node d).refCntPeerL2HdrType t = _
    rw [hskel₂, Skeleton.decRef_ref, Skeleton.decRef_ref, Skeleton.unlink_ref]
  have L' : Leaving lan (s.skel.unlink lan a b) a l := L.unlink hba hab
  have hsameu : s.skel.SameButPeers (s.skel.unlink lan a b) := Skeleton.unlink_same
  have hzb : (s₂.node b).refCntPeerL2HdrType (s.l2 lan a) = 0 ↔
      ¬ ∃ d ∈ (s.skel.peers b).erase a, s.skel.l2 lan d = s.l2 lan a := by
    rw [href₂, L'.others b (hsameu.iface ▸ hb) hba, ← not_iff_not, not_not, ← ne_eq,
      countP_pos_iff, Skeleton.unlink_peers_self]
    simp only [hsameu.l2]
  have hza : (s₂.node a).refCntPeerL2HdrType (s.l2 lan b) = 0 ↔
      ¬ ∃ d ∈ l, s.skel.l2 lan d = s.l2 lan b := by
    rw [href₂, L'.self, ← not_iff_not, not_not, ← ne_eq, countP_pos_iff]
    simp only [hsameu.l2]
  have H₂ : Filled lan F s₂ := (H.addRefCnt _ _).addRefCnt _ _
  -- the filter rules of both sides
  obtain ⟨H₃, hskel₃⟩ := H₂.clearPeer (p := b) ha (by rw [hpeers₂]; exact hbPeer)
    (fun c ip h => by rw [hass₂]; exact h.1.2)
    fun c hc ip h => by
      obtain ⟨ip', hc⟩ := hc
      exact ⟨⟨hc.1.1, by rw [hass₂] at h; exact h⟩, hc.2⟩
  set s₃ := s₂.onPeer a b (clearAllFltRuleForOnePeerIface (s₂.node a).isIpAddrAssigned) with hs₃
  obtain ⟨own, hown, howna⟩ : ∃ own, ((s₃.node b).peerIfaceInfo.find? fun q => q.peer = a) =
      some own ∧ own.peer = a := by
    have hmem : a ∈ s₃.skel.peers b := by
      rw [hskel₃, hpeers₂]
      exact hab
    obtain ⟨r, hr, hra⟩ := exists_peer hmem
    obtain ⟨own, hown⟩ := Option.isSome_iff_exists.mp
      
      (List.find?_isSome (p := fun q => decide (q.peer = a)) |>.mpr ⟨r, hr, decide_eq_true hra⟩)
    exact ⟨own, hown, by simpa using List.find?_some hown⟩
  obtain ⟨H₄, hskel₄⟩ := H₃.clearPeer (a := b) (p := a) (skel_iface hskel₃ ▸ hb)
    (by rw [hskel₃, hpeers₂]; exact hab)
    (fun c ip h => by
      rw [Cells.setFlt_iff] at h
      rw [skel_assigned hskel₃, hass₂]
      exact (h.resolve_left fun h => hba h.1).2.1.2)
    fun c hc ip h => by
      obtain ⟨ip', hc⟩ := hc
      rw [Cells.setFlt_iff] at hc ⊢
      rw [skel_assigned hskel₃, hass₂] at h
      have hc := (hc.resolve_left fun h => hba h.1).2
      exact Or.inr ⟨fun h => hba h.1, ⟨hc.1.1, h⟩, hc.2⟩
  set s₄ := s₃.onPeer b a (clearAllFltRuleForOnePeerIface (s₃.node b).isIpAddrAssigned) with hs₄
  have hk₄ : s₄.skel = s₂.skel := hskel₄.trans hskel₃
  have hl2₄ : ∀ d, s₄.l2 lan d = s.l2 lan d := fun d => by rw [skel_l2 hk₄, hl2₂]
  -- the routing rules of the other side, its list and its context
  obtain ⟨H₅, hskel₅⟩ := H₄.clearAllRt (skel_iface hk₄ ▸ hb) (q := own) (howna ▸ hba.symm)
  rw [howna, hl2₄, skel_ref hk₄, hzb] at H₅
  set s₅ := s₄.clearAllRtRuleForOnePeerIface lan b own with hs₅
  have hk₅ : s₅.skel = s₂.skel := hskel₅.trans hk₄
  set s₆ := s₅.modNode b fun n =>
    { n with peerIfaceInfo := n.peerIfaceInfo.eraseP fun q => q.peer = a } with hs₆
  have hskel₆ : s₆.skel = s.skel.unlink lan a b := by
    have h : s₆.skel = s₅.skel.modNode b fun n =>
        { n with peerIfaceInfo := n.peerIfaceInfo.eraseP fun q => q.peer = a } := by
      refine skel_modNode fun n => ?_
      simp only [LanToLanIface.bare, List.eraseP_map]
      rfl
    rw [h, hk₅, hskel₂]
    rfl
  have H₆ := H₅.erasePeer (a := b) (p := a) (skel_iface hk₅ ▸ hb) fun c ip h => by
    rw [Cells.setAllRt_flt, Cells.setFlt_iff] at h
    exact h.elim (fun h => h.2.2) fun h => h.1 ⟨rfl, rfl⟩
  rw [← hs₆] at H₆
  have hsame₆ : s.skel.SameButPeers s₆.skel := hskel₆ ▸ Skeleton.unlink_same
  have hl2₆ : ∀ d, s₆.l2 lan d = s.l2 lan d := fun d => hsame₆.l2 d
  have ha₆ : a ∈ s₆.iface := by
    have hiface : s₆.iface = s.iface := hsame₆.iface
    rw [hiface]
    exact ha
  have hb₆ : b ∈ s₆.iface := by
    have hiface : s₆.iface = s.iface := hsame₆.iface
    rw [hiface]
    exact hb
  have href₆ : ∀ d, (s₆.node d).refCntPeerL2HdrType = (s₂.node d).refCntPeerL2HdrType := by
    intro d
    funext t
    rw [href₂, ← hskel₆]
    rfl
  obtain ⟨H₇, hskel₇⟩ := H₆.delHdrProcCtx (t := s.l2 lan a) hb₆ (by
    refine ⟨a, ?_, rfl⟩
    rw [if_neg hba]
    exact hab)
  rw [href₆, ne_eq, hzb] at H₇
  set s₇ := s₆.delHdrProcCtx b (s.l2 lan a) with hs₇
  -- the routing rules of this side and its context
  obtain ⟨H₈, hskel₈⟩ := H₇.clearAllRt (skel_iface hskel₇ ▸ ha₆) (q := q) hba
  rw [← hb', skel_l2 hskel₇, hl2₆, skel_ref hskel₇, href₆, hza] at H₈
  set s₈ := s₇.clearAllRtRuleForOnePeerIface lan a q with hs₈
  have hk₈ : s₈.skel = s₆.skel := hskel₈.trans hskel₇
  have hl2₈ : ∀ d, s₈.l2 lan d = s.l2 lan d := fun d => by rw [skel_l2 hk₈, hl2₆]
  obtain ⟨H₉, hskel₉⟩ := H₈.delHdrProcCtx (t := s.l2 lan b) (skel_iface hk₈ ▸ ha₆) (by
    rw [Cells.setAllRt_ctx, Cells.setCtx_iff]
    refine Or.inr ⟨hba.symm, b, ?_, rfl⟩
    rw [if_pos rfl]
    exact List.mem_cons_self)
  rw [skel_ref hk₈, href₆, ne_eq, hza] at H₉
  set s₉ := s₈.delHdrProcCtx a (s.l2 lan b) with hs₉
  have hrun : downPass lan a q s = s₉ := by
    rw [downPass]
    simp only [← hb', ← hs₁, ← hs₂, ← hs₃, hown, ← hs₄, ← hs₅, ← hs₆, ← hs₇, ← hs₈, hl2₈, ← hs₉]
  have hnd : (s.skel.peers b).Nodup := by
    rw [peers_eq]
    exact H.peers b hb
  have hself : ∀ d, s.skel.l2 lan d = s.l2 lan d := fun _ => rfl
  -- the peers of the other side are this one and those that stay
  have hsplit : ∀ t, (∃ d ∈ s.skel.peers b, s.skel.l2 lan d = t) ↔
      s.skel.l2 lan a = t ∨ ∃ d ∈ (s.skel.peers b).erase a, s.skel.l2 lan d = t := by
    intro t
    simp only [(List.perm_cons_erase hab).mem_iff, List.mem_cons, exists_eq_or_imp]
  have hskel : s₉.skel = s.skel.unlink lan a b := by rw [hskel₉, hk₈, hskel₆]
  rw [hrun]
  refine ⟨hskel, H₉.congr ?_⟩
  rw [hskel]
  refine ⟨fun x _ p hp c ip => ?_, fun x _ c ip => ?_, fun x _ c hc t => ?_, fun x _ c _ => ?_,
    fun x _ t => ?_, fun x _ => ?_⟩
  · have hp' : p ∈ (s.skel.unlink lan a b).peers x := by
      rw [← hskel, peers_eq]
      exact hp
    simp only [Cells.setCtx_flt, Cells.setAllRt_flt]
    rw [Cells.setFlt_iff, Cells.setFlt_iff]
    simp only [hF, Skeleton.needRest, Skeleton.need, hsameu.clientInfo, hsameu.assigned,
      List.mem_cons]
    by_cases hxb : x = b ∧ p = a
    · -- the other side has forgotten this one
      obtain ⟨rfl, rfl⟩ := hxb
      rw [Skeleton.unlink_peers_self] at hp'
      exact absurd hp' hnd.not_mem_erase
    · grind
  · simp only [Cells.setCtx_fltIntra, Cells.setAllRt_fltIntra, Cells.setFlt_fltIntra]
    simp only [hF, Skeleton.needRest, Skeleton.need, hsameu.clientInfo, hsameu.assigned,
      hsameu.intra]
  · simp only [Cells.setCtx_rt]
    rw [Cells.setAllRt_iff]
    simp only [Cells.setCtx_rt]
    rw [Cells.setAllRt_iff, Cells.setAllRt_iff]
    simp only [Cells.setFlt_rt, hF, Skeleton.needRest, hsameu.clientInfo, hsameu.l2]
    have hc : c ∈ (s.skel.node x).clientInfo := by
      rw [← hsameu.clientInfo x, ← hskel]
      exact hc
    rcases eq_or_ne x a with rfl | hxa
    · simp only [if_true, hba.symm, List.mem_cons, exists_eq_or_imp, hself]
      grind
    · rcases eq_or_ne x b with hxb | hxb
      · rw [if_neg hxa, if_neg hxa, hxb, Skeleton.unlink_peers_self, hsplit]
        grind
      · rw [if_neg hxa, if_neg hxa, Skeleton.unlink_peers_ne hxb]
        grind
  · simp only [Cells.setCtx_rtIntra]
    rw [Cells.setAllRt_intra_iff]
    simp only [Cells.setCtx_rtIntra]
    rw [Cells.setAllRt_intra_iff, Cells.setAllRt_intra_iff]
    simp only [Cells.setFlt_rtIntra, hF, Skeleton.needRest, Skeleton.need, hsameu.clientInfo,
      hsameu.intra]
    grind
  · rw [Cells.setCtx_iff]
    simp only [Cells.setAllRt_ctx]
    rw [Cells.setCtx_iff, Cells.setCtx_iff]
    simp only [Cells.setAllRt_ctx, Cells.setFlt_ctx, hF, Skeleton.needRest, hsameu.l2]
    rcases eq_or_ne x a with rfl | hxa
    · simp only [if_true, hba.symm, List.mem_cons, exists_eq_or_imp, hself]
      grind
    · rcases eq_or_ne x b with hxb | hxb
      · rw [if_neg hxa, if_neg hxa, hxb, Skeleton.unlink_peers_self, hsplit]
        grind
      · rw [if_neg hxa, if_neg hxa, Skeleton.unlink_peers_ne hxb]
        grind
  · rw [Cells.setCtx_intra_iff]
    simp only [Cells.setAllRt_ctxIntra]
    rw [Cells.setCtx_intra_iff, Cells.setCtx_intra_iff]
    simp only [Cells.setAllRt_ctxIntra, Cells.setFlt_ctxIntra, hF, Skeleton.needRest,
      Skeleton.need, hsameu.intra]
    grind

/-- What is left when the links of the interface at `a` with the peers of `done` are taken back. -/
structure Unlinked (k k' : Skeleton) (a : ℕ) (done : List ℕ) : Prop where
  same : k.SameButPeers k'
  peers_self : k'.peers a = k.peers a
  peers_ne : ∀ x ∈ k.iface, x ≠ a → ∀ b, b ∈ k'.peers x ↔
    b ∈ k.peers x ∧ ¬ (b = a ∧ x ∈ done)
  infos : ∀ x, ∀ q ∈ (k'.node x).peerIfaceInfo, q ∈ (k.node x).peerIfaceInfo

/-- **The loop of `handle_down_event`** over the peers. -/
lemma Ok.down_loop (H : s.Ok lan) (ha : a ∈ s.iface) {u : LanToLan}
    (hu : (s.node a).peerIfaceInfo.foldl (fun s q => downPass lan a q s) s = u) :
    Unlinked s.skel u.skel a (s.skel.peers a) ∧ Leaving lan u.skel a [] ∧
      Filled lan (u.skel.needRest lan a []) u := by
  have hloop := foldl_invariant (l := (s.node a).peerIfaceInfo)
    (f := fun s q => downPass lan a q s) (s := s)
    (P := fun done u => ∀ rest, (s.node a).peerIfaceInfo = done ++ rest →
      Unlinked s.skel u.skel a (done.map (·.peer)) ∧ Leaving lan u.skel a (rest.map (·.peer)) ∧
        Filled lan (u.skel.needRest lan a (rest.map (·.peer))) u) ?_ ?_
  · obtain ⟨U, L, Hu⟩ := hloop [] (by simp)
    rw [hu] at U L Hu
    rw [peers_eq]
    exact ⟨U, L, Hu⟩
  · intro rest hrest
    rw [List.nil_append] at hrest
    have hpeers : rest.map (·.peer) = s.skel.peers a := by rw [peers_eq, hrest]
    rw [hpeers]
    refine ⟨⟨.rfl', rfl, by simp, fun _ _ h => h⟩, ⟨H.topo.ref a ha, fun x hx _ =>
      H.topo.ref x hx⟩, H.filled.congr ⟨fun x _ p hp c ip => ?_, fun _ _ _ _ => Iff.rfl,
        fun x _ c _ t => ?_, fun _ _ _ _ => Iff.rfl, fun x _ t => ?_, fun _ _ => Iff.rfl⟩⟩
    · rw [← peers_eq] at hp
      refine ⟨fun h => ⟨h, ?_⟩, And.left⟩
      rintro rfl
      exact hp
    · simp only [Skeleton.needRest, Skeleton.need]
      split_ifs with hx
      · rw [hx]
      · rfl
    · simp only [Skeleton.needRest, Skeleton.need]
      split_ifs with hx
      · rw [hx]
      · rfl
  · rintro done q rest u hl hP rest' hrest
    obtain rfl : rest = rest' := by
      rw [hl, List.append_assoc] at hrest
      exact List.cons_injective (List.append_cancel_left hrest)
    obtain ⟨U, L, Hu⟩ := hP (q :: rest) hl
    have hiface : u.iface = s.iface := U.same.iface
    have hq : q ∈ (s.node a).peerIfaceInfo := by rw [hl]; simp
    obtain ⟨hb, hba, hia, hib⟩ := (H.topo.peers a ha q.peer).mp (mem_peers hq)
    have hnd := H.filled.peers a ha
    rw [hl, List.map_append, List.map_cons, List.nodup_middle, List.nodup_cons,
      List.mem_append, not_or] at hnd
    rw [List.map_cons] at L Hu
    obtain ⟨hskel, H'⟩ := downPass_filled L Hu (hiface ▸ ha) (hiface ▸ hb) hba hnd.1.2
      ((U.peers_ne _ hb hba a).mpr ⟨(H.topo.peers _ hb a).mpr ⟨ha, hba.symm, hib, hia⟩,
        fun h => hnd.1.1 h.2⟩) (U.peers_self ▸ mem_peers hq) (q := q) rfl
    rw [hskel] at H' ⊢
    refine ⟨⟨U.same.trans Skeleton.unlink_same, ?_, fun x hx hxa b => ?_, fun x r hr =>
      U.infos x r (Skeleton.mem_unlink hr)⟩, L.unlink hba ?_, H'⟩
    · rw [Skeleton.unlink_peers_ne hba.symm, U.peers_self]
    · rw [List.map_append, List.mem_append, List.map_singleton, List.mem_singleton]
      rcases eq_or_ne x q.peer with rfl | hxq
      · have hndu : (u.skel.peers q.peer).Nodup := by
          rw [peers_eq]
          exact Hu.peers _ (hiface ▸ hb)
        rw [Skeleton.unlink_peers_self, hndu.mem_erase_iff, U.peers_ne _ hx hxa]
        tauto
      · rw [Skeleton.unlink_peers_ne hxq, U.peers_ne x hx hxa]
        tauto
    · exact (U.peers_ne _ hb hba a).mpr ⟨(H.topo.peers _ hb a).mpr ⟨ha, hba.symm, hib, hia⟩,
        fun h => hnd.1.1 h.2⟩

/-- **The links are taken back**, if the interface supports any. -/
lemma Ok.clearLinks (H : s.Ok lan) (ha : a ∈ s.iface) : ∃ u, (if (s.node a).supportInterIfaceOffload
      then ((s.node a).peerIfaceInfo.foldl (fun s peer => downPass lan a peer s) s).modNode a
        fun n => { n with peerIfaceInfo := [] }
      else s) = u ∧
    s.skel.SameButPeers u.skel ∧ u.skel.peers a = [] ∧ Leaving lan u.skel a [] ∧
    (∀ x ∈ s.iface, x ≠ a → ∀ b, b ∈ u.skel.peers x ↔ b ∈ s.skel.peers x ∧ b ≠ a) ∧
    (∀ x, ∀ q ∈ (u.skel.node x).peerIfaceInfo, q ∈ (s.skel.node x).peerIfaceInfo) ∧
    Filled lan (u.skel.needRest lan a []) u := by
  split_ifs with hinter
  · obtain ⟨U, L, Hu⟩ := H.down_loop ha rfl
    set u := (s.node a).peerIfaceInfo.foldl (fun s peer => downPass lan a peer s) s with hu
    set v := u.modNode a fun n => { n with peerIfaceInfo := [] } with hv
    have hau : a ∈ u.iface := by
      have hiface : u.iface = s.iface := U.same.iface
      rw [hiface]
      exact ha
    have hskel : v.skel = u.skel.modNode a fun n => { n with peerIfaceInfo := [] } :=
      skel_modNode fun _ => rfl
    have hself : v.skel.node a = { u.skel.node a with peerIfaceInfo := [] } := by
      rw [hskel, Skeleton.modNode_self]
    have hne : ∀ x, x ≠ a → v.skel.node x = u.skel.node x := fun x hx => by
      rw [hskel, Skeleton.modNode_ne hx]
    have hsame : u.skel.SameButPeers v.skel := by
      refine ⟨rfl, rfl, rfl, rfl, fun x => ?_⟩
      rcases eq_or_ne x a with rfl | hx
      · rw [hself]
      · rw [hne x hx]
    have hpeersa : v.skel.peers a = [] := by
      rw [Skeleton.peers, hself]
      rfl
    have hpeers : ∀ x, x ≠ a → v.skel.peers x = u.skel.peers x := fun x hx => by
      rw [Skeleton.peers, hne x hx]
      rfl
    have hmem : ∀ x ∈ s.iface, x ≠ a → ∀ b, b ∈ v.skel.peers x ↔ b ∈ s.skel.peers x ∧ b ≠ a := by
      intro x hx hxa b
      rw [hpeers x hxa, U.peers_ne x hx hxa]
      refine and_congr_right fun hb => not_congr ⟨And.left, ?_⟩
      rintro rfl
      obtain ⟨hb, hbx, hix, hib⟩ := (H.topo.peers x hx b).mp hb
      exact ⟨rfl, (H.topo.peers b hb x).mpr ⟨hx, hxa, hib, hix⟩⟩
    refine ⟨v, rfl, U.same.trans hsame, hpeersa, ⟨fun t => ?_, fun x hx hxa t => ?_⟩, hmem,
      fun x q hq => ?_, (Hu.clearPeers hau fun q _ c ip h =>
        absurd (h.2 rfl) List.not_mem_nil).congr ⟨fun x _ p _ c ip => ?_, fun x _ c ip => ?_,
          fun x _ c _ t => ?_, fun x _ c _ => ?_, fun x _ t => ?_, fun x _ => ?_⟩⟩
    · rw [hself]
      exact L.self t
    · rw [hpeers x hxa, hne x hxa, L.others x hx hxa]
      simp only [hsame.l2]
    · rcases eq_or_ne x a with rfl | hx
      · rw [hself] at hq
        exact absurd hq List.not_mem_nil
      · rw [hne x hx] at hq
        exact U.infos x q hq
    · simp only [Skeleton.needRest, Skeleton.need, hsame.clientInfo, hsame.assigned]
    · simp only [Skeleton.needRest, Skeleton.need, hsame.clientInfo, hsame.assigned, hsame.intra]
    · simp only [Skeleton.needRest, hsame.clientInfo, hsame.l2]
      split_ifs with hx
      · rfl
      · rw [hpeers x hx]
    · simp only [Skeleton.needRest, Skeleton.need, hsame.clientInfo, hsame.intra]
    · simp only [Skeleton.needRest, hsame.l2]
      split_ifs with hx
      · rfl
      · rw [hpeers x hx]
    · simp only [Skeleton.needRest, Skeleton.need, hsame.intra]
  · -- without support there are no peers
    have hnone : s.skel.peers a = [] := by
      refine List.eq_nil_iff_forall_not_mem.mpr fun b hb => ?_
      exact hinter ((H.topo.peers a ha b).mp hb).2.2.1
    have hnot : ∀ x ∈ s.iface, a ∉ s.skel.peers x := fun x hx h =>
      hinter ((H.topo.peers x hx a).mp h).2.2.2
    refine ⟨s, rfl, .rfl', hnone, ⟨fun t => ?_, fun x hx _ => H.topo.ref x hx⟩,
      fun x hx _ b => ?_, fun _ _ h => h, H.filled.congr ⟨fun x hx p hp c ip => ?_,
        fun _ _ _ _ => Iff.rfl, fun x _ c _ t => ?_, fun _ _ _ _ => Iff.rfl, fun x _ t => ?_,
        fun _ _ => Iff.rfl⟩⟩
    · rw [H.topo.ref a ha, hnone]
    · refine ⟨fun h => ⟨h, ?_⟩, And.left⟩
      rintro rfl
      exact hnot x hx h
    · refine ⟨fun h => ⟨h, ?_⟩, And.left⟩
      rintro rfl
      rw [← peers_eq, hnone] at hp
      exact hp
    · simp only [Skeleton.needRest, Skeleton.need]
      split_ifs with hx
      · rw [hx, hnone]
      · rfl
    · simp only [Skeleton.needRest, Skeleton.need]
      split_ifs with hx
      · rw [hx, hnone]
      · rfl

/-- **The rules within the interface are taken back**, if it has any. -/
lemma Filled.clearIntra (H : Filled lan F s) (ha : a ∈ s.iface)
    (href : ∀ t, (s.node a).refCntPeerL2HdrType t = 0)
    (hpeer : (s.node a).supportIntraIfaceOffload = true →
      (s.node a).intraInterfaceInfo.peer = a)
    (hflt : ∀ c ip, F.fltIntra a c ip ↔ (s.node a).supportIntraIfaceOffload = true ∧
      c ∈ (s.node a).clientInfo ∧ (s.node a).isIpAddrAssigned ip = true)
    (hrt : ∀ c ∈ (s.node a).clientInfo, F.rtIntra a c ↔
      (s.node a).supportIntraIfaceOffload = true)
    (hctx : F.ctxIntra a ↔ (s.node a).supportIntraIfaceOffload = true) :
    ∃ u, (if (s.node a).supportIntraIfaceOffload then
        let s := s.onIntra a (clearAllFltRuleForOnePeerIface (s.node a).isIpAddrAssigned)
        let s := s.clearAllRtRuleForOnePeerIface lan a (s.node a).intraInterfaceInfo
        { s with ctx := s.ctx.remove (s.node a).hdrProcCtxForIntraInterface }
      else s) = u ∧ u.skel = s.skel ∧ Filled lan { F with
        fltIntra := fun x c ip => F.fltIntra x c ip ∧ x ≠ a
        rtIntra := fun x c => F.rtIntra x c ∧ x ≠ a
        ctxIntra := fun x => F.ctxIntra x ∧ x ≠ a } u := by
  split_ifs with hon
  · obtain ⟨H₁, hskel₁⟩ := H.onIntra ha (D := fun _ _ => False)
      (f := clearAllFltRuleForOnePeerIface (s.node a).isIpAddrAssigned) fun G hG =>
        PeerIfaceInfo.clear_turns hG (H.fltIntra a ha) fun c hc ip => by
          obtain ⟨ip', hc⟩ := hc
          rw [hflt] at hc ⊢
          exact ⟨fun h => h.2.2, fun h => ⟨hc.1, hc.2.1, h⟩⟩
    set s₁ := s.onIntra a (clearAllFltRuleForOnePeerIface (s.node a).isIpAddrAssigned) with hs₁
    have ha₁ : a ∈ s₁.iface := skel_iface hskel₁ ▸ ha
    have hpeer₁ : (s₁.node a).intraInterfaceInfo.peer = a :=
      (congrArg PeerIfaceInfo.peer (skel_intraInfo hskel₁ a) :).trans (hpeer hon)
    obtain ⟨H₂, hskel₂⟩ := H₁.clearAllRtIntra ha₁ hpeer₁ (by rw [skel_ref hskel₁]; exact href _)
    set s₂ := s₁.clearAllRtRuleForOnePeerIface lan a (s₁.node a).intraInterfaceInfo with hs₂
    obtain ⟨H₃, hskel₃⟩ := H₂.delIntraCtx (skel_iface hskel₂ ▸ ha₁) (hctx.mpr hon)
    refine ⟨_, rfl, (hskel₃.trans hskel₂).trans hskel₁, H₃.congr ⟨fun _ _ _ _ _ _ => Iff.rfl,
      fun x _ c ip => ?_, fun x _ c _ t => ?_, fun x _ c _ => ?_, fun x _ t => ?_,
      fun x _ => ?_⟩⟩
    · simp only [Cells.setCtx_fltIntra, Cells.setAllRt_fltIntra]
      rw [Cells.setFltIntra_iff]
      tauto
    · simp only [Cells.setCtx_rt]
      rw [Cells.setAllRt_iff]
      simp only [Cells.setFltIntra_rt]
      grind
    · simp only [Cells.setCtx_rtIntra]
      rw [Cells.setAllRt_intra_iff]
      simp only [Cells.setFltIntra_rtIntra]
      tauto
    · rw [Cells.setCtx_iff]
      simp only [Cells.setAllRt_ctx, Cells.setFltIntra_ctx]
      grind
    · rw [Cells.setCtx_intra_iff]
      simp only [Cells.setAllRt_ctxIntra, Cells.setFltIntra_ctxIntra]
      tauto
  · refine ⟨s, rfl, rfl, H.congr ⟨fun _ _ _ _ _ _ => Iff.rfl, fun x _ c ip => ?_,
      fun _ _ _ _ _ => Iff.rfl, fun x _ c hc => ?_, fun _ _ _ => Iff.rfl, fun x _ => ?_⟩⟩
    · refine ⟨fun h => ⟨h, ?_⟩, And.left⟩
      rintro rfl
      exact hon ((hflt c ip).mp h).1
    · refine ⟨fun h => ⟨h, ?_⟩, And.left⟩
      rintro rfl
      exact hon ((hrt c hc).mp h)
    · refine ⟨fun h => ⟨h, ?_⟩, And.left⟩
      rintro rfl
      exact hon (hctx.mp h)

end LanToLan

namespace Skeleton

variable {lan : ℕ → LanProps} {k k' : Skeleton} {a b c : ℕ}

/-- The interface at `a` has left the topology. -/
structure Parted (lan : ℕ → LanProps) (k k' : Skeleton) (a : ℕ) : Prop where
  iface : k'.iface = k.iface.erase a
  cached : k'.cached = k.cached
  mac : k'.mac = k.mac
  node : ∀ x, x ≠ a → k'.node x = { k.node x with
    refCntPeerL2HdrType := (k'.node x).refCntPeerL2HdrType
    peerIfaceInfo := (k'.node x).peerIfaceInfo }
  ref : ∀ x ∈ k.iface, x ≠ a → ∀ t,
    (k'.node x).refCntPeerL2HdrType t = (k'.peers x).countP fun b => k.l2 lan b = t
  peers : ∀ x ∈ k.iface, x ≠ a → ∀ b, b ∈ k'.peers x ↔ b ∈ k.peers x ∧ b ≠ a
  infos : ∀ x, x ≠ a → ∀ q ∈ (k'.node x).peerIfaceInfo, q ∈ (k.node x).peerIfaceInfo

/-- **An interface less keeps the skeleton consistent.** -/
lemma Topo.parted (T : k.Topo lan) (P : Parted lan k k' a) (hnd : k.iface.Nodup) :
    k'.Topo lan := by
  have hmem : ∀ {x}, x ∈ k'.iface ↔ x ≠ a ∧ x ∈ k.iface := by
    intro x
    rw [P.iface, hnd.mem_erase_iff]
  have hl2 : ∀ x, x ≠ a → k'.l2 lan x = k.l2 lan x := fun x hx => by
    rw [Skeleton.l2, P.node x hx]
    rfl
  refine ⟨fun x hx y hy heq => ?_, fun x hx => ?_, fun x hx => ?_, fun x hx b => ?_,
    fun x hx q hq => ?_, fun x hx t => ?_, fun x hx hon => ?_, fun x hx => ?_⟩
  · obtain ⟨hxa, hx⟩ := hmem.mp hx
    obtain ⟨hya, hy⟩ := hmem.mp hy
    rw [P.node x hxa, P.node y hya] at heq
    exact T.pIface x hx y hy heq
  · obtain ⟨hxa, hx⟩ := hmem.mp hx
    rw [P.node x hxa]
    exact T.inter x hx
  · obtain ⟨hxa, hx⟩ := hmem.mp hx
    rw [P.node x hxa]
    exact T.intra x hx
  · obtain ⟨hxa, hx⟩ := hmem.mp hx
    rw [P.peers x hx hxa, T.peers x hx, hmem, P.node x hxa]
    constructor
    · rintro ⟨⟨hb, hbx, hix, hib⟩, hba⟩
      refine ⟨⟨hba, hb⟩, hbx, hix, ?_⟩
      rw [P.node b hba]
      exact hib
    · rintro ⟨⟨hba, hb⟩, hbx, hix, hib⟩
      rw [P.node b hba] at hib
      exact ⟨⟨hb, hbx, hix, hib⟩, hba⟩
  · obtain ⟨hxa, hx⟩ := hmem.mp hx
    have hqa : q.peer ≠ a := by
      have hq' : q.peer ∈ k'.peers x := List.mem_map_of_mem hq
      rw [P.peers x hx hxa] at hq'
      exact hq'.2
    rw [hl2 x hxa, hl2 q.peer hqa]
    exact T.names x hx q (P.infos x hxa q hq)
  · obtain ⟨hxa, hx⟩ := hmem.mp hx
    rw [P.ref x hx hxa]
    congr 1
    refine List.countP_congr fun b hb => ?_
    rw [P.peers x hx hxa] at hb
    rw [hl2 b hb.2]
  · obtain ⟨hxa, hx⟩ := hmem.mp hx
    rw [P.node x hxa] at hon
    rw [IntraOk, P.node x hxa]
    exact T.intraInfo x hx hon
  · obtain ⟨hxa, hx⟩ := hmem.mp hx
    rw [P.node x hxa, P.mac]
    exact T.macs x hx

end Skeleton

namespace LanToLan

variable {lan : ℕ → LanProps} {s t : LanToLan} {a b c p x : ℕ} {F : Cells}

/-- **An interface goes down**, and everything is as the rest of the topology needs it. -/
lemma Ok.ifaceDown (H : s.Ok lan) (hfind : s.findIface p = some a) :
    (s.handleIfaceDown lan p).Ok lan ∧
      Skeleton.Parted lan s.skel (s.handleIfaceDown lan p).skel a := by
  have ha : a ∈ s.iface := List.mem_of_find?_eq_some hfind
  obtain ⟨s₁, hs₁, hsame, hpeersa, L, hpeers, hinfos, H₁⟩ := H.clearLinks ha
  have hiface₁ : s₁.iface = s.iface := hsame.iface
  have ha₁ : a ∈ s₁.iface := hiface₁ ▸ ha
  have hinfo₁ : (s₁.skel.node a).intraInterfaceInfo = (s.skel.node a).intraInterfaceInfo :=
    hsame.intraInfo a
  obtain ⟨s₂, hs₂, hskel₂, H₂⟩ := H₁.clearIntra ha₁ L.self (fun hon => by
      have hon' : (s.skel.node a).supportIntraIfaceOffload = true := by
        rw [← hsame.intra]
        exact hon
      exact (congrArg PeerIfaceInfo.peer hinfo₁ :).trans (H.topo.intraInfo a ha hon').1)
    (fun _ _ => Iff.rfl) (fun c hc => ⟨And.right, fun h => ⟨hc, h⟩⟩) Iff.rfl
  have ha₂ : a ∈ s₂.iface := skel_iface hskel₂ ▸ ha₁
  have hiface₂ : s₂.iface = s.iface := (skel_iface hskel₂).trans hiface₁
  -- the clients go, and the interface after them
  have H₃ := H₂.dropClients ha₂ (l := []) (List.nil_sublist _) fun c _ _ =>
    ⟨fun t h => by
      obtain ⟨-, b, hb, -⟩ := h
      rw [if_pos rfl] at hb
      exact List.not_mem_nil hb, fun h => h.2 rfl⟩
  set s₃ := s₂.modNode a fun n => { n with clientInfo := [] } with hs₃
  have hself₃ : s₃.node a = { s₂.node a with clientInfo := [] } := modNode_self _
  have hskel₃ : s₃.skel = s₁.skel.modNode a fun n => { n with clientInfo := [] } := by
    have h : s₃.skel = s₂.skel.modNode a fun n => { n with clientInfo := [] } :=
      skel_modNode fun _ => rfl
    rw [h, hskel₂]
  have hrun : s.handleIfaceDown lan p = { s₃ with iface := s₃.iface.erase a } := by
    rw [handleIfaceDown, hfind, hs₃, ← hs₂, ← hs₁]
    rfl
  have H₄ := H₃.eraseIface ha₂ (t := s.handleIfaceDown lan p) hrun (by rw [hself₃])
    (by
      rw [hself₃]
      have hnil : (s₂.node a).peerIfaceInfo.map (·.peer) = [] := by
        rw [← peers_eq, hskel₂, hpeersa]
      exact List.map_eq_nil_iff.mp hnil)
    (fun c ip h => h.2 rfl)
    (fun t h => by
      obtain ⟨b, hb, -⟩ := h
      rw [if_pos rfl] at hb
      exact List.not_mem_nil hb)
    fun h => h.2 rfl
  have hnode : ∀ x, x ≠ a → (s.handleIfaceDown lan p).skel.node x = s₁.skel.node x := by
    intro x hx
    have h : (s.handleIfaceDown lan p).skel.node x = s₃.skel.node x := by rw [hrun]; rfl
    rw [h, hskel₃, Skeleton.modNode_ne hx]
  have hpeers' : ∀ x, x ≠ a → (s.handleIfaceDown lan p).skel.peers x = s₁.skel.peers x := by
    intro x hx
    rw [Skeleton.peers, hnode x hx]
    rfl
  have hiface' : (s.handleIfaceDown lan p).skel.iface = s.skel.iface.erase a := by
    have h : (s.handleIfaceDown lan p).skel.iface = s₂.iface.erase a := by rw [hrun]; rfl
    rw [h, hiface₂]
    rfl
  have P : Skeleton.Parted lan s.skel (s.handleIfaceDown lan p).skel a := by
    refine ⟨hiface', ?_, ?_, fun x hx => ?_, fun x hx hxa t => ?_, fun x hx hxa b => ?_,
      fun x hxa q hq => ?_⟩
    · have h : (s.handleIfaceDown lan p).skel.cached = s₃.skel.cached := by rw [hrun]; rfl
      rw [h, hskel₃]
      exact hsame.cached
    · have h : (s.handleIfaceDown lan p).skel.mac = s₃.skel.mac := by rw [hrun]; rfl
      rw [h, hskel₃]
      exact hsame.mac
    · rw [hnode x hx]
      exact hsame.node x
    · rw [hnode x hxa, hpeers' x hxa, L.others x (hsame.iface ▸ hx) hxa]
      simp only [hsame.l2]
    · rw [hpeers' x hxa]
      exact hpeers x hx hxa b
    · rw [hnode x hxa] at hq
      exact hinfos x q hq
  have hmem : ∀ {x}, x ∈ (s.handleIfaceDown lan p).iface → x ≠ a ∧ x ∈ s.iface := fun h =>
    (H.filled.iface.mem_erase_iff).mp ((hiface' :) ▸ h)
  refine ⟨⟨H.topo.parted P H.filled.iface, H₄.congr ⟨fun x hx q hq c ip => ?_,
    fun x hx c ip => ?_, fun x hx c _ t => ?_, fun x hx c _ => ?_, fun x hx t => ?_,
    fun x hx => ?_⟩⟩, P⟩
  · obtain ⟨hxa, hxs⟩ := hmem hx
    have hqa : q ≠ a := by
      rw [← peers_eq, P.peers x hxs hxa] at hq
      exact hq.2
    simp only [Skeleton.needRest, Skeleton.need, hnode x hxa, hnode q hqa]
    tauto
  · obtain ⟨hxa, -⟩ := hmem hx
    simp only [Skeleton.needRest, Skeleton.need, hnode x hxa]
    tauto
  · obtain ⟨hxa, hxs⟩ := hmem hx
    simp only [Skeleton.needRest, Skeleton.need, hnode x hxa, if_neg hxa, hpeers' x hxa]
    refine and_congr_right fun _ => exists_congr fun b => and_congr_right fun hb => ?_
    rw [hpeers x hxs hxa] at hb
    rw [Skeleton.l2, Skeleton.l2, hnode b hb.2]
  · obtain ⟨hxa, -⟩ := hmem hx
    simp only [Skeleton.needRest, Skeleton.need, hnode x hxa]
    tauto
  · obtain ⟨hxa, hxs⟩ := hmem hx
    simp only [Skeleton.needRest, Skeleton.need, if_neg hxa, hpeers' x hxa]
    refine exists_congr fun b => and_congr_right fun hb => ?_
    rw [hpeers x hxs hxa] at hb
    rw [Skeleton.l2, Skeleton.l2, hnode b hb.2]
  · obtain ⟨hxa, -⟩ := hmem hx
    simp only [Skeleton.needRest, Skeleton.need, hnode x hxa]
    tauto

end LanToLan

end Ipacm
