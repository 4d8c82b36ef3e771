import OcnDevice.Ipacm.LanToLan.Clients

/-!
# Two interfaces become peers

A link has two sides, and each is one `addPeer` of the skeleton: the other interface joins the list of
peers, its L2 type is counted, and if it is the first of its type there will be a context and routing
rules for it.  `Linked k k' a l` says what the skeleton is after the interface at `a` has been linked with
those interfaces of `l` that support it.

While an interface comes up its filter rules are still missing: `needBut k a` is what is there then.
-/

namespace Ipacm

/-! ## Loops over the clients of an interface -/

namespace Cells

variable (F : Cells) (a : ℕ) (T : ℕ → IpaHdrL2Type → Prop) (I : ℕ → Prop)

/-- The routing rules of all clients of an interface become those of `T` and `I`. -/
def setAllRt : Cells :=
  { F with rt := Function.update F.rt a T, rtIntra := Function.update F.rtIntra a I }

variable {F a T I} {b c : ℕ} {t : IpaHdrL2Type}

lemma setAllRt_iff : (F.setAllRt a T I).rt b c t ↔ (b = a ∧ T c t) ∨ (b ≠ a ∧ F.rt b c t) := by
  rw [setAllRt]
  rcases eq_or_ne b a with rfl | hb
  · simp
  · simp [hb]

lemma setAllRt_intra_iff :
    (F.setAllRt a T I).rtIntra b c ↔ (b = a ∧ I c) ∨ (b ≠ a ∧ F.rtIntra b c) := by
  rw [setAllRt]
  rcases eq_or_ne b a with rfl | hb
  · simp
  · simp [hb]

@[simp] lemma setAllRt_flt : (F.setAllRt a T I).flt = F.flt := rfl

@[simp] lemma setAllRt_fltIntra : (F.setAllRt a T I).fltIntra = F.fltIntra := rfl

@[simp] lemma setAllRt_ctx : (F.setAllRt a T I).ctx = F.ctx := rfl

@[simp] lemma setAllRt_ctxIntra : (F.setAllRt a T I).ctxIntra = F.ctxIntra := rfl

end Cells

namespace LanToLan

variable {lan : ℕ → LanProps} {s t : LanToLan} {a b c p : ℕ} {F : Cells}

/-- **A loop over the clients of an interface** changes the routing rules of each of them. -/
lemma Filled.forClients (H : Filled lan F s) (ha : a ∈ s.iface) {g : LanToLan → ℕ → LanToLan}
    {T : ℕ → IpaHdrL2Type → Prop} {I : ℕ → Prop}
    (hg : ∀ u : LanToLan, u.skel = s.skel → ∀ c ∈ (s.node a).clientInfo, ∀ G,
      u.rt.Holds (G + (u.client c).held lan (u.node a)) →
      RtOk (lan (u.node a).pIface).eachClientRtRuleCount (F.rt a c) (F.rtIntra a c) (u.client c) →
      ∃ x, RtTurns lan u a c (g u c) x G (T c) (I c)) :
    Filled lan (F.setAllRt a T I) ((s.node a).clientInfo.foldl g s) ∧
      ((s.node a).clientInfo.foldl g s).skel = s.skel := by
  have hnd : (s.node a).clientInfo.Nodup := nodup_clientInfo H.clients ha
  have hloop := foldl_invariant (l := (s.node a).clientInfo) (f := g) (s := s)
    (P := fun done u => u.skel = s.skel ∧ Filled lan (F.setAllRt a
      (fun c t => if c ∈ done then T c t else F.rt a c t)
      (fun c => if c ∈ done then I c else F.rtIntra a c)) u)
    ⟨rfl, H.congr ⟨fun _ _ _ _ _ _ => Iff.rfl, fun _ _ _ _ => Iff.rfl, fun b _ d _ t => by
        rw [Cells.setAllRt_iff]; grind, fun b _ d _ => by
        rw [Cells.setAllRt_intra_iff]; grind, fun _ _ _ => Iff.rfl, fun _ _ => Iff.rfl⟩⟩ (by
    rintro done c rest u hl ⟨hskel, Hu⟩
    have hc : c ∈ (s.node a).clientInfo := by rw [hl]; simp
    have hnot : c ∉ done := by
      rw [hl, List.nodup_append] at hnd
      exact fun h => hnd.2.2 c h c List.mem_cons_self rfl
    have hau : a ∈ u.iface := skel_iface hskel ▸ ha
    have hcu : c ∈ (u.node a).clientInfo := by
      rw [skel_clientInfo hskel]
      exact hc
    obtain ⟨H', hskel'⟩ := Hu.ofRt hau hcu fun G hG => hg u hskel c hc G hG (by
      have hrt := Hu.rt a hau c hcu
      simpa [Cells.setAllRt, hnot] using hrt)
    refine ⟨hskel'.trans hskel, H'.congr ⟨fun _ _ _ _ _ _ => Iff.rfl, fun _ _ _ _ => Iff.rfl,
      fun b _ d _ t => ?_, fun b _ d _ => ?_, fun _ _ _ => Iff.rfl, fun _ _ => Iff.rfl⟩⟩
    · rw [Cells.setRt_iff, Cells.setAllRt_iff, Cells.setAllRt_iff]
      grind
    · rw [Cells.setRt_intra_iff, Cells.setAllRt_intra_iff, Cells.setAllRt_intra_iff]
      grind)
  refine ⟨hloop.2.congr ⟨fun _ _ _ _ _ _ => Iff.rfl, fun _ _ _ _ => Iff.rfl,
    fun b _ d hd t => ?_, fun b _ d hd => ?_, fun _ _ _ => Iff.rfl, fun _ _ => Iff.rfl⟩, hloop.1⟩
  · rw [skel_clientInfo hloop.1] at hd
    rw [Cells.setAllRt_iff, Cells.setAllRt_iff]
    grind
  · rw [skel_clientInfo hloop.1] at hd
    rw [Cells.setAllRt_intra_iff, Cells.setAllRt_intra_iff]
    grind

/-- **`clear_all_rt_rule_for_one_peer_iface`** for another interface. -/
lemma Filled.clearAllRt (H : Filled lan F s) (ha : a ∈ s.iface) {q : PeerIfaceInfo}
    (hq : q.peer ≠ a) :
    Filled lan (F.setAllRt a (fun c t => F.rt a c t ∧
        ¬ (t = s.l2 lan q.peer ∧ (s.node a).refCntPeerL2HdrType (s.l2 lan q.peer) = 0))
        (F.rtIntra a)) (s.clearAllRtRuleForOnePeerIface lan a q) ∧
      (s.clearAllRtRuleForOnePeerIface lan a q).skel = s.skel := by
  rw [clearAllRtRuleForOnePeerIface]
  split_ifs with h
  · obtain ⟨H', hskel⟩ := H.forClients ha (g := fun u c => u.delClientRtRule lan a q c)
      (T := fun c t => F.rt a c t ∧ t ≠ s.l2 lan q.peer) (I := F.rtIntra a)
      fun u hu c _ G hG hrt => by
        rw [← skel_l2 hu]
        exact delClientRtRule_inter hG hrt hq
    refine ⟨H'.congr ⟨fun _ _ _ _ _ _ => Iff.rfl, fun _ _ _ _ => Iff.rfl, fun b _ d _ t => ?_,
      fun _ _ _ _ => Iff.rfl, fun _ _ _ => Iff.rfl, fun _ _ => Iff.rfl⟩, hskel⟩
    rw [Cells.setAllRt_iff, Cells.setAllRt_iff]
    simp [h]
  · refine ⟨H.congr ⟨fun _ _ _ _ _ _ => Iff.rfl, fun _ _ _ _ => Iff.rfl, fun b _ d _ t => ?_,
      fun b _ d _ => ?_, fun _ _ _ => Iff.rfl, fun _ _ => Iff.rfl⟩, rfl⟩
    · rw [Cells.setAllRt_iff]
      grind
    · rw [Cells.setAllRt_intra_iff]
      grind

/-- **`clear_all_rt_rule_for_one_peer_iface`** for the interface itself, which has no peers. -/
lemma Filled.clearAllRtIntra (H : Filled lan F s) (ha : a ∈ s.iface) {q : PeerIfaceInfo}
    (hq : q.peer = a) (href : (s.node a).refCntPeerL2HdrType (s.l2 lan a) = 0) :
    Filled lan (F.setAllRt a (F.rt a) fun _ => False)
        (s.clearAllRtRuleForOnePeerIface lan a q) ∧
      (s.clearAllRtRuleForOnePeerIface lan a q).skel = s.skel := by
  rw [clearAllRtRuleForOnePeerIface, hq, if_pos href]
  exact H.forClients ha fun u _ c _ G hG hrt => delClientRtRule_intra hG hrt hq

/-- **`add_client_rt_rule_for_new_iface`**: the clients get routing rules for the L2 type of the first
peer in the list, if it is the only one of its type. -/
lemma Filled.addClientRtRuleForNewIface (H : Filled lan F s) (ha : a ∈ s.iface)
    {q : PeerIfaceInfo} {l : List PeerIfaceInfo} (hl : (s.node a).peerIfaceInfo = q :: l)
    (hq : q.peer ≠ a) (hname : q.rtTblNameForRt = rtTblName (s.l2 lan q.peer) (s.l2 lan a))
    (hoff : (s.node a).refCntPeerL2HdrType (s.l2 lan q.peer) = 1 →
      ∀ c ∈ (s.node a).clientInfo, ¬ F.rt a c (s.l2 lan q.peer)) :
    Filled lan (F.setAllRt a (fun c t => F.rt a c t ∨
        (t = s.l2 lan q.peer ∧ (s.node a).refCntPeerL2HdrType (s.l2 lan q.peer) = 1))
        (F.rtIntra a)) (s.addClientRtRuleForNewIface lan a) ∧
      (s.addClientRtRuleForNewIface lan a).skel = s.skel := by
  rw [LanToLan.addClientRtRuleForNewIface, hl]
  simp only
  split_ifs with h
  · obtain ⟨H', hskel⟩ := H.forClients ha (g := fun u c => u.addClientRtRule lan a q c)
      (T := fun c t => F.rt a c t ∨ t = s.l2 lan q.peer) (I := F.rtIntra a)
      fun u hu c hc G hG hrt => by
        rw [← skel_l2 hu]
        refine addClientRtRule_inter hG hrt hq (by rw [hname, skel_l2 hu, skel_l2 hu]) ?_
        rw [skel_l2 hu]
        exact hoff h c hc
    refine ⟨H'.congr ⟨fun _ _ _ _ _ _ => Iff.rfl, fun _ _ _ _ => Iff.rfl, fun b _ d _ t => ?_,
      fun _ _ _ _ => Iff.rfl, fun _ _ _ => Iff.rfl, fun _ _ => Iff.rfl⟩, hskel⟩
    rw [Cells.setAllRt_iff, Cells.setAllRt_iff]
    simp [h]
  · refine ⟨H.congr ⟨fun _ _ _ _ _ _ => Iff.rfl, fun _ _ _ _ => Iff.rfl, fun b _ d _ t => ?_,
      fun b _ d _ => ?_, fun _ _ _ => Iff.rfl, fun _ _ => Iff.rfl⟩, rfl⟩
    · rw [Cells.setAllRt_iff]
      grind
    · rw [Cells.setAllRt_intra_iff]
      grind

end LanToLan

/-! ## One side of a link -/

namespace Skeleton

variable (lan : ℕ → LanProps) (k : Skeleton)

/-- The table names and the counters of the interfaces fit their peers. -/
structure Counted : Prop where
  names : ∀ a ∈ k.iface, ∀ q ∈ (k.node a).peerIfaceInfo,
    q.rtTblNameForRt = LanToLan.rtTblName (k.l2 lan q.peer) (k.l2 lan a) ∧
      q.rtTblNameForFlt = LanToLan.rtTblName (k.l2 lan a) (k.l2 lan q.peer)
  ref : ∀ a ∈ k.iface, ∀ t,
    (k.node a).refCntPeerL2HdrType t = (k.peers a).countP fun b => k.l2 lan b = t

/-- An interface changes. -/
def modNode (a : ℕ) (g : LanToLanIface → LanToLanIface) : Skeleton :=
  { k with node := Function.update k.node a (g (k.node a)) }

/-- The interface at `x` gets the one at `p` as a peer. -/
def addPeer (x p : ℕ) : Skeleton :=
  k.modNode x fun n =>
    { n with
      refCntPeerL2HdrType := Function.update n.refCntPeerL2HdrType (k.l2 lan p)
        (n.refCntPeerL2HdrType (k.l2 lan p) + 1)
      peerIfaceInfo := ⟨p, LanToLan.rtTblName (k.l2 lan p) (k.l2 lan x),
        LanToLan.rtTblName (k.l2 lan x) (k.l2 lan p), []⟩ :: n.peerIfaceInfo }

/-- The lists of peers and their counters change only. -/
structure SameButPeers (k k' : Skeleton) : Prop where
  iface : k'.iface = k.iface
  cached : k'.cached = k.cached
  alloc : k'.alloc = k.alloc
  mac : k'.mac = k.mac
  node : ∀ b, k'.node b = { k.node b with
    refCntPeerL2HdrType := (k'.node b).refCntPeerL2HdrType
    peerIfaceInfo := (k'.node b).peerIfaceInfo }

variable {lan k} {k' k'' : Skeleton} {a b x p : ℕ} {t : IpaHdrL2Type}
  {g g' : LanToLanIface → LanToLanIface}

@[simp] lemma modNode_self : (k.modNode a g).node a = g (k.node a) := Function.update_self ..

lemma modNode_ne (hb : b ≠ a) : (k.modNode a g).node b = k.node b := Function.update_of_ne hb ..

lemma modNode_modNode : (k.modNode a g).modNode a g' = k.modNode a fun n => g' (g n) := by
  rw [modNode, modNode_self]
  simp only [modNode, Function.update_idem]

namespace SameButPeers

lemma rfl' : k.SameButPeers k := ⟨rfl, rfl, rfl, rfl, fun _ => rfl⟩

lemma trans (h : k.SameButPeers k') (h' : k'.SameButPeers k'') : k.SameButPeers k'' :=
  ⟨h'.iface.trans h.iface, h'.cached.trans h.cached, h'.alloc.trans h.alloc, h'.mac.trans h.mac,
    fun b => by rw [h'.node b, h.node b]⟩

variable (h : k.SameButPeers k')
include h

lemma pIface (b : ℕ) : (k'.node b).pIface = (k.node b).pIface := by rw [h.node]

lemma l2 (b : ℕ) : k'.l2 lan b = k.l2 lan b := by rw [Skeleton.l2, Skeleton.l2, h.pIface]

lemma clientInfo (b : ℕ) : (k'.node b).clientInfo = (k.node b).clientInfo := by rw [h.node]

lemma assigned (b : ℕ) : (k'.node b).isIpAddrAssigned = (k.node b).isIpAddrAssigned := by
  rw [h.node]

lemma inter (b : ℕ) :
    (k'.node b).supportInterIfaceOffload = (k.node b).supportInterIfaceOffload := by rw [h.node]

lemma intra (b : ℕ) :
    (k'.node b).supportIntraIfaceOffload = (k.node b).supportIntraIfaceOffload := by rw [h.node]

lemma intraInfo (b : ℕ) : (k'.node b).intraInterfaceInfo = (k.node b).intraInterfaceInfo := by
  rw [h.node]

end SameButPeers

lemma addPeer_self : (k.addPeer lan x p).node x = { k.node x with
      refCntPeerL2HdrType := Function.update (k.node x).refCntPeerL2HdrType (k.l2 lan p)
        ((k.node x).refCntPeerL2HdrType (k.l2 lan p) + 1)
      peerIfaceInfo := ⟨p, LanToLan.rtTblName (k.l2 lan p) (k.l2 lan x),
        LanToLan.rtTblName (k.l2 lan x) (k.l2 lan p), []⟩ :: (k.node x).peerIfaceInfo } :=
  Function.update_self ..

lemma addPeer_ne (hb : b ≠ x) : (k.addPeer lan x p).node b = k.node b := Function.update_of_ne hb ..

lemma addPeer_same : k.SameButPeers (k.addPeer lan x p) := by
  refine ⟨rfl, rfl, rfl, rfl, fun b => ?_⟩
  rcases eq_or_ne b x with rfl | hb
  · rw [addPeer_self]
  · rw [addPeer_ne hb]

@[simp] lemma peers_addPeer_self : (k.addPeer lan x p).peers x = p :: k.peers x := by
  rw [peers, addPeer_self]
  rfl

lemma peers_addPeer_ne (hb : b ≠ x) : (k.addPeer lan x p).peers b = k.peers b := by
  rw [peers, addPeer_ne hb]
  rfl

/-- **A new peer is counted.** -/
lemma Counted.addPeer (C : k.Counted lan) : (k.addPeer lan x p).Counted lan where
  names b hb q hq := by
    rw [addPeer_same.l2, addPeer_same.l2]
    rcases eq_or_ne b x with rfl | hbx
    · rw [addPeer_self] at hq
      rcases List.mem_cons.mp hq with rfl | hq
      · exact ⟨rfl, rfl⟩
      · exact C.names b hb q hq
    · rw [addPeer_ne hbx] at hq
      exact C.names b hb q hq
  ref b hb t := by
    simp only [addPeer_same.l2]
    rcases eq_or_ne b x with rfl | hbx
    · rw [peers_addPeer_self, List.countP_cons, Nat.cast_add, ← C.ref b hb t, addPeer_self]
      show Function.update _ _ _ t = _
      rcases eq_or_ne t (k.l2 lan p) with rfl | ht
      · simp
      · simp [Function.update_of_ne ht, ht.symm]
    · rw [peers_addPeer_ne hbx, addPeer_ne hbx]
      exact C.ref b hb t

lemma Topo.counted (T : k.Topo lan) : k.Counted lan := ⟨T.names, T.ref⟩

/-- A type is counted when some peer has it. -/
lemma Counted.ref_eq_zero (C : k.Counted lan) (ha : a ∈ k.iface) :
    (k.node a).refCntPeerL2HdrType t = 0 ↔ ¬ ∃ b ∈ k.peers a, k.l2 lan b = t := by
  rw [C.ref a ha, Nat.cast_eq_zero, List.countP_eq_zero]
  simp

end Skeleton

namespace LanToLan

variable {lan : ℕ → LanProps} {s t : LanToLan} {a b c p x : ℕ} {F : Cells}

/-- A change of an interface that does not look at its handles. -/
lemma skel_modNode {f g : LanToLanIface → LanToLanIface} (hfg : ∀ n, (f n).bare = g n.bare) :
    (s.modNode a f).skel = s.skel.modNode a g := by
  ext1
  · rfl
  · rfl
  · rfl
  · funext b
    show ((s.modNode a f).node b).bare = _
    rcases eq_or_ne b a with rfl | hb
    · rw [modNode_self, Skeleton.modNode_self, hfg]
      rfl
    · rw [modNode_ne f hb, Skeleton.modNode_ne hb]
      rfl
  · rfl

/-- **One side of a link**: the peer is counted, gets a context if it is the first of its type, and joins
the list. -/
lemma Filled.addPeer (H : Filled lan F s) (C : s.skel.Counted lan) (hx : x ∈ s.iface)
    (hnot : p ∉ s.skel.peers x) (hflt : ∀ c ip, ¬ F.flt x p c ip)
    (hctx : ∀ t, F.ctx x t ↔ ∃ b ∈ s.skel.peers x, s.skel.l2 lan b = t)
    (hrt : ∀ c ∈ (s.node x).clientInfo, ∀ t, F.rt x c t → F.ctx x t)
    (nameForFlt nameForRt : IpType → String)
    (hnameFlt : nameForFlt = rtTblName (s.l2 lan x) (s.l2 lan p))
    (hnameRt : nameForRt = rtTblName (s.l2 lan p) (s.l2 lan x)) :
    Filled lan (F.setCtx x (fun t => F.ctx x t ∨ t = s.l2 lan p) (F.ctxIntra x))
        (s.ifaceHandleNewIfaceUp lan x nameForFlt nameForRt p) ∧
      (s.ifaceHandleNewIfaceUp lan x nameForFlt nameForRt p).skel = s.skel.addPeer lan x p := by
  set t := s.l2 lan p with ht
  set s₁ := s.addRefCnt x t 1 with hs₁
  have hself : s₁.node x = { s.node x with
      refCntPeerL2HdrType := Function.update (s.node x).refCntPeerL2HdrType t
        ((s.node x).refCntPeerL2HdrType t + 1) } := modNode_self _
  have hother : ∀ b, b ≠ x → s₁.node b = s.node b := fun b hb => modNode_ne _ hb
  have H₁ : Filled lan F s₁ := H.frame rfl fun b _ => by
    rcases eq_or_ne b x with rfl | hb
    · rw [hself]
    · rw [hother b hb]
  have hzero := C.ref_eq_zero (t := t) (a := x) hx
  have href : (s₁.node x).refCntPeerL2HdrType t = (s.node x).refCntPeerL2HdrType t + 1 := by
    rw [hself]
    exact Function.update_self ..
  -- the first of its type gets a context
  have hl2 : ∀ b, s₁.l2 lan b = s.l2 lan b := by
    intro b
    rw [LanToLan.l2, LanToLan.l2]
    rcases eq_or_ne b x with rfl | hb
    · rw [hself]
    · rw [hother b hb]
  obtain ⟨H₂, hskel₂⟩ := H₁.addHdrProcCtx (t := t) hx (fun h => by
      have hnone : ¬ F.ctx x t := by
        rw [hctx, ← hzero]
        show (s.node x).refCntPeerL2HdrType t = 0
        omega
      refine ⟨hnone, fun c hc h => hnone (hrt c ?_ t h)⟩
      rw [hself] at hc
      exact hc) fun h => by
    rw [hctx]
    by_contra hnone
    have hz : (s.node x).refCntPeerL2HdrType t = 0 := hzero.mpr hnone
    exact h (by rw [href, hz, zero_add])
  set s₂ := s₁.addHdrProcCtx lan x t with hs₂
  have hx₂ : x ∈ s₂.iface := skel_iface hskel₂ ▸ hx
  have hrun : s.ifaceHandleNewIfaceUp lan x nameForFlt nameForRt p = s₂.modNode x fun n =>
      { n with peerIfaceInfo := ⟨p, nameForRt, nameForFlt, []⟩ :: n.peerIfaceInfo } := by
    rw [ifaceHandleNewIfaceUp]
    simp only [← ht, ← hs₁, hl2, ← hs₂]
  have hkeys : (s₂.node x).peerIfaceInfo.map (·.peer) = s.skel.peers x := by
    rw [skel_peerKeys hskel₂, hself, peers_eq]
  rw [hrun]
  constructor
  · refine H₂.pushPeer hx₂ (q := ⟨p, nameForRt, nameForFlt, []⟩) rfl (fun r hr hrp => ?_) hflt
    refine hnot ?_
    rw [← hkeys]
    exact List.mem_map.mpr ⟨r, hr, hrp⟩
  · have hcount : s₁.skel = s.skel.modNode x fun n => { n with
        refCntPeerL2HdrType :=
          Function.update n.refCntPeerL2HdrType t (n.refCntPeerL2HdrType t + 1) } :=
      skel_modNode fun _ => rfl
    have hpush : (s₂.modNode x fun n =>
        { n with peerIfaceInfo := ⟨p, nameForRt, nameForFlt, []⟩ :: n.peerIfaceInfo }).skel =
        s₂.skel.modNode x fun n =>
          { n with peerIfaceInfo := ⟨p, nameForRt, nameForFlt, []⟩ :: n.peerIfaceInfo } :=
      skel_modNode fun _ => rfl
    rw [hpush, hskel₂, hcount, Skeleton.modNode_modNode, hnameFlt, hnameRt]
    rfl

end LanToLan

end Ipacm
