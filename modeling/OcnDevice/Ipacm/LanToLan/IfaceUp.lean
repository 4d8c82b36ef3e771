import OcnDevice.Ipacm.LanToLan.Links

/-!
# An interface comes up

A new interface joins the list without peers and without clients, is linked with the interfaces that are
up already (`link_loop`), and gets its filter rules, the information about itself and the clients that are
waiting for it.  An interface that is up already may get an address of the other family
(`Ok.assign`), which asks for the filter rules of that family.
-/

namespace Ipacm

namespace Skeleton

variable (lan : ℕ → LanProps) (k : Skeleton)

/-- What the topology needs, but no filter rules on the interface at `a` for others and no context for
itself. -/
def needBut (a : ℕ) : Cells :=
  { k.need lan with
    flt := fun x p c ip => x ≠ a ∧ (k.need lan).flt x p c ip
    ctxIntra := fun x => x ≠ a ∧ (k.need lan).ctxIntra x }

/-- The interface at `a` has been linked with those of `l` that support it. -/
structure Linked (k k' : Skeleton) (a : ℕ) (l : List ℕ) : Prop where
  same : k.SameButPeers k'
  peers_self : ∀ b, b ∈ k'.peers a ↔
    b ∈ k.peers a ∨ (b ∈ l ∧ (k.node b).supportInterIfaceOffload = true)
  peers_ne : ∀ x, x ≠ a → ∀ b, b ∈ k'.peers x ↔
    b ∈ k.peers x ∨ (b = a ∧ x ∈ l ∧ (k.node x).supportInterIfaceOffload = true)

variable {lan k} {k' : Skeleton} {a b c : ℕ} {l : List ℕ}

lemma Linked.nil : k.Linked k a [] := ⟨.rfl', by simp, by simp⟩

/-- An interface that supports it is linked. -/
lemma Linked.link (h : k.Linked k' a l) (hb : b ≠ a)
    (hinter : (k.node b).supportInterIfaceOffload = true) :
    k.Linked ((k'.addPeer lan b a).addPeer lan a b) a (l ++ [b]) where
  same := (h.same.trans addPeer_same).trans addPeer_same
  peers_self d := by
    rw [peers_addPeer_self, List.mem_cons, peers_addPeer_ne hb.symm, h.peers_self,
      List.mem_append, List.mem_singleton]
    constructor
    · rintro (rfl | h | h)
      · exact Or.inr ⟨Or.inr rfl, hinter⟩
      · exact Or.inl h
      · exact Or.inr ⟨Or.inl h.1, h.2⟩
    · rintro (h | ⟨h | rfl, h'⟩)
      · exact Or.inr (Or.inl h)
      · exact Or.inr (Or.inr ⟨h, h'⟩)
      · exact Or.inl rfl
  peers_ne x hx d := by
    rw [peers_addPeer_ne hx, List.mem_append, List.mem_singleton]
    rcases eq_or_ne x b with rfl | hxb
    · rw [peers_addPeer_self, List.mem_cons, h.peers_ne x hx]
      tauto
    · rw [peers_addPeer_ne hxb, h.peers_ne x hx]
      tauto

/-- An interface that does not support it is left out. -/
lemma Linked.skip (h : k.Linked k' a l) (hb : b ≠ a)
    (hinter : ¬ (k.node b).supportInterIfaceOffload = true) : k.Linked k' a (l ++ [b]) where
  same := h.same
  peers_self d := by
    rw [h.peers_self, List.mem_append, List.mem_singleton]
    constructor
    · rintro (h | h)
      · exact Or.inl h
      · exact Or.inr ⟨Or.inl h.1, h.2⟩
    · rintro (h | ⟨h | rfl, h'⟩)
      · exact Or.inl h
      · exact Or.inr ⟨h, h'⟩
      · exact absurd h' hinter
  peers_ne x hx d := by
    rw [h.peers_ne x hx, List.mem_append, List.mem_singleton]
    constructor
    · rintro (h | ⟨rfl, h, h'⟩)
      · exact Or.inl h
      · exact Or.inr ⟨rfl, Or.inl h, h'⟩
    · rintro (h | ⟨rfl, h | rfl, h'⟩)
      · exact Or.inl h
      · exact Or.inr ⟨rfl, h, h'⟩
      · exact absurd h' hinter

end Skeleton

namespace LanToLan

variable {lan : ℕ → LanProps} {s t : LanToLan} {a b c p x : ℕ} {F : Cells}

/-- **One pass of `handle_iface_up`** over the interfaces that are up already. -/
lemma linkPass_filled (C : s.skel.Counted lan) (H : Filled lan (s.skel.needBut lan a) s)
    (ha : a ∈ s.iface) (hb : b ∈ s.iface) (hba : b ≠ a) (hclients : (s.node a).clientInfo = [])
    (hbPeers : a ∉ s.skel.peers b) (haPeers : b ∉ s.skel.peers a)
    (hinter : (s.node b).supportInterIfaceOffload = true) :
    (linkPass lan a b s).skel = (s.skel.addPeer lan b a).addPeer lan a b ∧
      Filled lan ((linkPass lan a b s).skel.needBut lan a) (linkPass lan a b s) := by
  -- the side of the interface that was there before
  obtain ⟨H₁, hskel₁⟩ := H.addPeer C hb hbPeers
    (fun c ip h => by
      have hc : c ∈ (s.node a).clientInfo := h.2.1
      rw [hclients] at hc
      exact List.not_mem_nil hc)
    (fun _ => Iff.rfl) (fun c _ t h => h.2)
    (rtTblName (s.l2 lan b) (s.l2 lan a)) (rtTblName (s.l2 lan a) (s.l2 lan b)) rfl rfl
  set s₁ := s.ifaceHandleNewIfaceUp lan b (rtTblName (s.l2 lan b) (s.l2 lan a))
    (rtTblName (s.l2 lan a) (s.l2 lan b)) a with hs₁
  have hsame₁ : s.skel.SameButPeers s₁.skel := hskel₁ ▸ Skeleton.addPeer_same
  have hl2₁ : ∀ d, s₁.l2 lan d = s.l2 lan d := fun d => hsame₁.l2 d
  have ha₁ : a ∈ s₁.iface := by
    have hiface : s₁.iface = s.iface := hsame₁.iface
    rw [hiface]
    exact ha
  have hclients₁ : (s₁.node a).clientInfo = [] := (hsame₁.clientInfo a).trans hclients
  -- the side of the new interface
  have hpeers₁ : s₁.skel.peers a = s.skel.peers a := by
    rw [hskel₁, Skeleton.peers_addPeer_ne hba.symm]
  obtain ⟨H₂, hskel₂⟩ := H₁.addPeer (hskel₁ ▸ C.addPeer) ha₁
    (by rw [hpeers₁]; exact haPeers) (fun c ip h => h.1 rfl)
    (fun t => by
      rw [Cells.setCtx_iff, hpeers₁]
      simp only [hsame₁.l2]
      exact ⟨fun h => h.elim (fun h => absurd h.1 hba.symm) And.right,
        fun h => Or.inr ⟨hba.symm, h⟩⟩)
    (fun c hc t h => absurd hc (by rw [hclients₁]; exact List.not_mem_nil))
    (rtTblName (s.l2 lan a) (s.l2 lan b)) (rtTblName (s.l2 lan b) (s.l2 lan a))
    (by rw [hl2₁, hl2₁]) (by rw [hl2₁, hl2₁])
  set s₂ := s₁.ifaceHandleNewIfaceUp lan a (rtTblName (s.l2 lan a) (s.l2 lan b))
    (rtTblName (s.l2 lan b) (s.l2 lan a)) b with hs₂
  have hsame₂ : s.skel.SameButPeers s₂.skel :=
    hsame₁.trans (hskel₂ ▸ Skeleton.addPeer_same)
  have hl2₂ : ∀ d, s₂.l2 lan d = s.l2 lan d := fun d => hsame₂.l2 d
  have hb₂ : b ∈ s₂.iface := by
    have hiface : s₂.iface = s.iface := hsame₂.iface
    rw [hiface]
    exact hb
  have C₂ : s₂.skel.Counted lan := hskel₂ ▸ (hskel₁ ▸ C.addPeer).addPeer
  have hpeersb : s₂.skel.peers b = a :: s.skel.peers b := by
    rw [hskel₂, Skeleton.peers_addPeer_ne hba, hskel₁, Skeleton.peers_addPeer_self]
  have hpeersa : s₂.skel.peers a = b :: s.skel.peers a := by
    rw [hskel₂, Skeleton.peers_addPeer_self, hpeers₁]
  have hpeers : ∀ d, d ≠ a → d ≠ b → s₂.skel.peers d = s.skel.peers d := by
    intro d hda hdb
    rw [hskel₂, Skeleton.peers_addPeer_ne hda, hskel₁, Skeleton.peers_addPeer_ne hdb]
  -- the clients of the interface that was there before
  obtain ⟨q, l, hl, hq⟩ : ∃ q l, (s₂.node b).peerIfaceInfo = q :: l ∧ q.peer = a := by
    rw [peers_eq] at hpeersb
    obtain ⟨q, l, hl, hq, -⟩ := List.map_eq_cons_iff.mp hpeersb
    exact ⟨q, l, hl, hq⟩
  have hname : q.rtTblNameForRt = rtTblName (s₂.l2 lan q.peer) (s₂.l2 lan b) :=
    (C₂.names b hb₂ q.bare (List.mem_map_of_mem (by rw [hl]; exact List.mem_cons_self))).1
  have href : (s₂.node b).refCntPeerL2HdrType (s.l2 lan a) = 1 ↔
      ¬ ∃ d ∈ s.skel.peers b, s.skel.l2 lan d = s.l2 lan a := by
    have hcount : (s₂.node b).refCntPeerL2HdrType (s.l2 lan a) =
        ((s₂.skel.peers b).countP fun d => s₂.skel.l2 lan d = s.l2 lan a : ℕ) :=
      C₂.ref b hb₂ _
    simp only [hsame₂.l2] at hcount
    rw [hcount, hpeersb, List.countP_cons]
    have hself : s.skel.l2 lan a = s.l2 lan a := rfl
    rw [hself]
    simp [List.countP_eq_zero]
  obtain ⟨H₃, hskel₃⟩ := H₂.addClientRtRuleForNewIface hb₂ hl (hq ▸ hba.symm) hname (by
    rw [hq, hl2₂, href]
    rintro hnone c - h
    exact hnone h.2)
  rw [hq, hl2₂] at H₃
  have hrun : linkPass lan a b s = s₂.addClientRtRuleForNewIface lan b := by
    rw [linkPass, if_pos hinter]
    rfl
  rw [hrun]
  refine ⟨hskel₃.trans (hskel₁ ▸ hskel₂), H₃.congr ?_⟩
  rw [hskel₃]
  refine ⟨fun d _ p _ c' ip => ?_, fun d _ c' ip => ?_, fun d _ c' hc' t => ?_,
    fun d _ c' _ => ?_, fun d _ t => ?_, fun d _ => ?_⟩
  · simp only [Skeleton.needBut, Skeleton.need, Cells.setAllRt_flt, Cells.setCtx_flt,
      hsame₂.clientInfo, hsame₂.assigned]
  · simp only [Skeleton.needBut, Skeleton.need, Cells.setAllRt_fltIntra, Cells.setCtx_fltIntra,
      hsame₂.clientInfo, hsame₂.assigned, hsame₂.intra]
  · have hc : c' ∈ (s.skel.node d).clientInfo := by
      rw [← hsame₂.clientInfo d, ← hskel₃]
      exact hc'
    rw [Cells.setAllRt_iff]
    simp only [Skeleton.needBut, Skeleton.need, Cells.setCtx_rt, hsame₂.clientInfo, hsame₂.l2]
    rcases eq_or_ne d b with rfl | hdb
    · rw [hpeersb, href]
      have hself : s.skel.l2 lan a = s.l2 lan a := rfl
      simp only [List.mem_cons, exists_eq_or_imp, hself]
      by_cases hold : ∃ d' ∈ s.skel.peers d, s.skel.l2 lan d' = s.l2 lan a
      · grind
      · grind
    · have hda : d ≠ a := by
        rintro rfl
        exact absurd (hclients ▸ hc) List.not_mem_nil
      rw [hpeers d hda hdb]
      simp [hdb]
  · rw [Cells.setAllRt_intra_iff]
    simp only [Skeleton.needBut, Skeleton.need, Cells.setCtx_rtIntra, hsame₂.clientInfo,
      hsame₂.intra]
    grind
  · simp only [Cells.setAllRt_ctx]
    rw [Cells.setCtx_iff, Cells.setCtx_iff, Cells.setCtx_iff]
    simp only [Skeleton.needBut, Skeleton.need, hsame₂.l2]
    have hself : ∀ e, s.skel.l2 lan e = s.l2 lan e := fun _ => rfl
    rcases eq_or_ne d a with rfl | hda
    · rw [hpeersa]
      simp only [List.mem_cons, exists_eq_or_imp, hself]
      grind
    · rcases eq_or_ne d b with rfl | hdb
      · rw [hpeersb]
        simp only [List.mem_cons, exists_eq_or_imp, hself]
        grind
      · rw [hpeers d hda hdb]
        grind
  · simp only [Cells.setAllRt_ctxIntra]
    rw [Cells.setCtx_intra_iff, Cells.setCtx_intra_iff, Cells.setCtx_intra_iff]
    simp only [Skeleton.needBut, Skeleton.need, hsame₂.intra]
    grind

/-- **The loop of `handle_iface_up`** over the interfaces that are up already. -/
lemma link_loop (C : s.skel.Counted lan) (H : Filled lan (s.skel.needBut lan a) s)
    (ha : a ∈ s.iface) (hclients : (s.node a).clientInfo = []) (hself : s.skel.peers a = [])
    {old : List ℕ} (hnd : old.Nodup)
    (hold : ∀ b ∈ old, b ∈ s.iface ∧ b ≠ a ∧ a ∉ s.skel.peers b) :
    s.skel.Linked (old.foldl (fun s b => linkPass lan a b s) s).skel a old ∧
      (old.foldl (fun s b => linkPass lan a b s) s).skel.Counted lan ∧
      Filled lan ((old.foldl (fun s b => linkPass lan a b s) s).skel.needBut lan a)
        (old.foldl (fun s b => linkPass lan a b s) s) := by
  refine foldl_invariant (f := fun s b => linkPass lan a b s)
    (P := fun done u => s.skel.Linked u.skel a done ∧ u.skel.Counted lan ∧
      Filled lan (u.skel.needBut lan a) u) ⟨.nil, C, H⟩ ?_
  rintro done b rest u hl ⟨hlink, Cu, Hu⟩
  obtain ⟨hb, hba, hnot⟩ := hold b (by rw [hl]; simp)
  have hdone : b ∉ done := by
    rw [hl, List.nodup_append] at hnd
    exact fun h => hnd.2.2 b h b List.mem_cons_self rfl
  have hiface : u.iface = s.iface := hlink.same.iface
  have hinter : (u.node b).supportInterIfaceOffload = (s.node b).supportInterIfaceOffload :=
    hlink.same.inter b
  by_cases hon : (s.node b).supportInterIfaceOffload = true
  · obtain ⟨hskel, H'⟩ := linkPass_filled Cu Hu (hiface ▸ ha) (hiface ▸ hb) hba
      ((hlink.same.clientInfo a).trans hclients)
      (fun h => ((hlink.peers_ne b hba a).mp h).elim hnot fun h => hdone h.2.1)
      (fun h => ((hlink.peers_self b).mp h).elim
        (fun h => List.not_mem_nil (hself ▸ h)) fun h => hdone h.1) (hinter.trans hon)
    refine ⟨?_, ?_, H'⟩
    · rw [hskel]
      exact hlink.link hba hon
    · rw [hskel]
      exact Cu.addPeer.addPeer
  · have hskip : linkPass lan a b u = u := by
      rw [linkPass, if_neg (by rw [hinter]; exact hon)]
    rw [hskip]
    exact ⟨hlink.skip hba hon, Cu, Hu⟩

/-! ## Filter rules for the clients of all peers -/

/-- A change of an interface that does not show in the skeleton. -/
lemma skel_modNode_eq_self {g : LanToLanIface → LanToLanIface}
    (h : g (s.skel.node a) = s.skel.node a) : s.skel.modNode a g = s.skel := by
  rw [Skeleton.modNode, h, Function.update_eq_self]

/-- **`add_all_inter_interface_client_flt_rule`**: each client of a peer gets a rule of the family. -/
lemma Filled.addAllInter (H : Filled lan F s) (ha : a ∈ s.iface) (ip : IpType)
    (hpeer : ∀ q ∈ (s.node a).peerIfaceInfo, q.peer ∈ s.iface)
    (hoff : ∀ q ∈ (s.node a).peerIfaceInfo, ∀ c, ¬ F.flt a q.peer c ip) :
    Filled lan { F with flt := fun x p c ip' => F.flt x p c ip' ∨
          (x = a ∧ c ∈ (s.node p).clientInfo ∧ ip' = ip) }
        (s.addAllInterInterfaceClientFltRule a ip) ∧
      (s.addAllInterInterfaceClientFltRule a ip).skel = s.skel := by
  set body : PeerIfaceInfo → Bank EthFltRule → PeerIfaceInfo × Bank EthFltRule := fun peer b =>
    s.addFltRules (s.node a).pIface ip (s.node peer.peer).clientInfo peer b with hbody
  set r := forEach body (s.node a).peerIfaceInfo s.flt with hr
  set D : ℕ → ℕ → IpType → Prop := fun p c ip' => F.flt a p c ip' ∨
    (c ∈ (s.node p).clientInfo ∧ ip' = ip) with hD
  have hturn : ∀ G, s.flt.Holds (G +
        ((s.node a).peerIfaceInfo.map fun q => q.held (s.node a).pIface s.mac).sum) →
      r.2.Holds (G + (r.1.map fun q => q.held (s.node a).pIface s.mac).sum) ∧
        List.Forall₂ (fun q q' => PeerIfaceInfo.SameBut q q' ∧ FltOk (D q.peer) q'.fltRule)
          (s.node a).peerIfaceInfo r.1 := by
    intro G hG
    refine forEach_frame (I := fun (b : Bank EthFltRule) M => b.Holds M) (fun q hq b G hG => ?_) hG
    have hturns := PeerIfaceInfo.addFltRules_turns (s := s)
      (nodup_clientInfo H.clients (hpeer q hq)) hG (H.flt a ha q hq) fun c _ => hoff q hq c
    exact ⟨hturns.holds, hturns.same, hturns.ok⟩
  obtain ⟨G, hG⟩ := exists_frame_flt H.iface ha
  have hs : s.heldFlt = G + (s.node a).heldFlt s.mac :=
    hG s (s.node a) rfl rfl (Function.update_eq_self ..).symm
  have hsame := (hturn (G + (s.node a).intraInterfaceInfo.held (s.node a).pIface s.mac)
    (H.heldFlt.of_eq (by rw [hs, LanToLanIface.heldFlt]; abel))).2
  have hbare : r.1.map PeerIfaceInfo.bare = (s.node a).peerIfaceInfo.map PeerIfaceInfo.bare := by
    rw [← List.forall₂_eq_eq_eq, List.forall₂_map_left_iff, List.forall₂_map_right_iff]
    exact hsame.flip.imp fun _ _ h => h.1.bare
  have hkeys : r.1.map (·.peer) = (s.node a).peerIfaceInfo.map (·.peer) := by
    have hmap := congrArg (List.map PeerIfaceInfo.peer) hbare
    rwa [List.map_map, List.map_map] at hmap
  constructor
  · refine H.ofFlt ha (n := { s.node a with peerIfaceInfo := r.1 }) rfl rfl ?_ rfl
      (fun b hb => ⟨?_, rfl⟩) (fun q hq => ?_) (H.fltIntra a ha) fun G hG => ?_
    · show (r.1.map (·.peer)).Nodup
      rw [hkeys]
      exact H.peers a ha
    · funext p c ip'
      simp [hb]
    · obtain ⟨q₀, -, hq₀, hok⟩ : ∃ q₀ ∈ (s.node a).peerIfaceInfo,
          q₀.SameBut q ∧ FltOk (D q₀.peer) q.fltRule := by
        obtain ⟨i, hi, rfl⟩ := List.mem_iff_getElem.mp hq
        have hlen : i < (s.node a).peerIfaceInfo.length := by
          rw [hsame.length_eq]
          exact hi
        exact ⟨_, List.getElem_mem hlen, hsame.get hlen hi⟩
      refine hok.congr fun c ip' => ?_
      rw [hq₀.peer]
      simp [hD]
    · rw [LanToLanIface.heldFlt, add_comm (List.sum _), ← add_assoc] at hG
      rw [LanToLanIface.heldFlt, add_comm (List.sum _), ← add_assoc]
      exact (hturn _ hG).1
  · have hset : (s.addAllInterInterfaceClientFltRule a ip).skel =
        s.skel.modNode a fun n => { n with peerIfaceInfo := r.1.map PeerIfaceInfo.bare } :=
      skel_modNode fun _ => rfl
    rw [hset, hbare]
    exact skel_modNode_eq_self rfl

/-! ## An address of another family -/

end LanToLan

namespace Skeleton

variable {lan : ℕ → LanProps} {k k' : Skeleton} {a b c : ℕ} {ip : IpType}

/-- The interface gets an address of a family. -/
def assign (k : Skeleton) (a : ℕ) (ip : IpType) : Skeleton :=
  k.modNode a fun n => { n with isIpAddrAssigned := Function.update n.isIpAddrAssigned ip true }

lemma assign_node (b : ℕ) : (k.assign a ip).node b = { k.node b with
    isIpAddrAssigned := ((k.assign a ip).node b).isIpAddrAssigned } := by
  rcases eq_or_ne b a with rfl | hb
  · rw [assign, modNode_self]
  · rw [assign, modNode_ne hb]

lemma assign_peers (b : ℕ) : (k.assign a ip).peers b = k.peers b := by
  rw [peers, peers, assign_node]

lemma assign_l2 (b : ℕ) : (k.assign a ip).l2 lan b = k.l2 lan b := by
  rw [l2, l2, assign_node]

lemma assign_iff {ip' : IpType} : ((k.assign a ip).node b).isIpAddrAssigned ip' = true ↔
    (k.node b).isIpAddrAssigned ip' = true ∨ (b = a ∧ ip' = ip) := by
  rcases eq_or_ne b a with rfl | hb
  · rw [assign, modNode_self]
    show Function.update (k.node b).isIpAddrAssigned ip true ip' = true ↔ _
    rcases eq_or_ne ip' ip with rfl | hip
    · simp
    · simp [hip]
  · rw [assign, modNode_ne hb]
    simp [hb]

/-- **An address does not touch the topology.** -/
lemma Topo.assign (T : k.Topo lan) : (k.assign a ip).Topo lan where
  pIface b hb d hd heq := by
    rw [assign_node b, assign_node d] at heq
    exact T.pIface b hb d hd heq
  inter b hb := by
    rw [assign_node]
    exact T.inter b hb
  intra b hb := by
    rw [assign_node]
    exact T.intra b hb
  peers b hb d := by
    rw [assign_peers, assign_node b, assign_node d]
    exact T.peers b hb d
  names b hb q hq := by
    rw [assign_node] at hq
    rw [assign_l2, assign_l2]
    exact T.names b hb q hq
  ref b hb t := by
    rw [assign_peers, assign_node]
    simp only [assign_l2]
    exact T.ref b hb t
  intraInfo b hb hon := by
    rw [assign_node] at hon
    rw [IntraOk, assign_node]
    exact T.intraInfo b hb hon
  macs b hb := by
    rw [assign_node]
    exact T.macs b hb

end Skeleton

namespace LanToLan

variable {lan : ℕ → LanProps} {s t : LanToLan} {a b c p x : ℕ} {F : Cells} {ip : IpType}

/-- **An interface that is up gets an address of the other family.** -/
lemma Ok.assign (H : s.Ok lan) (ha : a ∈ s.iface)
    (hfind : s.findIface p = some a) (hnew : (s.node a).isIpAddrAssigned ip = false) :
    (s.handleIfaceUp lan p ip).Ok lan ∧ (s.handleIfaceUp lan p ip).skel = s.skel.assign a ip := by
  set s₁ := s.modNode a fun n =>
    { n with isIpAddrAssigned := Function.update n.isIpAddrAssigned ip true } with hs₁
  have hskel₁ : s₁.skel = s.skel.assign a ip := skel_modNode fun _ => rfl
  have hnode : ∀ b, s₁.node b = { s.node b with
      isIpAddrAssigned := (s₁.node b).isIpAddrAssigned } := by
    intro b
    rcases eq_or_ne b a with rfl | hb
    · rw [hs₁, modNode_self]
    · rw [hs₁, modNode_ne _ hb]
  have H₁ : Filled lan (s.skel.need lan) s₁ := H.filled.frame rfl fun b _ => by
    rw [hnode b]
  have T₁ : s₁.skel.Topo lan := hskel₁ ▸ H.topo.assign
  have hoff : ¬ (s.skel.node a).isIpAddrAssigned ip = true := by
    show ¬ (s.node a).isIpAddrAssigned ip = true
    rw [hnew]
    exact Bool.false_ne_true
  -- the rules for the clients of others
  set F₂ : Cells := { s.skel.need lan with flt := fun x p c ip' => (s.skel.need lan).flt x p c ip' ∨
    (x = a ∧ c ∈ (s₁.node p).clientInfo ∧ ip' = ip) } with hF₂
  obtain ⟨s₂, hs₂, hskel₂, H₂⟩ : ∃ s₂, (if (s₁.node a).supportInterIfaceOffload then
        s₁.addAllInterInterfaceClientFltRule a ip else s₁) = s₂ ∧ s₂.skel = s₁.skel ∧
      Filled lan F₂ s₂ := by
    split_ifs with hinter
    · obtain ⟨H', hskel⟩ := H₁.addAllInter ha ip (fun q hq => (topo_peer T₁ ha hq).1)
        fun q hq c h => hoff h.2
      exact ⟨_, rfl, hskel, H'⟩
    · refine ⟨_, rfl, rfl, H₁.congr ⟨fun x hx p hp c ip' => ?_, fun _ _ _ _ => Iff.rfl,
        fun _ _ _ _ _ => Iff.rfl, fun _ _ _ _ => Iff.rfl, fun _ _ _ => Iff.rfl,
        fun _ _ => Iff.rfl⟩⟩
      refine ⟨Or.inl, fun h => h.elim id ?_⟩
      rintro ⟨rfl, -⟩
      rw [← peers_eq] at hp
      exact absurd ((T₁.peers x ha p).mp hp).2.2.1 hinter
  have ha₂ : a ∈ s₂.iface := skel_iface hskel₂ ▸ ha
  -- the rules for the clients of its own
  obtain ⟨s₃, hs₃, hskel₃, H₃⟩ : ∃ s₃, (if (s₂.node a).supportIntraIfaceOffload then
        s₂.addAllIntraInterfaceClientFltRule a ip else s₂) = s₃ ∧ s₃.skel = s₂.skel ∧
      Filled lan { F₂ with fltIntra := fun x c ip' => F₂.fltIntra x c ip' ∨
        (x = a ∧ (s₂.node a).supportIntraIfaceOffload = true ∧ c ∈ (s₂.node a).clientInfo ∧
          ip' = ip) } s₃ := by
    split_ifs with hintra
    · obtain ⟨H', hskel⟩ := H₂.onIntra ha₂
        (D := fun c ip' => F₂.fltIntra a c ip' ∨ (c ∈ (s₂.node a).clientInfo ∧ ip' = ip))
        (f := s₂.addFltRules (s₂.node a).pIface ip (s₂.node a).clientInfo) fun G hG =>
          PeerIfaceInfo.addFltRules_turns (nodup_clientInfo H₂.clients ha₂) hG
            (H₂.fltIntra a ha₂) fun c _ h => hoff h.2.2
      refine ⟨_, rfl, hskel, H'.congr ⟨fun _ _ _ _ _ _ => Iff.rfl, fun x _ c ip' => ?_,
        fun _ _ _ _ _ => Iff.rfl, fun _ _ _ _ => Iff.rfl, fun _ _ _ => Iff.rfl,
        fun _ _ => Iff.rfl⟩⟩
      rw [Cells.setFltIntra_iff]
      simp only [hintra, true_and]
      grind
    · refine ⟨_, rfl, rfl, H₂.congr ⟨fun _ _ _ _ _ _ => Iff.rfl, fun x _ c ip' => ?_,
        fun _ _ _ _ _ => Iff.rfl, fun _ _ _ _ => Iff.rfl, fun _ _ _ => Iff.rfl,
        fun _ _ => Iff.rfl⟩⟩
      simp [hintra]
  have hrun : s.handleIfaceUp lan p ip = s₃ := by
    rw [handleIfaceUp, hfind]
    simp only [hnew, if_true, ← hs₁, hs₂, hs₃]
  have hskel : (s.handleIfaceUp lan p ip).skel = s.skel.assign a ip := by
    rw [hrun, hskel₃, hskel₂, hskel₁]
  refine ⟨⟨hskel ▸ H.topo.assign, ?_⟩, hskel⟩
  rw [hskel, hrun]
  have hclients₁ : ∀ b, (s₁.node b).clientInfo = (s.skel.node b).clientInfo := fun b => by
    rw [hnode b]
    rfl
  have hclients₂ : ∀ b, (s₂.node b).clientInfo = (s.skel.node b).clientInfo := fun b => by
    rw [skel_clientInfo hskel₂, hclients₁]
  have hintra₂ : (s₂.node a).supportIntraIfaceOffload =
      (s.skel.node a).supportIntraIfaceOffload := by
    rw [skel_intra hskel₂, hnode a]
    rfl
  refine H₃.congr ⟨fun x _ p _ c ip' => ?_, fun x _ c ip' => ?_, fun x _ c _ t => ?_,
    fun x _ c _ => ?_, fun x _ t => ?_, fun x _ => ?_⟩
  · simp only [hF₂, Skeleton.need, Skeleton.assign_iff, hclients₁]
    rw [Skeleton.assign_node p]
    tauto
  · simp only [hF₂, Skeleton.need, Skeleton.assign_iff, hclients₂, hintra₂]
    rw [Skeleton.assign_node x]
    constructor
    · rintro (⟨h, h', h''⟩ | ⟨rfl, h, h', rfl⟩)
      · exact ⟨h, h', Or.inl h''⟩
      · exact ⟨h, h', Or.inr ⟨rfl, rfl⟩⟩
    · rintro ⟨h, h', h'' | ⟨rfl, rfl⟩⟩
      · exact Or.inl ⟨h, h', h''⟩
      · exact Or.inr ⟨rfl, h, h', rfl⟩
  · simp only [hF₂, Skeleton.need, Skeleton.assign_peers, Skeleton.assign_l2]
    rw [Skeleton.assign_node x]
  · simp only [hF₂, Skeleton.need]
    rw [Skeleton.assign_node x]
  · simp only [hF₂, Skeleton.need, Skeleton.assign_peers, Skeleton.assign_l2]
  · simp only [hF₂, Skeleton.need]
    rw [Skeleton.assign_node x]

end LanToLan

/-! ## A new interface -/

namespace Skeleton

variable {lan : ℕ → LanProps} {k k' : Skeleton} {a b c p : ℕ} {ip : IpType}

/-- The interface of an `IPACM_Lan` has joined the topology at `a`. -/
structure Joined (lan : ℕ → LanProps) (k k' : Skeleton) (a p : ℕ) (ip : IpType) : Prop where
  iface : k'.iface = a :: k.iface
  cached : k'.cached = k.cached
  mac : k'.mac = k.mac
  old : ∀ x ∈ k.iface, k'.node x = { k.node x with
    refCntPeerL2HdrType := (k'.node x).refCntPeerL2HdrType
    peerIfaceInfo := (k'.node x).peerIfaceInfo }
  new : k'.node a = { LanToLan.newIface lan p ip with
    refCntPeerL2HdrType := (k'.node a).refCntPeerL2HdrType
    peerIfaceInfo := (k'.node a).peerIfaceInfo
    intraInterfaceInfo := (k'.node a).intraInterfaceInfo }
  counted : k'.Counted lan
  peers_new : ∀ b, b ∈ k'.peers a ↔ b ∈ k.iface ∧
    (k.node b).supportInterIfaceOffload = true ∧ (k'.node a).supportInterIfaceOffload = true
  peers_old : ∀ x ∈ k.iface, ∀ b, b ∈ k'.peers x ↔ b ∈ k.peers x ∨ (b = a ∧
    (k.node x).supportInterIfaceOffload = true ∧ (k'.node a).supportInterIfaceOffload = true)
  intraOk : (k'.node a).supportIntraIfaceOffload = true → k'.IntraOk a

/-- **A new interface keeps the skeleton consistent.** -/
lemma Topo.joined (T : k.Topo lan) (J : Joined lan k k' a p ip) (ha : a ∉ k.iface)
    (hp : ∀ x ∈ k.iface, (k.node x).pIface ≠ p) : k'.Topo lan := by
  have hold : ∀ x ∈ k.iface, (k'.node x).pIface = (k.node x).pIface ∧
      (k'.node x).supportInterIfaceOffload = (k.node x).supportInterIfaceOffload ∧
      (k'.node x).supportIntraIfaceOffload = (k.node x).supportIntraIfaceOffload ∧
      (k'.node x).clientInfo = (k.node x).clientInfo ∧
      (k'.node x).intraInterfaceInfo = (k.node x).intraInterfaceInfo := by
    intro x hx
    rw [J.old x hx]
    exact ⟨rfl, rfl, rfl, rfl, rfl⟩
  have hnew : (k'.node a).pIface = p := by rw [J.new]; rfl
  have hmem : ∀ {x}, x ∈ k'.iface → x = a ∨ x ∈ k.iface := fun h => List.mem_cons.mp (J.iface ▸ h)
  have hne : ∀ x ∈ k.iface, x ≠ a := fun x hx h => ha (h ▸ hx)
  refine ⟨fun x hx y hy heq => ?_, fun x hx => ?_, fun x hx => ?_, fun x hx b => ?_,
    J.counted.names, J.counted.ref, fun x hx hon => ?_, fun x hx => ?_⟩
  · rcases hmem hx with rfl | hx <;> rcases hmem hy with rfl | hy
    · rfl
    · exact absurd ((hold y hy).1.symm.trans (heq.symm.trans hnew)) (hp y hy)
    · exact absurd ((hold x hx).1.symm.trans (heq.trans hnew)) (hp x hx)
    · rw [(hold x hx).1, (hold y hy).1] at heq
      exact T.pIface x hx y hy heq
  · rcases hmem hx with rfl | hx
    · rw [hnew, J.new]
      rfl
    · rw [(hold x hx).1, (hold x hx).2.1]
      exact T.inter x hx
  · rcases hmem hx with rfl | hx
    · rw [hnew, J.new]
      rfl
    · rw [(hold x hx).1, (hold x hx).2.2.1]
      exact T.intra x hx
  · rw [J.iface, List.mem_cons]
    rcases hmem hx with rfl | hx
    · rw [J.peers_new]
      constructor
      · rintro ⟨hb, hib, hia⟩
        exact ⟨Or.inr hb, hne b hb, hia, (hold b hb).2.1.trans hib⟩
      · rintro ⟨hb, hba, hia, hib⟩
        have hb' := hb.resolve_left hba
        exact ⟨hb', (hold b hb').2.1.symm.trans hib, hia⟩
    · rw [J.peers_old x hx, T.peers x hx, (hold x hx).2.1]
      constructor
      · rintro (⟨hb, hbx, hix, hib⟩ | ⟨rfl, hix, hib⟩)
        · exact ⟨Or.inr hb, hbx, hix, (hold b hb).2.1.trans hib⟩
        · exact ⟨Or.inl rfl, (hne x hx).symm, hix, hib⟩
      · rintro ⟨rfl | hb, hbx, hix, hib⟩
        · exact Or.inr ⟨rfl, hix, hib⟩
        · exact Or.inl ⟨hb, hbx, hix, (hold b hb).2.1.symm.trans hib⟩
  · rcases hmem hx with rfl | hx
    · exact J.intraOk hon
    · rw [(hold x hx).2.2.1] at hon
      rw [IntraOk, (hold x hx).2.2.2.2]
      exact T.intraInfo x hx hon
  · rw [J.mac]
    rcases hmem hx with rfl | hx
    · rw [J.new]
      exact List.nodup_nil
    · rw [(hold x hx).2.2.2.1]
      exact T.macs x hx

end Skeleton

namespace LanToLan

variable {lan : ℕ → LanProps} {s t : LanToLan} {a b c p x : ℕ} {F : Cells} {ip : IpType}

lemma findIface_some (h : s.findIface p = some a) : a ∈ s.iface ∧ (s.node a).pIface = p :=
  ⟨List.mem_of_find?_eq_some h, by simpa using List.find?_some h⟩

lemma findIface_none (h : s.findIface p = none) : ∀ x ∈ s.iface, (s.node x).pIface ≠ p := by
  intro x hx
  simpa using List.find?_eq_none.mp h x hx

/-- `handle_iface_up` of a new interface at `a`, up to the clients that are waiting. -/
def joinIface (lan : ℕ → LanProps) (s : LanToLan) (a p : ℕ) (ip : IpType) : LanToLan :=
  let old := s.iface
  let s := { s with
    iface := a :: s.iface
    node := Function.update s.node a (newIface lan p ip)
    alloc := fun n => s.alloc (n + 1) }
  let s :=
    if (s.node a).supportInterIfaceOffload then
      (old.foldl (fun s b => linkPass lan a b s) s).addAllInterInterfaceClientFltRule a ip
    else s
  if (s.node a).supportIntraIfaceOffload then s.handleIntraInterfaceInfo lan a else s

/-- **The new interface is in the list**, without peers and clients. -/
lemma Ok.pushIface (H : s.Ok lan) (ha : a ∉ s.iface)
    (ht : t = { s with
      iface := a :: s.iface, node := Function.update s.node a (newIface lan p ip)
      alloc := t.alloc }) :
    Filled lan (t.skel.needBut lan a) t ∧ t.skel.Counted lan := by
  have hiface : t.skel.iface = a :: s.iface := by rw [ht]; rfl
  have hself : t.skel.node a = newIface lan p ip := by
    rw [ht]
    show (Function.update s.node a _ a).bare = _
    rw [Function.update_self]
    rfl
  have hne : ∀ x, x ≠ a → t.skel.node x = s.skel.node x := by
    intro x hx
    rw [ht]
    show (Function.update s.node a _ x).bare = _
    rw [Function.update_of_ne hx]
    rfl
  have hold : ∀ x ∈ s.iface, x ≠ a := fun x hx h => ha (h ▸ hx)
  have hpeers : ∀ x ∈ s.iface, t.skel.peers x = s.skel.peers x := by
    intro x hx
    rw [Skeleton.peers, hne x (hold x hx)]
    rfl
  have hpeersa : t.skel.peers a = [] := by
    rw [Skeleton.peers, hself]
    rfl
  have hl2 : ∀ x ∈ s.iface, t.skel.l2 lan x = s.skel.l2 lan x := by
    intro x hx
    rw [Skeleton.l2, hne x (hold x hx)]
    rfl
  -- a peer is not the new interface
  have hmem : ∀ x ∈ s.iface, ∀ b ∈ s.skel.peers x, b ∈ s.iface := fun x hx b hb =>
    ((H.topo.peers x hx b).mp hb).1
  constructor
  · refine Filled.pushIface (F := t.skel.needBut lan a) (H.filled.congr
      ⟨fun x hx b hb c ip' => ?_, fun x hx c ip' => ?_, fun x hx c _ t' => ?_, fun x hx c _ => ?_,
        fun x hx t' => ?_, fun x hx => ?_⟩) ha ht rfl rfl rfl (fun c ip' h => ?_) (fun t' h => ?_)
      fun h => h.1 rfl
    · rw [← peers_eq] at hb
      simp only [Skeleton.needBut, Skeleton.need, hne x (hold x hx),
        hne b (hold b (hmem x hx b hb))]
      exact ⟨fun h => ⟨hold x hx, h⟩, And.right⟩
    · simp only [Skeleton.needBut, Skeleton.need, hne x (hold x hx)]
    · simp only [Skeleton.needBut, Skeleton.need, hne x (hold x hx), hpeers x hx]
      refine and_congr_right fun _ => exists_congr fun b => and_congr_right fun hb => ?_
      rw [hl2 b (hmem x hx b hb)]
    · simp only [Skeleton.needBut, Skeleton.need, hne x (hold x hx)]
    · simp only [Skeleton.needBut, Skeleton.need, hpeers x hx]
      refine exists_congr fun b => and_congr_right fun hb => ?_
      rw [hl2 b (hmem x hx b hb)]
    · simp only [Skeleton.needBut, Skeleton.need, hne x (hold x hx)]
      exact ⟨fun h => ⟨hold x hx, h⟩, And.right⟩
    · have hc : c ∈ (t.skel.node a).clientInfo := h.2.1
      rw [hself] at hc
      exact List.not_mem_nil hc
    · obtain ⟨b, hb, -⟩ := h
      rw [hpeersa] at hb
      exact List.not_mem_nil hb
  · refine ⟨fun x hx q hq => ?_, fun x hx t' => ?_⟩
    · rw [hiface, List.mem_cons] at hx
      rcases hx with rfl | hx
      · rw [hself] at hq
        exact absurd hq List.not_mem_nil
      · rw [hne x (hold x hx)] at hq
        rw [hl2 x hx, hl2 q.peer (hmem x hx _ (List.mem_map_of_mem hq))]
        exact H.topo.names x hx q hq
    · rw [hiface, List.mem_cons] at hx
      rcases hx with rfl | hx
      · rw [hself, hpeersa]
        rfl
      · rw [hne x (hold x hx), hpeers x hx, H.topo.ref x hx]
        congr 1
        refine List.countP_congr fun b hb => ?_
        rw [hl2 b (hmem x hx b hb)]

variable (ip) in
/-- **The new interface is linked**, and has filter rules for the clients of its peers. -/
lemma Ok.linkIface (H : s.Ok lan) (ha : a ∉ s.iface)
    (ht : t = { s with
      iface := a :: s.iface, node := Function.update s.node a (newIface lan p ip)
      alloc := t.alloc }) :
    ∃ u, (if (t.node a).supportInterIfaceOffload then
        (s.iface.foldl (fun s b => linkPass lan a b s) t).addAllInterInterfaceClientFltRule a ip
      else t) = u ∧ t.skel.SameButPeers u.skel ∧ u.skel.Counted lan ∧
      (∀ b, b ∈ u.skel.peers a ↔ b ∈ s.iface ∧ (s.node b).supportInterIfaceOffload = true ∧
        (t.node a).supportInterIfaceOffload = true) ∧
      (∀ x ∈ s.iface, ∀ b, b ∈ u.skel.peers x ↔ b ∈ s.skel.peers x ∨ (b = a ∧
        (s.node x).supportInterIfaceOffload = true ∧
        (t.node a).supportInterIfaceOffload = true)) ∧
      Filled lan { u.skel.need lan with
        ctxIntra := fun x => x ≠ a ∧ (u.skel.need lan).ctxIntra x } u := by
  obtain ⟨H₁, C₁⟩ := H.pushIface ha ht
  have hiface : t.iface = a :: s.iface := by rw [ht]
  have hself : t.node a = newIface lan p ip := by
    rw [ht]
    exact Function.update_self ..
  have hne : ∀ x ∈ s.iface, t.node x = s.node x := by
    intro x hx
    have hxa : x ≠ a := fun h => ha (h ▸ hx)
    rw [ht]
    exact Function.update_of_ne hxa ..
  have hpeersa : t.skel.peers a = [] := by
    rw [peers_eq, hself]
    rfl
  have hpeers : ∀ x ∈ s.iface, t.skel.peers x = s.skel.peers x := by
    intro x hx
    rw [peers_eq, peers_eq, hne x hx]
  have hat : a ∈ t.iface := hiface ▸ List.mem_cons_self
  have hassigned : ∀ ip', (t.skel.node a).isIpAddrAssigned ip' = true ↔ ip' = ip := by
    intro ip'
    show (t.node a).isIpAddrAssigned ip' = true ↔ _
    rw [hself]
    show Function.update (fun _ => false) ip true ip' = true ↔ _
    rcases eq_or_ne ip' ip with rfl | h
    · simp
    · simp [h]
  split_ifs with hinter
  · obtain ⟨L, C, Hl⟩ := link_loop C₁ H₁ hat (by rw [hself]; rfl) hpeersa H.filled.iface
      fun b hb => ⟨hiface ▸ List.mem_cons_of_mem _ hb, fun h => ha (h ▸ hb), fun h => by
        rw [hpeers b hb] at h
        exact ha ((H.topo.peers b hb a).mp h).1⟩
    set u := s.iface.foldl (fun s b => linkPass lan a b s) t with hu
    have hau : a ∈ u.iface := by
      have hsame : u.iface = t.iface := L.same.iface
      rw [hsame]
      exact hat
    have hpeersu : ∀ b, b ∈ u.skel.peers a ↔ b ∈ s.iface ∧
        (s.node b).supportInterIfaceOffload = true := by
      intro b
      rw [L.peers_self, hpeersa]
      constructor
      · rintro (h | ⟨hb, h⟩)
        · exact absurd h List.not_mem_nil
        · exact ⟨hb, (congrArg LanToLanIface.supportInterIfaceOffload (hne b hb)).symm.trans h⟩
      · rintro ⟨hb, h⟩
        exact Or.inr ⟨hb, (congrArg LanToLanIface.supportInterIfaceOffload (hne b hb)).trans h⟩
    obtain ⟨H', hskel⟩ := Hl.addAllInter hau ip
      (fun q hq => by
        have hsame : u.iface = t.iface := L.same.iface
        rw [hsame, hiface]
        exact List.mem_cons_of_mem _ ((hpeersu q.peer).mp (mem_peers hq)).1)
      fun q _ c h => h.1 rfl
    refine ⟨_, rfl, hskel ▸ L.same, hskel ▸ C, fun b => ?_, fun x hx b => ?_, H'.congr ?_⟩
    · rw [hskel, hpeersu]
      simp [hinter]
    · rw [hskel, L.peers_ne x (fun h => ha (h ▸ hx)), hpeers x hx]
      have hx' : (t.skel.node x).supportInterIfaceOffload =
          (s.node x).supportInterIfaceOffload := by
        show (t.node x).supportInterIfaceOffload = _
        rw [hne x hx]
      rw [hx']
      simp [hinter, hx]
    · rw [hskel]
      refine ⟨fun x _ q _ c ip' => ?_, fun _ _ _ _ => Iff.rfl, fun _ _ _ _ _ => Iff.rfl,
        fun _ _ _ _ => Iff.rfl, fun _ _ _ => Iff.rfl, fun _ _ => Iff.rfl⟩
      simp only [Skeleton.needBut, Skeleton.need]
      rcases eq_or_ne x a with rfl | hx
      · have hass : (u.skel.node x).isIpAddrAssigned ip' = true ↔ ip' = ip := by
          rw [L.same.assigned]
          exact hassigned ip'
        rw [hass]
        simp only [ne_eq, not_true_eq_false, false_and, false_or, true_and]
        rfl
      · simp [hx]
  · refine ⟨t, rfl, .rfl', C₁, fun b => ?_, fun x hx b => ?_, H₁.congr ?_⟩
    · rw [hpeersa]
      simp [hinter]
    · rw [hpeers x hx]
      simp [hinter]
    · refine ⟨fun x _ q hq c ip' => ?_, fun _ _ _ _ => Iff.rfl, fun _ _ _ _ _ => Iff.rfl,
        fun _ _ _ _ => Iff.rfl, fun _ _ _ => Iff.rfl, fun _ _ => Iff.rfl⟩
      rcases eq_or_ne x a with rfl | hx
      · rw [← peers_eq, hpeersa] at hq
        exact absurd hq List.not_mem_nil
      · simp [Skeleton.needBut, hx]

variable (ip) in
/-- **A new interface has joined**, and everything is as the topology needs it. -/
lemma Ok.joinIface (H : s.Ok lan) (ha : a ∉ s.iface) (hp : ∀ x ∈ s.iface, (s.node x).pIface ≠ p) :
    (joinIface lan s a p ip).Ok lan ∧
      Skeleton.Joined lan s.skel (joinIface lan s a p ip).skel a p ip := by
  set s₁ : LanToLan := { s with
    iface := a :: s.iface
    node := Function.update s.node a (newIface lan p ip)
    alloc := fun n => s.alloc (n + 1) } with hs₁
  obtain ⟨s₂, hs₂, hsame, C₂, hnew, hold, H₂⟩ := H.linkIface (t := s₁) (p := p) ip ha rfl
  have hself : s₁.skel.node a = newIface lan p ip := by
    show (Function.update s.node a _ a).bare = _
    rw [Function.update_self]
    rfl
  have hne : ∀ x ∈ s.iface, s₁.skel.node x = s.skel.node x := by
    intro x hx
    have hxa : x ≠ a := fun h => ha (h ▸ hx)
    show (Function.update s.node a _ x).bare = _
    rw [Function.update_of_ne hxa]
    rfl
  have hclients₂ : (s₂.node a).clientInfo = [] := by
    have h := hsame.clientInfo a
    rw [hself] at h
    exact h
  have ha₂ : a ∈ s₂.iface := by
    have hiface : s₂.iface = s₁.iface := hsame.iface
    rw [hiface]
    exact List.mem_cons_self
  -- the information about the interface itself
  obtain ⟨s₃, hs₃, hskel₃, H₃⟩ : ∃ s₃, (if (s₂.node a).supportIntraIfaceOffload then
        s₂.handleIntraInterfaceInfo lan a else s₂) = s₃ ∧
      s₃.skel = (s₂.skel.modNode a fun n =>
        { n with intraInterfaceInfo := (s₃.skel.node a).intraInterfaceInfo }) ∧
      ((s₂.node a).supportIntraIfaceOffload = true → s₃.skel.IntraOk a) ∧
      Filled lan (s₂.skel.need lan) s₃ := by
    split_ifs with hintra
    · set intra : PeerIfaceInfo := { (s₂.skel.node a).intraInterfaceInfo with
        peer := a, rtTblNameForFlt := intraTblName, rtTblNameForRt := intraTblName } with hinfo
      have hskel : (s₂.handleIntraInterfaceInfo lan a).skel =
          s₂.skel.modNode a fun n => { n with intraInterfaceInfo := { n.intraInterfaceInfo with
            peer := a, rtTblNameForFlt := intraTblName, rtTblNameForRt := intraTblName } } :=
        skel_modNode fun _ => rfl
      have hnode : (s₂.handleIntraInterfaceInfo lan a).skel.node a =
          { s₂.skel.node a with intraInterfaceInfo := intra } := by
        rw [hskel, Skeleton.modNode_self]
      refine ⟨_, rfl, ?_, fun _ => ?_, (H₂.handleIntraInterfaceInfo ha₂ hclients₂
        (fun c ip' h => ?_) fun h => h.1 rfl).congr ⟨fun _ _ _ _ _ _ => Iff.rfl,
          fun _ _ _ _ => Iff.rfl, fun _ _ _ _ _ => Iff.rfl, fun _ _ _ _ => Iff.rfl,
          fun x _ t' => ?_, fun x _ => ?_⟩⟩
      · rw [hnode, hskel]
        rfl
      · rw [Skeleton.IntraOk, hnode]
        exact ⟨rfl, rfl, rfl⟩
      · have hc : c ∈ (s₂.node a).clientInfo := h.2.1
        rw [hclients₂] at hc
        exact List.not_mem_nil hc
      · rw [Cells.setCtx_iff]
        grind
      · rw [Cells.setCtx_intra_iff]
        have hon : (s₂.skel.need lan).ctxIntra a := hintra
        grind
    · refine ⟨s₂, rfl, (skel_modNode_eq_self rfl).symm, fun h => absurd h hintra,
        H₂.congr ⟨fun _ _ _ _ _ _ => Iff.rfl, fun _ _ _ _ => Iff.rfl, fun _ _ _ _ _ => Iff.rfl,
          fun _ _ _ _ => Iff.rfl, fun _ _ _ => Iff.rfl, fun x _ => ?_⟩⟩
      have hoff : ¬ (s₂.skel.need lan).ctxIntra a := hintra
      grind
  obtain ⟨hintraOk, H₃⟩ := H₃
  have hrun : LanToLan.joinIface lan s a p ip = s₃ := by
    rw [← hs₃, ← hs₂]
    rfl
  have hnode : ∀ x, s₃.skel.node x = { s₂.skel.node x with
      intraInterfaceInfo := (s₃.skel.node x).intraInterfaceInfo } := by
    intro x
    rcases eq_or_ne x a with rfl | hx
    · conv_lhs => rw [hskel₃, Skeleton.modNode_self]
    · rw [hskel₃, Skeleton.modNode_ne hx]
  have hpeers : ∀ x, s₃.skel.peers x = s₂.skel.peers x := fun x => by
    rw [Skeleton.peers, hnode]
    rfl
  have hl2 : ∀ x, s₃.skel.l2 lan x = s₂.skel.l2 lan x := fun x => by
    rw [Skeleton.l2, hnode]
    rfl
  have hinter : (s₃.skel.node a).supportInterIfaceOffload =
      (s₁.skel.node a).supportInterIfaceOffload := by
    rw [hnode, ← hsame.inter]
  have hiface : s₃.skel.iface = a :: s.skel.iface := by
    rw [hskel₃]
    exact hsame.iface
  have J : Skeleton.Joined lan s.skel s₃.skel a p ip := by
    refine ⟨hiface, ?_, ?_, fun x hx => ?_, ?_, ⟨fun x hx q hq => ?_, fun x hx t' => ?_⟩,
      fun b => ?_, fun x hx b => ?_, fun hon => ?_⟩
    · rw [hskel₃]
      exact hsame.cached
    · rw [hskel₃]
      exact hsame.mac
    · have hxa : x ≠ a := fun h => ha (h ▸ hx)
      rw [hskel₃, Skeleton.modNode_ne hxa, hsame.node x, hne x hx]
    · rw [hnode, hsame.node a, hself]
    · rw [hnode] at hq
      rw [hl2, hl2]
      exact C₂.names x (by rw [hskel₃] at hx; exact hx) q hq
    · rw [hpeers, hnode]
      simp only [hl2]
      exact C₂.ref x (by rw [hskel₃] at hx; exact hx) t'
    · rw [hpeers, hnew, hinter]
      rfl
    · rw [hpeers, hold x hx, hinter]
      rfl
    · rw [hnode] at hon
      exact hintraOk hon
  rw [hrun]
  refine ⟨⟨H.topo.joined J ha hp, H₃.congr ⟨fun x _ q _ c ip' => ?_, fun x _ c ip' => ?_,
    fun x _ c _ t' => ?_, fun x _ c _ => ?_, fun x _ t' => ?_, fun x _ => ?_⟩⟩, J⟩
  · simp only [Skeleton.need]
    rw [hnode x, hnode q]
  · simp only [Skeleton.need]
    rw [hnode x]
  · simp only [Skeleton.need, hpeers, hl2]
    rw [hnode x]
  · simp only [Skeleton.need]
    rw [hnode x]
  · simp only [Skeleton.need, hpeers, hl2]
  · simp only [Skeleton.need]
    rw [hnode x]

end LanToLan

end Ipacm
