import OcnDevice.Ipacm.LanToLan.Fill

/-!
# The lists grow and shrink

What joins a list has no handles yet, and what leaves one has none any more; so cells stay filled as they
were while interfaces, clients and the information about peers come and go.
-/

namespace Ipacm

namespace LanToLan

variable {lan : ℕ → LanProps} {F : Cells} {s : LanToLan} {a b c p : ℕ}

lemma FltOk_nil_of_none {D : ℕ → IpType → Prop} {l : List FltRuleInfo} (h : FltOk D l)
    (hD : ∀ c ip, ¬ D c ip) : l = [] := by
  cases l with
  | nil => rfl
  | cons f l =>
      obtain ⟨ip, hip⟩ := h.used f List.mem_cons_self
      exact absurd hip (hD _ ip)

lemma held_of_nil {q : PeerIfaceInfo} {mac : ℕ → Mac} (hq : q.fltRule = []) :
    q.held p mac = 0 := by
  simp [PeerIfaceInfo.held, PeerIfaceInfo.heldBy, hq]

/-! ## Peers -/

/-- The list of peers changes by entries without rules. -/
lemma Filled.setPeers (H : Filled lan F s) (ha : a ∈ s.iface) {l : List PeerIfaceInfo}
    (hl : (l.map (·.peer)).Nodup)
    (hnew : ∀ q ∈ l, q ∈ (s.node a).peerIfaceInfo ∨
      q.fltRule = [] ∧ ∀ c ip, ¬ F.flt a q.peer c ip)
    (hheld : (l.map fun q => q.held (s.node a).pIface s.mac).sum =
      ((s.node a).peerIfaceInfo.map fun q => q.held (s.node a).pIface s.mac).sum) :
    Filled lan F (s.modNode a fun n => { n with peerIfaceInfo := l }) := by
  refine H.ofFlt ha (n := { s.node a with peerIfaceInfo := l }) rfl rfl hl rfl
    (fun _ _ => ⟨rfl, rfl⟩) (fun q hq => ?_) (H.fltIntra a ha) fun G hG => ?_
  · rcases hnew q hq with h | ⟨h, hoff⟩
    · exact H.flt a ha q h
    · rw [h]
      exact .nil hoff
  · refine hG.of_eq ?_
    rw [LanToLanIface.heldFlt, LanToLanIface.heldFlt]
    show _ = G + ((l.map fun q => q.held (s.node a).pIface s.mac).sum + _)
    rw [hheld]

/-- **A peer joins the list.** -/
lemma Filled.pushPeer (H : Filled lan F s) (ha : a ∈ s.iface) {q : PeerIfaceInfo}
    (hq : q.fltRule = []) (hnot : ∀ r ∈ (s.node a).peerIfaceInfo, r.peer ≠ q.peer)
    (hoff : ∀ c ip, ¬ F.flt a q.peer c ip) :
    Filled lan F (s.modNode a fun n => { n with peerIfaceInfo := q :: n.peerIfaceInfo }) := by
  refine H.setPeers ha (l := q :: (s.node a).peerIfaceInfo) ?_ (fun r hr => ?_) ?_
  · rw [List.map_cons, List.nodup_cons]
    refine ⟨fun hmem => ?_, H.peers a ha⟩
    obtain ⟨r, hr, hrq⟩ := List.mem_map.mp hmem
    exact hnot r hr hrq
  · rcases List.mem_cons.mp hr with rfl | hr
    · exact Or.inr ⟨hq, hoff⟩
    · exact Or.inl hr
  · rw [List.map_cons, List.sum_cons, held_of_nil hq, zero_add]

/-- **A peer leaves the list.** -/
lemma Filled.erasePeer (H : Filled lan F s) (ha : a ∈ s.iface)
    (hoff : ∀ c ip, ¬ F.flt a p c ip) :
    Filled lan F (s.modNode a fun n =>
      { n with peerIfaceInfo := n.peerIfaceInfo.eraseP fun q => q.peer = p }) := by
  refine H.setPeers ha (l := (s.node a).peerIfaceInfo.eraseP fun q => q.peer = p) ?_
    (fun q hq => Or.inl (List.mem_of_mem_eraseP hq)) ?_
  · exact (H.peers a ha).sublist (List.eraseP_sublist.map _)
  · by_cases hmem : ∃ q ∈ (s.node a).peerIfaceInfo, q.peer = p
    · obtain ⟨q, hq, rfl⟩ := hmem
      obtain ⟨r, l₁, l₂, -, hr, heq, herase⟩ :=
        List.exists_of_eraseP (p := fun r => decide (r.peer = q.peer)) hq (by simp)
      have hrp : r.peer = q.peer := of_decide_eq_true hr
      have hmem : r ∈ (s.node a).peerIfaceInfo := by rw [heq]; simp
      have hnil : r.fltRule = [] :=
        FltOk_nil_of_none (H.flt a ha r hmem) (by rw [hrp]; exact hoff)
      rw [herase, heq]
      simp [held_of_nil hnil]
    · have hnone : (s.node a).peerIfaceInfo.eraseP (fun q => q.peer = p) =
          (s.node a).peerIfaceInfo := by
        refine List.eraseP_of_forall_not fun q hq => ?_
        simpa using fun h => hmem ⟨q, hq, h⟩
      rw [hnone]

/-- **The list of peers is cleared.** -/
lemma Filled.clearPeers (H : Filled lan F s) (ha : a ∈ s.iface)
    (hoff : ∀ q ∈ (s.node a).peerIfaceInfo, ∀ c ip, ¬ F.flt a q.peer c ip) :
    Filled lan F (s.modNode a fun n => { n with peerIfaceInfo := [] }) := by
  refine H.setPeers ha (l := []) List.nodup_nil (by simp) ?_
  have hzero : ∀ q ∈ (s.node a).peerIfaceInfo, q.held (s.node a).pIface s.mac = 0 := fun q hq =>
    held_of_nil (FltOk_nil_of_none (H.flt a ha q hq) (hoff q hq))
  rw [List.map_nil, List.sum_nil, List.sum_eq_zero]
  intro x hx
  obtain ⟨q, hq, rfl⟩ := List.mem_map.mp hx
  exact hzero q hq

/-- **The information about the interface itself is filled in**, while it has no clients. -/
lemma Filled.handleIntraInterfaceInfo (H : Filled lan F s) (ha : a ∈ s.iface)
    (hclients : (s.node a).clientInfo = []) (hflt : ∀ c ip, ¬ F.fltIntra a c ip)
    (hctx : ¬ F.ctxIntra a) :
    Filled lan (F.setCtx a (F.ctx a) True) (s.handleIntraInterfaceInfo lan a) := by
  set intra : PeerIfaceInfo := { (s.node a).intraInterfaceInfo with
    peer := a, rtTblNameForFlt := intraTblName, rtTblNameForRt := intraTblName } with hintra
  have hnil : intra.fltRule = [] := FltOk_nil_of_none (H.fltIntra a ha) hflt
  set n : LanToLanIface := { s.node a with intraInterfaceInfo := intra } with hn
  set t := s.modNode a fun _ => n with ht
  have hna : t.node a = n := modNode_self _
  have H' : Filled lan F t := by
    refine H.ofFlt ha (n := n) rfl rfl (H.peers a ha) rfl (fun _ _ => ⟨rfl, rfl⟩)
      (fun q hq => H.flt a ha q hq) (H.fltIntra a ha) fun G hG => hG.of_eq ?_
    rw [LanToLanIface.heldFlt, LanToLanIface.heldFlt, held_of_nil hnil,
      held_of_nil (FltOk_nil_of_none (H.fltIntra a ha) hflt)]
  set r := s.ctx.install (n.ctxFor lan (lan n.pIface).hdrL2Type) with hr
  set n' : LanToLanIface := { n with hdrProcCtxForIntraInterface := r.1 } with hn'
  have hrun : s.handleIntraInterfaceInfo lan a =
      { t with ctx := r.2, node := Function.update t.node a n' } := by
    have hnode : Function.update t.node a n' = Function.update s.node a n' :=
      Function.update_idem ..
    rw [hnode]
    rfl
  rw [hrun]
  refine (H'.ofCtx ha (n := n') rfl (by rw [hna]) (fun c hc => ?_) fun G hG => ?_).1
  · rw [hna] at hc
    exact absurd hc (by simp [hn, hclients])
  · rw [hna, LanToLanIface.heldCtx, ctxCell_neg hctx, add_zero] at hG
    rw [LanToLanIface.heldCtx, ctxCell_pos trivial, ← add_assoc]
    exact hG.install

/-- **The context of the interface for itself is deleted.** -/
lemma Filled.delIntraCtx (H : Filled lan F s) (ha : a ∈ s.iface) (hctx : F.ctxIntra a) :
    Filled lan (F.setCtx a (F.ctx a) False)
        { s with ctx := s.ctx.remove (s.node a).hdrProcCtxForIntraInterface } ∧
      ({ s with ctx := s.ctx.remove (s.node a).hdrProcCtxForIntraInterface } :
        LanToLan).skel = s.skel := by
  refine H.ofCtx ha (n := s.node a) (by rw [Function.update_eq_self]) rfl (fun _ _ => rfl)
    fun G hG => ?_
  rw [LanToLanIface.heldCtx, ctxCell_pos hctx, ← add_assoc] at hG
  rw [LanToLanIface.heldCtx, ctxCell_neg id, add_zero]
  exact hG.remove

/-! ## Interfaces -/

/-- The routing rules, interface by interface. -/
lemma heldRt_eq : s.heldRt lan = (s.iface.map fun a =>
    ((s.node a).clientInfo.map fun c => (s.client c).held lan (s.node a)).sum).sum := by
  rw [heldRt, owned]
  induction s.iface with
  | nil => rfl
  | cons a l ih =>
      rw [List.flatMap_cons, List.map_append, List.sum_append, ih, List.map_cons, List.sum_cons,
        List.map_map]
      rfl

/-- **An interface joins the list.** -/
lemma Filled.pushIface (H : Filled lan F s) (ha : a ∉ s.iface) {n : LanToLanIface} {t : LanToLan}
    (ht : t = { s with
      iface := a :: s.iface, node := Function.update s.node a n, alloc := t.alloc })
    (hclients : n.clientInfo = []) (hpeers : n.peerIfaceInfo = [])
    (hintra : n.intraInterfaceInfo.fltRule = []) (hflt : ∀ c ip, ¬ F.fltIntra a c ip)
    (hctx : ∀ t, ¬ F.ctx a t) (hctxIntra : ¬ F.ctxIntra a) : Filled lan F t := by
  have hiface : t.iface = a :: s.iface := by rw [ht]
  have hclient : t.client = s.client := by rw [ht]
  have hupd : t.node = Function.update s.node a n := by rw [ht]
  have hself : t.node a = n := by rw [hupd, Function.update_self]
  have hnode : ∀ b ∈ s.iface, t.node b = s.node b := by
    intro b hb
    rw [hupd, Function.update_of_ne]
    rintro rfl
    exact ha hb
  have hmac : t.mac = s.mac := by
    show (fun c => (t.client c).macAddr) = _
    rw [hclient]
    rfl
  have hcl : t.clients = s.clients := by
    rw [LanToLan.clients, hiface, List.flatMap_cons, hself, hclients, List.nil_append]
    exact List.flatMap_congr fun b hb => by rw [hnode b hb]
  refine ⟨by rw [hiface]; exact List.nodup_cons.mpr ⟨ha, H.iface⟩, hcl ▸ H.clients,
    ?_, ?_, ?_, ?_, ?_, ?_, ?_⟩
  · intro b hb
    rw [hiface, List.mem_cons] at hb
    rcases hb with rfl | hb
    · rw [hself, hpeers]
      exact List.nodup_nil
    · rw [hnode b hb]
      exact H.peers b hb
  · intro b hb peer hp
    rw [hiface, List.mem_cons] at hb
    rcases hb with rfl | hb
    · rw [hself, hpeers] at hp
      exact absurd hp (List.not_mem_nil)
    · rw [hnode b hb] at hp
      exact H.flt b hb peer hp
  · intro b hb
    rw [hiface, List.mem_cons] at hb
    rcases hb with rfl | hb
    · rw [hself, hintra]
      exact .nil hflt
    · rw [hnode b hb]
      exact H.fltIntra b hb
  · intro b hb c hc
    rw [hiface, List.mem_cons] at hb
    rcases hb with rfl | hb
    · rw [hself, hclients] at hc
      exact absurd hc (List.not_mem_nil)
    · rw [hnode b hb] at hc
      rw [hnode b hb, hclient]
      exact H.rt b hb c hc
  · have hbank : t.flt = s.flt := by rw [ht]
    have hzero : n.heldFlt s.mac = 0 := by
      rw [LanToLanIface.heldFlt, hpeers, held_of_nil hintra]
      rfl
    rw [hbank]
    refine H.heldFlt.of_eq ?_
    rw [LanToLan.heldFlt, LanToLan.heldFlt, hiface, List.map_cons, List.sum_cons, hself, hmac,
      hzero, zero_add]
    congr 1
    exact List.map_congr_left fun b hb => by rw [hnode b hb]
  · have hbank : t.rt = s.rt := by rw [ht]
    rw [hbank]
    refine H.heldRt.of_eq ?_
    rw [heldRt_eq, heldRt_eq, hiface, List.map_cons, List.sum_cons, hself, hclients, List.map_nil,
      List.sum_nil, zero_add, hclient]
    congr 1
    exact List.map_congr_left fun b hb => by rw [hnode b hb]
  · have hbank : t.ctx = s.ctx := by rw [ht]
    have hzero : n.heldCtx lan (F.ctx a) (F.ctxIntra a) = 0 := by
      rw [LanToLanIface.heldCtx, ctxCell_neg hctxIntra, add_zero]
      exact Finset.sum_eq_zero fun t _ => ctxCell_neg (hctx t)
    rw [hbank]
    refine H.heldCtx.of_eq ?_
    rw [LanToLan.heldCtx, LanToLan.heldCtx, hiface, List.map_cons, List.sum_cons, hself, hzero,
      zero_add]
    congr 1
    exact List.map_congr_left fun b hb => by rw [hnode b hb]

/-- **An interface leaves the list.** -/
lemma Filled.eraseIface (H : Filled lan F s) (ha : a ∈ s.iface) {t : LanToLan}
    (ht : t = { s with iface := s.iface.erase a })
    (hclients : (s.node a).clientInfo = []) (hpeers : (s.node a).peerIfaceInfo = [])
    (hflt : ∀ c ip, ¬ F.fltIntra a c ip) (hctx : ∀ t, ¬ F.ctx a t)
    (hctxIntra : ¬ F.ctxIntra a) : Filled lan F t := by
  have hiface : t.iface = s.iface.erase a := by rw [ht]
  have hnode : t.node = s.node := by rw [ht]
  have hclient : t.client = s.client := by rw [ht]
  have hmac : t.mac = s.mac := by
    show (fun c => (t.client c).macAddr) = _
    rw [hclient]
    rfl
  have hsub : ∀ b, b ∈ t.iface → b ∈ s.iface := fun b hb => List.mem_of_mem_erase (hiface ▸ hb)
  -- a sum over the interfaces to which this one adds nothing
  have hsum : ∀ {M : Type} [AddCommMonoid M] (g : ℕ → M), g a = 0 →
      (s.iface.map g).sum = ((s.iface.erase a).map g).sum := by
    intro M _ g hg
    have hperm := ((List.perm_cons_erase ha).map g).sum_eq
    rw [hperm, List.map_cons, List.sum_cons, hg, zero_add]
  refine ⟨by rw [hiface]; exact H.iface.erase a, ?_, fun b hb => ?_, fun b hb => ?_,
    fun b hb => ?_, fun b hb => ?_, ?_, ?_, ?_⟩
  · rw [LanToLan.clients, hiface, hnode]
    exact H.clients.sublist (List.Sublist.flatMap List.erase_sublist _)
  · rw [hnode]
    exact H.peers b (hsub b hb)
  · rw [hnode]
    exact H.flt b (hsub b hb)
  · rw [hnode]
    exact H.fltIntra b (hsub b hb)
  · rw [hnode, hclient]
    exact H.rt b (hsub b hb)
  · have hbank : t.flt = s.flt := by rw [ht]
    rw [hbank]
    refine H.heldFlt.of_eq ?_
    rw [LanToLan.heldFlt, LanToLan.heldFlt, hiface, hnode, hmac]
    refine hsum _ ?_
    rw [LanToLanIface.heldFlt, hpeers, held_of_nil (FltOk_nil_of_none (H.fltIntra a ha) hflt)]
    rfl
  · have hbank : t.rt = s.rt := by rw [ht]
    rw [hbank]
    refine H.heldRt.of_eq ?_
    rw [heldRt_eq, heldRt_eq, hiface, hnode, hclient]
    refine hsum _ ?_
    rw [hclients]
    rfl
  · have hbank : t.ctx = s.ctx := by rw [ht]
    rw [hbank]
    refine H.heldCtx.of_eq ?_
    rw [LanToLan.heldCtx, LanToLan.heldCtx, hiface, hnode]
    refine hsum _ ?_
    rw [LanToLanIface.heldCtx, ctxCell_neg hctxIntra, add_zero]
    exact Finset.sum_eq_zero fun t _ => ctxCell_neg (hctx t)

/-! ## Clients -/

/-- The clients of an interface become others, with the same rules altogether. -/
lemma Filled.setClients (H : Filled lan F s) (ha : a ∈ s.iface) {l : List ℕ} {t : LanToLan}
    (ht : t = { s with
      client := t.client, alloc := t.alloc
      node := Function.update s.node a { s.node a with clientInfo := l } })
    (hclients : t.clients.Nodup)
    (hold : ∀ b ∈ s.iface, ∀ c ∈ (s.node b).clientInfo, t.client c = s.client c)
    (hmac : ∀ b ∈ s.iface, (s.node b).heldFlt t.mac = (s.node b).heldFlt s.mac)
    (hrt : ∀ c ∈ l,
      RtOk (lan (s.node a).pIface).eachClientRtRuleCount (F.rt a c) (F.rtIntra a c) (t.client c))
    (hheld : (l.map fun c => (t.client c).held lan (s.node a)).sum =
      ((s.node a).clientInfo.map fun c => (s.client c).held lan (s.node a)).sum) :
    Filled lan F t := by
  have hiface : t.iface = s.iface := by rw [ht]
  have hnode : t.node = Function.update s.node a { s.node a with clientInfo := l } := by rw [ht]
  have hself : t.node a = { s.node a with clientInfo := l } := by
    rw [hnode, Function.update_self]
  have hsame : ∀ b, t.node b = { s.node b with clientInfo := (t.node b).clientInfo } := by
    intro b
    rcases eq_or_ne b a with rfl | hb
    · rw [hself]
    · rw [hnode, Function.update_of_ne hb]
  refine ⟨hiface ▸ H.iface, hclients, ?_, ?_, ?_, ?_, ?_, ?_, ?_⟩
  · intro b hb
    rw [hsame b]
    exact H.peers b (hiface ▸ hb)
  · intro b hb peer hp
    rw [hsame b] at hp
    exact H.flt b (hiface ▸ hb) peer hp
  · intro b hb
    rw [hsame b]
    exact H.fltIntra b (hiface ▸ hb)
  · intro b hb c hc
    rw [hiface] at hb
    rcases eq_or_ne b a with rfl | hba
    · rw [hself] at hc ⊢
      exact hrt c hc
    · rw [hnode, Function.update_of_ne hba] at hc ⊢
      rw [hold b hb c hc]
      exact H.rt b hb c hc
  · have hflt : t.flt = s.flt := by rw [ht]
    rw [hflt]
    refine H.heldFlt.of_eq ?_
    rw [LanToLan.heldFlt, LanToLan.heldFlt, hiface]
    congr 1
    refine List.map_congr_left fun b hb => ?_
    rw [hsame b, ← hmac b hb]
    rfl
  · have heq : t.rt = s.rt := by rw [ht]
    rw [heq]
    refine H.heldRt.of_eq ?_
    rw [heldRt_eq, heldRt_eq, hiface]
    congr 1
    refine List.map_congr_left fun b hb => ?_
    rcases eq_or_ne b a with rfl | hba
    · rw [hself, ← hheld]
      rfl
    · rw [hnode, Function.update_of_ne hba]
      congr 1
      refine List.map_congr_left fun c hc => ?_
      rw [hold b hb c hc]
  · have hctx : t.ctx = s.ctx := by rw [ht]
    rw [hctx]
    refine H.heldCtx.of_eq (heldCtx_congr hiface fun b _ => ?_).symm
    rw [hsame b]
    rfl

lemma held_of_none {cnt : IpType → ℕ} {T : IpaHdrL2Type → Prop} {I : Prop} {x : ClientInfo}
    {n : LanToLanIface} (h : RtOk cnt T I x) (hT : ∀ t, ¬ T t) (hI : ¬ I) : x.held lan n = 0 := by
  rw [ClientInfo.held, ClientInfo.heldIntra]
  simp [ClientInfo.heldInter, h.noInter _ (hT _), h.noIntra hI]

/-- A list of filter rules without rules for a client does not mention its address. -/
lemma heldBy_congr {D : ℕ → IpType → Prop} {q : PeerIfaceInfo} (h : FltOk D q.fltRule)
    (hc : ∀ ip, ¬ D c ip) {mac mac' : ℕ → Mac} (hmac : ∀ d, d ≠ c → mac' d = mac d) :
    q.held p mac' = q.held p mac := by
  rw [PeerIfaceInfo.held, PeerIfaceInfo.held, PeerIfaceInfo.heldBy, PeerIfaceInfo.heldBy]
  congr 1
  refine List.map_congr_left fun f hf => ?_
  have hne : f.pClient ≠ c := by
    intro heq
    obtain ⟨ip, hip⟩ := h.used f hf
    exact hc ip (heq ▸ hip)
  have hrule : q.rule p mac' f.pClient = q.rule p mac f.pClient := by
    funext ip
    rw [PeerIfaceInfo.rule, PeerIfaceInfo.rule, hmac _ hne]
  rw [hrule]

/-- **A client joins the list.** -/
lemma Filled.pushClient (H : Filled lan F s) (ha : a ∈ s.iface) (hc : c ∉ s.clients) (mac : Mac)
    {alloc : ℕ → ℕ} {t : LanToLan}
    (ht : t = { s with
      client := Function.update s.client c ⟨mac, fun _ _ => [], fun _ => []⟩
      alloc := alloc
      node := Function.update s.node a { s.node a with clientInfo := c :: (s.node a).clientInfo } })
    (hflt : ∀ b ∈ s.iface, ∀ q ∈ (s.node b).peerIfaceInfo, ∀ ip, ¬ F.flt b q.peer c ip)
    (hfltIntra : ∀ b ∈ s.iface, ∀ ip, ¬ F.fltIntra b c ip)
    (hrt : ∀ t, ¬ F.rt a c t) (hrtIntra : ¬ F.rtIntra a c) : Filled lan F t := by
  have hclient : t.client = Function.update s.client c ⟨mac, fun _ _ => [], fun _ => []⟩ := by
    rw [ht]
  have hne : ∀ b ∈ s.iface, ∀ d ∈ (s.node b).clientInfo, d ≠ c := by
    rintro b hb d hd rfl
    exact hc (mem_clients hb hd)
  have hother : ∀ d, d ≠ c → t.client d = s.client d := fun d hd => by
    rw [hclient, Function.update_of_ne hd]
  have hself : t.client c = ⟨mac, fun _ _ => [], fun _ => []⟩ := by
    rw [hclient, Function.update_self]
  have hnone : RtOk (lan (s.node a).pIface).eachClientRtRuleCount (F.rt a c) (F.rtIntra a c)
      (t.client c) := by
    rw [hself]
    exact ⟨fun t h => absurd h (hrt t), fun _ _ _ => rfl, fun h => absurd h hrtIntra,
      fun _ _ => rfl⟩
  refine H.setClients ha (l := c :: (s.node a).clientInfo) (by rw [ht]) ?_
    (fun b hb d hd => hother d (hne b hb d hd)) (fun b hb => ?_) (fun d hd => ?_) ?_
  · obtain ⟨l₁, l₂, hl⟩ := List.append_of_mem ha
    have hnd := H.iface
    rw [hl, List.nodup_middle, List.nodup_cons, List.mem_append] at hnd
    have hflat : ∀ l : List ℕ, a ∉ l →
        (l.flatMap fun b => (t.node b).clientInfo) = l.flatMap fun b => (s.node b).clientInfo := by
      intro l hal
      refine List.flatMap_congr fun b hb => ?_
      rw [ht]
      show (Function.update s.node a _ b).clientInfo = _
      rw [Function.update_of_ne]
      rintro rfl
      exact hal hb
    have hta : (t.node a).clientInfo = c :: (s.node a).clientInfo := by
      rw [ht]
      show (Function.update s.node a _ a).clientInfo = _
      rw [Function.update_self]
    have hiface : t.iface = s.iface := by rw [ht]
    have hperm : t.clients.Perm (c :: s.clients) := by
      rw [LanToLan.clients, LanToLan.clients, hiface, hl, List.flatMap_append, List.flatMap_cons,
        List.flatMap_append, List.flatMap_cons, hflat l₁ fun h => hnd.1 (Or.inl h),
        hflat l₂ fun h => hnd.1 (Or.inr h), hta, List.cons_append]
      exact List.perm_middle
    rw [hperm.nodup_iff, List.nodup_cons]
    exact ⟨hc, H.clients⟩
  · rw [LanToLanIface.heldFlt, LanToLanIface.heldFlt]
    have hmac : ∀ d, d ≠ c → t.mac d = s.mac d := fun d hd =>
      congrArg ClientInfo.macAddr (hother d hd)
    rw [heldBy_congr (H.fltIntra b hb) (hfltIntra b hb) hmac]
    congr 2
    refine List.map_congr_left fun q hq => ?_
    exact heldBy_congr (H.flt b hb q hq) (hflt b hb q hq) hmac
  · rcases List.mem_cons.mp hd with rfl | hd
    · exact hnone
    · rw [hother d (hne a ha d hd)]
      exact H.rt a ha d hd
  · rw [List.map_cons, List.sum_cons, held_of_none hnone hrt hrtIntra, zero_add]
    congr 1
    exact List.map_congr_left fun d hd => by rw [hother d (hne a ha d hd)]

/-- **Clients without routing rules leave the list.** -/
lemma Filled.dropClients (H : Filled lan F s) (ha : a ∈ s.iface) {l : List ℕ}
    (hl : l.Sublist (s.node a).clientInfo)
    (hoff : ∀ c ∈ (s.node a).clientInfo, c ∉ l → (∀ t, ¬ F.rt a c t) ∧ ¬ F.rtIntra a c) :
    Filled lan F (s.modNode a fun n => { n with clientInfo := l }) := by
  refine H.setClients ha (l := l) rfl ?_ (fun _ _ _ _ => rfl) (fun _ _ => rfl)
    (fun c hc => H.rt a ha c (hl.subset hc)) ?_
  · refine H.clients.sublist (List.Sublist.flatMap_right _ fun b hb => ?_)
    rcases eq_or_ne b a with rfl | hba
    · rw [modNode_self]
      exact hl
    · rw [modNode_ne _ hba]
  · refine sum_map_sublist hl (nodup_clientInfo H.clients ha) fun c hc hcl => ?_
    exact held_of_none (H.rt a ha c hc) (hoff c hc hcl).1 (hoff c hc hcl).2

end LanToLan

end Ipacm
