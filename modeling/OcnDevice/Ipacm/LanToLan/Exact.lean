import OcnDevice.Ipacm.LanToLan.IfaceUp
import OcnDevice.Ipacm.LanToLan.IfaceDown

/-!
# The rules are exactly what the topology needs

`LanToLan.Ok` holds at the start and is kept by every event (`Ok.step`), whatever the driver and the
allocator choose.  `neededFlt`, `neededRt` and `neededCtx` compute from the interfaces, their clients and
their addresses what should be installed, without the lists of peers, the counters and the handles that
the code keeps; `Exact` says that this is what the driver has, each rule once, under the handles of the
records, and that no handle was ever deleted twice.
-/

namespace Ipacm

namespace LanToLan

variable {lan : ℕ → LanProps} {s t : LanToLan} {a b c p : ℕ} {ip : IpType} {e : EthBridgeEvt}

/-! ## The invariant is kept -/

/-- Nothing is up at the start. -/
lemma Ok.init {flt rt ctx alloc : ℕ → ℕ} : (LanToLan.init flt rt ctx alloc).Ok lan where
  topo := by
    refine ⟨?_, ?_, ?_, ?_, ?_, ?_, ?_, ?_⟩ <;> exact fun a ha => absurd ha List.not_mem_nil
  filled := by
    refine ⟨List.nodup_nil, List.nodup_nil, ?_, ?_, ?_, ?_, Bank.Holds.init, Bank.Holds.init,
      Bank.Holds.init⟩ <;> exact fun a ha => absurd ha List.not_mem_nil

/-- The events that are waiting change. -/
lemma Ok.cache (H : s.Ok lan) (l : List EthBridgeEvt) :
    ({ s with cachedClientAddEvent := l } : LanToLan).Ok lan :=
  ⟨⟨H.topo.pIface, H.topo.inter, H.topo.intra, H.topo.peers, H.topo.names, H.topo.ref,
    H.topo.intraInfo, H.topo.macs⟩, H.filled.frame rfl fun _ _ => rfl⟩

/-- **`handle_client_add`**. -/
lemma Ok.handleClientAdd (H : s.Ok lan) : (s.handleClientAdd lan e).Ok lan := by
  rw [LanToLan.handleClientAdd]
  split
  next a hfind =>
    have ha : a ∈ s.iface := (findIface_some hfind).1
    by_cases hdup : e.macAddr ∈ (s.node a).clientInfo.map s.mac
    · have hany : (s.node a).clientInfo.any (fun c => (s.client c).macAddr = e.macAddr) = true := by
        obtain ⟨c, hc, hm⟩ := List.mem_map.mp hdup
        exact List.any_eq_true.mpr ⟨c, hc, decide_eq_true hm⟩
      rw [ifaceHandleClientAdd, if_pos hany]
      exact H
    · by_cases hroom : (s.node a).clientInfo.length = maxNumClient
      · rw [ifaceHandleClientAdd, if_pos hroom, ite_self]
        exact H
      · exact (H.addClient ha hdup hroom).1
  next =>
    split_ifs
    · exact H.cache _
    · exact H

/-- **`handle_client_del`**. -/
lemma Ok.handleClientDel (H : s.Ok lan) : (s.handleClientDel lan e).Ok lan := by
  rw [LanToLan.handleClientDel]
  split
  next a hfind =>
    cases hc : (s.node a).clientInfo.find? fun c => (s.client c).macAddr = e.macAddr with
    | some c => exact (H.dropClient (findIface_some hfind).1 hc).1
    | none =>
        rw [ifaceHandleClientDel, hc]
        exact H
  next => exact H

/-- **`handle_cached_client_add_event`**. -/
lemma Ok.handleCachedClientAddEvent (H : s.Ok lan) :
    (s.handleCachedClientAddEvent lan p).Ok lan := by
  refine Ok.cache ?_ _
  induction s.cachedClientAddEvent.filter fun e => e.pIface = p generalizing s with
  | nil => exact H
  | cons e l ih => exact ih H.handleClientAdd

/-- `handle_iface_up` of an interface that is not up. -/
lemma handleIfaceUp_new (h : s.findIface p = none) : s.handleIfaceUp lan p ip =
    if s.iface.length = maxNumIface then s
    else if !(lan p).txProp || !(lan p).rxProp then s
    else if (lan p).hdrL2Type = .l2None ∨ (lan p).hdrL2Type = .l2Max then s
    else (joinIface lan s (newAddr s.iface (s.alloc 0)) p ip).handleCachedClientAddEvent lan p := by
  rw [LanToLan.handleIfaceUp, h]
  rfl

/-- **`handle_iface_up`**. -/
lemma Ok.handleIfaceUp (H : s.Ok lan) : (s.handleIfaceUp lan p ip).Ok lan := by
  cases hfind : s.findIface p with
  | some a =>
      cases hass : (s.node a).isIpAddrAssigned ip with
      | false => exact (H.assign (findIface_some hfind).1 hfind hass).1
      | true =>
          rw [LanToLan.handleIfaceUp, hfind]
          simp only [hass, Bool.true_eq_false, if_false]
          exact H
  | none =>
      rw [handleIfaceUp_new hfind]
      split_ifs
      · exact H
      · exact H
      · exact H
      · exact (H.joinIface _ (newAddr_not_mem _ _) (findIface_none hfind)).1.handleCachedClientAddEvent

/-- **`handle_iface_down`**. -/
lemma Ok.handleIfaceDown (H : s.Ok lan) : (s.handleIfaceDown lan p).Ok lan := by
  cases hfind : s.findIface p with
  | some a => exact (H.ifaceDown hfind).1
  | none =>
      rw [LanToLan.handleIfaceDown, hfind]
      exact H.cache _

/-- **Every event keeps the invariant.** -/
theorem Ok.step {evt : LanToLanEvt} (H : s.Ok lan) (hst : Step lan s evt t) : t.Ok lan := by
  rw [Step] at hst
  rw [hst]
  cases evt with
  | ifaceUp p ip => exact H.handleIfaceUp
  | ifaceDown p => exact H.handleIfaceDown
  | clientAdd e => exact H.handleClientAdd
  | clientDel e => exact H.handleClientDel

/-! ## What the topology needs -/

section Needed

variable (lan : ℕ → LanProps) (s : LanToLan) (a : ℕ)

/-- The interface takes part in the traffic between interfaces. -/
def offloads : Bool := !((lan (s.node a).pIface).wlan && (lan (s.node a).pIface).isGuestAp)

/-- The interfaces that this one exchanges traffic with. -/
def partners : List ℕ :=
  s.iface.filter fun b => b ≠ a && s.offloads lan a && s.offloads lan b

/-- The addresses of the clients of an interface. -/
def macs : List Mac := (s.node a).clientInfo.map s.mac

/-- One filter rule for each of some clients and each family that the interface has an address of. -/
def fltFor (tbl : IpType → String) (ms : List Mac) : Multiset EthFltRule :=
  (ms.map fun m => ∑ ip, if (s.node a).isIpAddrAssigned ip then
    {(⟨(s.node a).pIface, m, tbl ip, ip⟩ : EthFltRule)} else 0).sum

/-- The filter rules of all interfaces: for the clients of others, and within a WLAN interface. -/
def neededFlt : Multiset EthFltRule :=
  (s.iface.map fun a =>
    ((s.partners lan a).map fun b =>
      s.fltFor a (rtTblName (s.l2 lan a) (s.l2 lan b)) (s.macs b)).sum +
    if (lan (s.node a).pIface).wlan then s.fltFor a intraTblName (s.macs a) else 0).sum

/-- One routing rule for each family and tx property. -/
def rtFor (rule : IpType → ℕ → EthRtRule) : Multiset EthRtRule :=
  ∑ ip, ((List.range ((lan (s.node a).pIface).eachClientRtRuleCount ip)).map (rule ip) :
    Multiset EthRtRule)

/-- The routing rules of all clients: for each L2 type of a partner, and within a WLAN interface. -/
def neededRt : Multiset EthRtRule :=
  (s.iface.map fun a => ((s.macs a).map fun m =>
    (∑ t, if ∃ b ∈ s.partners lan a, s.l2 lan b = t then
      s.rtFor lan a ((s.node a).interRtRule lan m t) else 0) +
    if (lan (s.node a).pIface).wlan then
      s.rtFor lan a ((s.node a).intraRtRule lan m) else 0).sum).sum

/-- The contexts of all interfaces, under the handles that the routing rules name: for each L2 type of a
partner, and for a WLAN interface itself. -/
def neededCtx : Multiset (ℕ × EthHdrProcCtx) :=
  (s.iface.map fun a =>
    (∑ t, if ∃ b ∈ s.partners lan a, s.l2 lan b = t then
      {((s.node a).hdrProcCtxForInterInterface t, (s.node a).ctxFor lan t)} else 0) +
    if (lan (s.node a).pIface).wlan then
      {((s.node a).hdrProcCtxForIntraInterface, (s.node a).ctxFor lan (s.l2 lan a))} else 0).sum

/-- The driver has exactly what the topology needs, under the handles of the records, and no handle has
been deleted that named nothing. -/
structure Exact : Prop where
  flt : s.flt.things = s.neededFlt lan
  rt : s.rt.things = s.neededRt lan
  ctx : s.ctx.tbl.entries = s.neededCtx lan
  fltHdl : s.flt.tbl.entries = s.heldFlt
  rtHdl : s.rt.tbl.entries = s.heldRt lan
  misses : s.flt.tbl.misses = 0 ∧ s.rt.tbl.misses = 0 ∧ s.ctx.tbl.misses = 0
  ref : ∀ a ∈ s.iface, ∀ t,
    (s.node a).refCntPeerL2HdrType t = (s.partners lan a).countP fun b => s.l2 lan b = t
  macs : ∀ a ∈ s.iface, (s.macs a).Nodup
  pIface : (s.iface.map fun a => (s.node a).pIface).Nodup

end Needed

/-! ## Counting the rules of a record -/

/-- What entries name, without their handles. -/
def thingsOf {α : Type*} : Multiset (ℕ × α) →+ Multiset α := Multiset.mapAddMonoidHom Prod.snd

lemma thingsOf_held {α : Type*} {rule : ℕ → α} {hs : List ℕ} :
    thingsOf (Bank.held rule hs) = ((List.range hs.length).map rule : Multiset α) := by
  induction hs using List.reverseRecOn with
  | nil => rfl
  | append_singleton hs h ih =>
      rw [Bank.held_concat, map_add, ih, List.length_append, List.length_singleton,
        List.range_succ, List.map_append]
      rfl

/-- **The filter rules of a list**: one for each client and family. -/
lemma thingsOf_flt {D : ℕ → IpType → Prop} {q : PeerIfaceInfo} {mac : ℕ → Mac} {cs : List ℕ}
    (assigned : IpType → Bool) (h : FltOk D q.fltRule) (hcs : cs.Nodup)
    (hD : ∀ c ip, D c ip ↔ c ∈ cs ∧ assigned ip = true) :
    thingsOf (q.held p mac) =
      (cs.map fun c => ∑ ip, if assigned ip then {q.rule p mac c ip} else 0).sum := by
  have hentry : ∀ f ∈ q.fltRule, thingsOf (f.held (q.rule p mac f.pClient)) =
      ∑ ip, if assigned ip then {q.rule p mac f.pClient ip} else 0 := by
    intro f hf
    rw [FltRuleInfo.held, map_sum]
    refine Finset.sum_congr rfl fun ip _ => ?_
    have hc : f.pClient ∈ cs := by
      obtain ⟨ip', hip'⟩ := h.used f hf
      exact ((hD _ _).mp hip').1
    have hiff := h.hdl f hf ip
    rw [hD] at hiff
    by_cases hip : assigned ip = true
    · rw [if_neg (hiff.mpr ⟨hc, hip⟩), if_pos hip]
      rfl
    · rw [if_pos (not_not.mp fun hne => hip (hiff.mp hne).2), if_neg hip]
      rfl
  have hlist : thingsOf (q.held p mac) = ((q.fltRule.map (·.pClient)).map fun c =>
      ∑ ip, if assigned ip then {q.rule p mac c ip} else 0).sum := by
    rw [PeerIfaceInfo.held, PeerIfaceInfo.heldBy, map_list_sum, List.map_map, List.map_map]
    congr 1
    exact List.map_congr_left hentry
  rw [hlist]
  by_cases hnone : ∃ ip, assigned ip = true
  · obtain ⟨ip, hip⟩ := hnone
    have hperm : (q.fltRule.map (·.pClient)).Perm cs := by
      rw [List.perm_ext_iff_of_nodup h.nodup hcs]
      intro c
      constructor
      · rintro hc
        obtain ⟨f, hf, rfl⟩ := List.mem_map.mp hc
        obtain ⟨ip', hip'⟩ := h.used f hf
        exact ((hD _ _).mp hip').1
      · intro hc
        obtain ⟨f, hf, rfl⟩ := h.mem c ip ((hD _ _).mpr ⟨hc, hip⟩)
        exact List.mem_map_of_mem hf
    exact (hperm.map _).sum_eq
  · have hzero : ∀ c, (∑ ip, if assigned ip then {q.rule p mac c ip} else 0 :
        Multiset EthFltRule) = 0 := fun c =>
      Finset.sum_eq_zero fun ip _ => if_neg fun h => hnone ⟨ip, h⟩
    simp only [hzero, List.map_const', List.sum_replicate, smul_zero]

section Exact

variable (H : s.Ok lan) (ha : a ∈ s.iface)
include H

lemma Ok.perm_partners (ha : a ∈ s.iface) : (s.skel.peers a).Perm (s.partners lan a) := by
  have hnd : (s.skel.peers a).Nodup := by
    rw [peers_eq]
    exact H.filled.peers a ha
  have hsupport : ∀ b ∈ s.iface, (s.skel.node b).supportInterIfaceOffload = s.offloads lan b :=
    H.topo.inter
  rw [partners, List.perm_ext_iff_of_nodup hnd (H.filled.iface.filter _)]
  intro b
  rw [H.topo.peers a ha, List.mem_filter, Bool.and_eq_true, Bool.and_eq_true, decide_eq_true_eq,
    hsupport a ha]
  constructor
  · rintro ⟨hb, hba, hia, hib⟩
    exact ⟨hb, ⟨hba, hia⟩, hsupport b hb ▸ hib⟩
  · rintro ⟨hb, ⟨hba, hia⟩, hib⟩
    exact ⟨hb, hba, hia, (hsupport b hb).trans hib⟩

lemma Ok.exists_partner (ha : a ∈ s.iface) (t : IpaHdrL2Type) :
    (∃ b ∈ s.partners lan a, s.l2 lan b = t) ↔ ∃ b ∈ s.skel.peers a, s.skel.l2 lan b = t := by
  simp only [← (H.perm_partners ha).mem_iff]
  rfl

/-- **The filter rules** are those that the topology needs. -/
lemma Ok.flt_things : s.flt.things = s.neededFlt lan := by
  have hent : s.flt.things = thingsOf s.heldFlt := congrArg thingsOf H.filled.heldFlt.1
  rw [hent, heldFlt, neededFlt, map_list_sum, List.map_map]
  congr 1
  refine List.map_congr_left fun a ha => ?_
  show thingsOf ((s.node a).heldFlt s.mac) = _
  rw [LanToLanIface.heldFlt, map_add, map_list_sum, List.map_map]
  congr 1
  · -- the rules for the clients of others
    rw [← ((H.perm_partners ha).map _).sum_eq, peers_eq, List.map_map]
    congr 1
    refine List.map_congr_left fun q hq => ?_
    have hb : q.peer ∈ s.iface := (topo_peer H.topo ha hq).1
    have hname : q.rtTblNameForFlt = rtTblName (s.l2 lan a) (s.l2 lan q.peer) :=
      (H.topo.names a ha q.bare (List.mem_map_of_mem hq)).2
    show thingsOf (q.held _ s.mac) = s.fltFor a _ (s.macs q.peer)
    rw [thingsOf_flt (s.node a).isIpAddrAssigned (H.filled.flt a ha q hq)
      (nodup_clientInfo H.filled.clients hb) fun _ _ => Iff.rfl, fltFor, LanToLan.macs,
      List.map_map, ← hname]
    rfl
  · -- the rules for its own clients
    have hintra : (s.node a).supportIntraIfaceOffload = (lan (s.node a).pIface).wlan :=
      H.topo.intra a ha
    split_ifs with hw
    · have hname : (s.node a).intraInterfaceInfo.rtTblNameForFlt = intraTblName :=
        (H.topo.intraInfo a ha (hintra.trans hw)).2.2
      rw [thingsOf_flt (s.node a).isIpAddrAssigned (H.filled.fltIntra a ha)
        (nodup_clientInfo H.filled.clients ha) fun c ip =>
          ⟨fun h => h.2, fun h => ⟨hintra.trans hw, h⟩⟩, fltFor, LanToLan.macs, List.map_map,
        ← hname]
      rfl
    · have hnil : (s.node a).intraInterfaceInfo.fltRule = [] :=
        FltOk_nil_of_none (H.filled.fltIntra a ha) fun c ip h => hw (hintra.symm.trans h.1)
      rw [held_of_nil hnil]
      rfl

/-- **The routing rules** are those that the topology needs. -/
lemma Ok.rt_things : s.rt.things = s.neededRt lan := by
  have hent : s.rt.things = thingsOf (s.heldRt lan) := congrArg thingsOf H.filled.heldRt.1
  rw [hent, heldRt_eq, neededRt, map_list_sum, List.map_map]
  congr 1
  refine List.map_congr_left fun a ha => ?_
  show thingsOf (List.sum _) = _
  rw [map_list_sum, List.map_map, LanToLan.macs, List.map_map]
  congr 1
  refine List.map_congr_left fun c hc => ?_
  show thingsOf ((s.client c).held lan (s.node a)) = _
  have hrt := H.filled.rt a ha c hc
  -- a list of handles that is as long as it should be
  have hlen : ∀ {rule : IpType → ℕ → EthRtRule} {hdl : IpType → List ℕ},
      (∀ ip, (hdl ip).length = (lan (s.node a).pIface).eachClientRtRuleCount ip) →
      thingsOf (∑ ip, Bank.held (rule ip) (hdl ip)) = s.rtFor lan a rule := by
    intro rule hdl h
    rw [map_sum, rtFor]
    refine Finset.sum_congr rfl fun ip _ => ?_
    rw [thingsOf_held, h]
  rw [ClientInfo.held, map_add, map_sum]
  congr 1
  · refine Finset.sum_congr rfl fun t _ => ?_
    split_ifs with ht
    · exact hlen (hrt.inter t ⟨hc, (H.exists_partner ha t).mp ht⟩)
    · have hnone := hrt.noInter t fun h => ht ((H.exists_partner ha t).mpr h.2)
      simp [ClientInfo.heldInter, hnone]
  · have hintra : (s.node a).supportIntraIfaceOffload = (lan (s.node a).pIface).wlan :=
      H.topo.intra a ha
    split_ifs with hw
    · exact hlen (hrt.intra ⟨hc, hintra.trans hw⟩)
    · have hnone := hrt.noIntra fun h => hw (hintra.symm.trans h.2)
      simp [ClientInfo.heldIntra, hnone]

/-- **The contexts** are those that the topology needs. -/
lemma Ok.ctx_entries : s.ctx.tbl.entries = s.neededCtx lan := by
  rw [H.filled.heldCtx.1, heldCtx, neededCtx]
  congr 1
  refine List.map_congr_left fun a ha => ?_
  rw [LanToLanIface.heldCtx]
  congr 1
  · refine Finset.sum_congr rfl fun t _ => ?_
    split_ifs with ht
    · exact ctxCell_pos ((H.exists_partner ha t).mp ht)
    · exact ctxCell_neg fun h => ht ((H.exists_partner ha t).mpr h)
  · have hintra : (s.node a).supportIntraIfaceOffload = (lan (s.node a).pIface).wlan :=
      H.topo.intra a ha
    split_ifs with hw
    · exact ctxCell_pos (hintra.trans hw)
    · exact ctxCell_neg fun h => hw (hintra.symm.trans h)

/-- **The invariant says it all.** -/
lemma Ok.exact : s.Exact lan where
  flt := H.flt_things
  rt := H.rt_things
  ctx := H.ctx_entries
  fltHdl := H.filled.heldFlt.1
  rtHdl := H.filled.heldRt.1
  misses := ⟨H.filled.heldFlt.2, H.filled.heldRt.2, H.filled.heldCtx.2⟩
  ref a ha t := by
    rw [← (H.perm_partners ha).countP_eq]
    exact H.topo.ref a ha t
  macs := H.topo.macs
  pIface := H.filled.iface.map_on fun a ha b hb => H.topo.pIface a ha b hb

end Exact

/-- **LAN to LAN rules are exactly what the topology needs**, after every run of events, whichever
handles the driver returns and wherever the allocator puts the nodes. -/
theorem lan_to_lan_exact {flt rt ctx alloc : ℕ → ℕ} {evts : List LanToLanEvt}
    (hr : Run (Step lan) (init flt rt ctx alloc) evts s) : s.Exact lan :=
  Ok.exact (hr.invariant (P := Ok lan) (fun _ _ _ H hst => H.step hst) Ok.init)

/-- A WLAN interface and two Ethernet ones. -/
def lanOfThree (p : ℕ) : LanProps where
  wlan := p = 0
  isGuestAp := false
  txProp := true
  rxProp := true
  hdrL2Type := if p = 0 then .ieee8023 else .ethernetII
  eachClientRtRuleCount _ := if p = 0 then 2 else 1
  count_le _ := by
    show (if p = 0 then 2 else 1) ≤ maxNumProp
    split_ifs <;> decide

/-- A client waits for its interface, three interfaces come up, one gets its second address, a client
leaves and an interface goes down. -/
theorem lan_to_lan_exact_three : ∃ s, Run (Step lanOfThree) (init id id id id)
    [.clientAdd ⟨0, 10⟩, .ifaceUp 1 .v4, .clientAdd ⟨1, 20⟩, .ifaceUp 0 .v4, .ifaceUp 2 .v6,
      .ifaceUp 1 .v6, .clientAdd ⟨2, 30⟩, .clientAdd ⟨1, 21⟩, .clientDel ⟨1, 20⟩, .ifaceDown 2] s ∧
      s.flt.things.card = 4 ∧ s.rt.things.card = 10 ∧ s.ctx.things.card = 3 ∧
      s.Exact lanOfThree := by
  have hr : Run (Step lanOfThree) (init id id id id)
      [.clientAdd ⟨0, 10⟩, .ifaceUp 1 .v4, .clientAdd ⟨1, 20⟩, .ifaceUp 0 .v4, .ifaceUp 2 .v6,
        .ifaceUp 1 .v6, .clientAdd ⟨2, 30⟩, .clientAdd ⟨1, 21⟩, .clientDel ⟨1, 20⟩,
        .ifaceDown 2] _ :=
    .cons rfl (.cons rfl (.cons rfl (.cons rfl (.cons rfl (.cons rfl (.cons rfl (.cons rfl
      (.cons rfl (.cons rfl (.nil _))))))))))
  exact ⟨_, hr, by decide +kernel, by decide +kernel, by decide +kernel, lan_to_lan_exact hr⟩

end LanToLan

end Ipacm
