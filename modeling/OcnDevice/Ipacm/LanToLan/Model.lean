import OcnDevice.Core.Bank
import OcnDevice.Core.Run
import OcnDevice.Ipacm.OffloadManager.Model

/-!
# LAN to LAN offload

`IPACM_LanToLan` keeps, for every LAN and WLAN interface that is up, its clients and the other
interfaces that it exchanges traffic with.  For each client of an interface it installs routing rules
on that interface, one set for each L2 header type that a peer has, and on each peer a filter rule for
each IP family that the peer has an address of.  A WLAN interface also forwards between its own
clients.  Client events for an interface that is not up are kept until it comes up.

List nodes are known by their addresses: `IPACM_LanToLan_Iface *` and `client_info *` are what the
source compares.  An address is free again when its node is erased, and the allocator may choose it
again.  The build has no `FEATURE_L2TP`, and every `eth_bridge_*` call and table lookup succeeds.
-/

namespace Ipacm

/-- `MAX_NUM_CACHED_CLIENT_ADD_EVENT`. -/
def maxNumCachedClientAddEvent : ℕ := 10

/-- `MAX_NUM_IFACE`. -/
def maxNumIface : ℕ := 10

/-- `MAX_NUM_CLIENT`. -/
def maxNumClient : ℕ := 16

/-- `MAX_NUM_PROP`. -/
def maxNumProp : ℕ := 2

/-- A MAC address. -/
abbrev Mac := BitVec 48

/-- `ipa_hdr_l2_type`. -/
inductive IpaHdrL2Type
  | l2None
  | ethernetII
  | ieee8023
  | l2Max
  deriving DecidableEq, Repr

instance : Fintype IpaHdrL2Type where
  elems := {.l2None, .ethernetII, .ieee8023, .l2Max}
  complete t := by cases t <;> simp

/-- `ipa_l2_hdr_type`, the names of the types. -/
def ipaL2HdrType : IpaHdrL2Type → String
  | .l2None => "NONE"
  | .ethernetII => "ETH_II"
  | .ieee8023 => "802_3"
  | .l2Max => "L2_MAX"

/-- `ipa_hdr_proc_type`. -/
inductive IpaHdrProcType
  | procNone
  | ethIIToEthII
  | ethIITo8023
  | ieee8023ToEthII
  | ieee8023To8023
  deriving DecidableEq, Repr

/-- `eth_bridge_get_hdr_proc_type`. -/
def ethBridgeGetHdrProcType : IpaHdrL2Type → IpaHdrL2Type → IpaHdrProcType
  | .ethernetII, .ethernetII => .ethIIToEthII
  | .ethernetII, .ieee8023 => .ethIITo8023
  | .ieee8023, .ethernetII => .ieee8023ToEthII
  | .ieee8023, .ieee8023 => .ieee8023To8023
  | _, _ => .procNone

/-- What an `IPACM_Lan` object tells LAN to LAN offload: its category, whether it has properties, the L2
type of its first tx property and how many tx properties of each family it has.  Without the bound
`eth_bridge_add_rt_rule` would fail. -/
structure LanProps where
  wlan : Bool
  isGuestAp : Bool
  txProp : Bool
  rxProp : Bool
  hdrL2Type : IpaHdrL2Type
  eachClientRtRuleCount : IpType → ℕ
  count_le : ∀ ip, eachClientRtRuleCount ip ≤ maxNumProp

/-! ## The driver -/

/-- A filter rule of `eth_bridge_add_flt_rule`: frames to `mac` that come in on the pipe of the interface
go to the routing table. -/
structure EthFltRule where
  pIface : ℕ
  mac : Mac
  rtTbl : String
  ip : IpType
  deriving DecidableEq, Repr

/-- A routing rule of `eth_bridge_add_rt_rule` for one tx property of the interface. -/
structure EthRtRule where
  pIface : ℕ
  mac : Mac
  rtTblName : String
  hdrProcCtxHdl : ℕ
  peerL2HdrType : IpaHdrL2Type
  ip : IpType
  txProp : ℕ
  deriving DecidableEq, Repr

/-- A header processing context of `eth_bridge_add_hdr_proc_ctx`. -/
structure EthHdrProcCtx where
  pIface : ℕ
  peerL2HdrType : IpaHdrL2Type
  type : IpaHdrProcType
  deriving DecidableEq, Repr

/-- `DeleteFilteringHdls` for one handle, and `DeleteRoutingHdl`: the handle zero is ignored. -/
def deleteHdl {α : Type*} (b : Bank α) (h : ℕ) : Bank α := if h = 0 then b else b.remove h

/-! ## The records -/

/-- `client_info`. -/
structure ClientInfo where
  macAddr : Mac
  interIfaceRtRuleHdl : IpaHdrL2Type → IpType → List ℕ
  intraIfaceRtRuleHdl : IpType → List ℕ

/-- `flt_rule_info`. -/
structure FltRuleInfo where
  pClient : ℕ
  fltRuleHdl : IpType → ℕ

/-- `peer_iface_info`. -/
structure PeerIfaceInfo where
  peer : ℕ
  rtTblNameForRt : IpType → String
  rtTblNameForFlt : IpType → String
  fltRule : List FltRuleInfo

/-- `IPACM_LanToLan_Iface`. -/
structure LanToLanIface where
  pIface : ℕ
  isIpAddrAssigned : IpType → Bool
  supportInterIfaceOffload : Bool
  supportIntraIfaceOffload : Bool
  refCntPeerL2HdrType : IpaHdrL2Type → ℤ
  hdrProcCtxForInterInterface : IpaHdrL2Type → ℕ
  hdrProcCtxForIntraInterface : ℕ
  clientInfo : List ℕ
  peerIfaceInfo : List PeerIfaceInfo
  intraInterfaceInfo : PeerIfaceInfo

/-- `ipacm_event_eth_bridge`, of a client. -/
structure EthBridgeEvt where
  pIface : ℕ
  macAddr : Mac
  deriving DecidableEq, Repr

/-- `IPACM_LanToLan`, the memory that its lists are in, the driver and the allocator's choices. -/
structure LanToLan where
  iface : List ℕ
  cachedClientAddEvent : List EthBridgeEvt
  node : ℕ → LanToLanIface
  client : ℕ → ClientInfo
  flt : Bank EthFltRule
  rt : Bank EthRtRule
  ctx : Bank EthHdrProcCtx
  alloc : ℕ → ℕ

/-- The address of a new node: `pick` if it is free, which the allocator may choose. -/
def newAddr (used : List ℕ) (pick : ℕ) : ℕ :=
  if pick ∈ used then used.foldr max 0 + 1 else pick

section Lists

variable (c : ℕ) (ip : IpType) (h : ℕ) (assigned : IpType → Bool)

/-- The handle of a rule for a client is put into the list of filter rules. -/
def setFltRule : List FltRuleInfo → List FltRuleInfo
  | [] => []
  | f :: l =>
      if f.pClient = c then { f with fltRuleHdl := Function.update f.fltRuleHdl ip h } :: l
      else f :: setFltRule l

/-- The list of filter rules has one for the client. -/
def hasFltRule (l : List FltRuleInfo) : Bool := l.any fun f => f.pClient = c

/-- The rules of an entry of the list of filter rules are deleted. -/
def delFltRuleInfo (f : FltRuleInfo) (b : Bank EthFltRule) : Bank EthFltRule :=
  let b := if assigned .v4 then deleteHdl b (f.fltRuleHdl .v4) else b
  if assigned .v6 then deleteHdl b (f.fltRuleHdl .v6) else b

end Lists

/-- `add_client_flt_rule` for the client at `c`, whose address is `mac`. -/
def addClientFltRule (pIface : ℕ) (peer : PeerIfaceInfo) (c : ℕ) (mac : Mac) (ip : IpType)
    (b : Bank EthFltRule) : PeerIfaceInfo × Bank EthFltRule :=
  let r := b.install { pIface := pIface, mac := mac, rtTbl := peer.rtTblNameForFlt ip, ip := ip }
  if hasFltRule c peer.fltRule then
    ({ peer with fltRule := setFltRule c ip r.1 peer.fltRule }, r.2)
  else
    ({ peer with fltRule := ⟨c, Function.update (fun _ => 0) ip r.1⟩ :: peer.fltRule }, r.2)

/-- `del_client_flt_rule`. -/
def delClientFltRule (assigned : IpType → Bool) (c : ℕ) (peer : PeerIfaceInfo)
    (b : Bank EthFltRule) : PeerIfaceInfo × Bank EthFltRule :=
  match peer.fltRule.find? fun f => f.pClient = c with
  | some f =>
      ({ peer with fltRule := peer.fltRule.eraseP fun f => f.pClient = c },
        delFltRuleInfo assigned f b)
  | none => (peer, b)

/-- `clear_all_flt_rule_for_one_peer_iface`. -/
def clearAllFltRuleForOnePeerIface (assigned : IpType → Bool) (peer : PeerIfaceInfo)
    (b : Bank EthFltRule) : PeerIfaceInfo × Bank EthFltRule :=
  ({ peer with fltRule := [] }, peer.fltRule.foldl (fun b f => delFltRuleInfo assigned f b) b)

namespace LanToLan

variable (lan : ℕ → LanProps)

/-! ## Access to the records -/

/-- An `IPACM_LanToLan_Iface` changes. -/
def modNode (s : LanToLan) (a : ℕ) (f : LanToLanIface → LanToLanIface) : LanToLan :=
  { s with node := Function.update s.node a (f (s.node a)) }

/-- A `client_info` changes. -/
def modClient (s : LanToLan) (c : ℕ) (f : ClientInfo → ClientInfo) : LanToLan :=
  { s with client := Function.update s.client c (f (s.client c)) }

/-- `tx_prop->tx[0].hdr_l2_type` of an interface. -/
def l2 (s : LanToLan) (a : ℕ) : IpaHdrL2Type := (lan (s.node a).pIface).hdrL2Type

/-- The interface of an `IPACM_Lan`. -/
def findIface (s : LanToLan) (pIface : ℕ) : Option ℕ :=
  s.iface.find? fun a => (s.node a).pIface = pIface

/-- The clients of the interfaces that are up. -/
def clients (s : LanToLan) : List ℕ := s.iface.flatMap fun a => (s.node a).clientInfo

/-- `eth_bridge_add_rt_rule`: a rule for each tx property of the family. -/
def ethBridgeAddRtRule (pIface : ℕ) (mac : Mac) (rtTblName : String) (hdrProcCtxHdl : ℕ)
    (peerL2HdrType : IpaHdrL2Type) (ip : IpType) (b : Bank EthRtRule) : List ℕ × Bank EthRtRule :=
  b.installAll (fun i => ⟨pIface, mac, rtTblName, hdrProcCtxHdl, peerL2HdrType, ip, i⟩)
    ((lan pIface).eachClientRtRuleCount ip)

/-- `eth_bridge_add_hdr_proc_ctx`. -/
def ethBridgeAddHdrProcCtx (pIface : ℕ) (peerL2HdrType : IpaHdrL2Type) (b : Bank EthHdrProcCtx) :
    ℕ × Bank EthHdrProcCtx :=
  b.install ⟨pIface, peerL2HdrType,
    ethBridgeGetHdrProcType peerL2HdrType (lan pIface).hdrL2Type⟩

/-! ## Routing rules -/

/-- `add_client_rt_rule` on the interface at `a` for the client at `c`. -/
def addClientRtRule (s : LanToLan) (a : ℕ) (peer : PeerIfaceInfo) (c : ℕ) : LanToLan :=
  let n := s.node a
  let t := s.l2 lan peer.peer
  let mac := (s.client c).macAddr
  if peer.peer ≠ a then
    let r4 := ethBridgeAddRtRule lan n.pIface mac (peer.rtTblNameForRt .v4)
      (n.hdrProcCtxForInterInterface t) t .v4 s.rt
    let r6 := ethBridgeAddRtRule lan n.pIface mac (peer.rtTblNameForRt .v6)
      (n.hdrProcCtxForInterInterface t) t .v6 r4.2
    { s with rt := r6.2 }.modClient c fun x =>
      { x with interIfaceRtRuleHdl :=
          Function.update x.interIfaceRtRuleHdl t fun | .v4 => r4.1 | .v6 => r6.1 }
  else
    let r4 := ethBridgeAddRtRule lan n.pIface mac (peer.rtTblNameForRt .v4)
      n.hdrProcCtxForIntraInterface t .v4 s.rt
    let r6 := ethBridgeAddRtRule lan n.pIface mac (peer.rtTblNameForRt .v6)
      n.hdrProcCtxForIntraInterface t .v6 r4.2
    { s with rt := r6.2 }.modClient c fun x =>
      { x with intraIfaceRtRuleHdl := fun | .v4 => r4.1 | .v6 => r6.1 }

/-- `del_client_rt_rule`. -/
def delClientRtRule (s : LanToLan) (a : ℕ) (peer : PeerIfaceInfo) (c : ℕ) : LanToLan :=
  let t := s.l2 lan peer.peer
  if peer.peer ≠ a then
    let hdl := (s.client c).interIfaceRtRuleHdl t
    let rt := (hdl .v4).foldl deleteHdl s.rt
    { s with rt := (hdl .v6).foldl deleteHdl rt }.modClient c fun x =>
      { x with interIfaceRtRuleHdl := Function.update x.interIfaceRtRuleHdl t fun _ => [] }
  else
    let hdl := (s.client c).intraIfaceRtRuleHdl
    let rt := (hdl .v4).foldl deleteHdl s.rt
    { s with rt := (hdl .v6).foldl deleteHdl rt }.modClient c fun x =>
      { x with intraIfaceRtRuleHdl := fun _ => [] }

/-- `add_client_rt_rule_for_new_iface`. -/
def addClientRtRuleForNewIface (s : LanToLan) (a : ℕ) : LanToLan :=
  match (s.node a).peerIfaceInfo with
  | [] => s
  | peer :: _ =>
      if (s.node a).refCntPeerL2HdrType (s.l2 lan peer.peer) = 1 then
        (s.node a).clientInfo.foldl (fun s c => s.addClientRtRule lan a peer c) s
      else s

/-- `clear_all_rt_rule_for_one_peer_iface`. -/
def clearAllRtRuleForOnePeerIface (s : LanToLan) (a : ℕ) (peer : PeerIfaceInfo) : LanToLan :=
  if (s.node a).refCntPeerL2HdrType (s.l2 lan peer.peer) = 0 then
    (s.node a).clientInfo.foldl (fun s c => s.delClientRtRule lan a peer c) s
  else s

/-! ## Filter rules -/

/-- Filter rules for some clients. -/
def addFltRules (s : LanToLan) (pIface : ℕ) (ip : IpType) (cs : List ℕ) (peer : PeerIfaceInfo)
    (b : Bank EthFltRule) : PeerIfaceInfo × Bank EthFltRule :=
  cs.foldl (fun r c => addClientFltRule pIface r.1 c (s.client c).macAddr ip r.2) (peer, b)

/-- `add_all_inter_interface_client_flt_rule`. -/
def addAllInterInterfaceClientFltRule (s : LanToLan) (a : ℕ) (ip : IpType) : LanToLan :=
  let r := forEach
    (fun peer b => s.addFltRules (s.node a).pIface ip (s.node peer.peer).clientInfo peer b)
    (s.node a).peerIfaceInfo s.flt
  { s with flt := r.2 }.modNode a fun n => { n with peerIfaceInfo := r.1 }

/-- `add_all_intra_interface_client_flt_rule`. -/
def addAllIntraInterfaceClientFltRule (s : LanToLan) (a : ℕ) (ip : IpType) : LanToLan :=
  let n := s.node a
  let r := s.addFltRules n.pIface ip n.clientInfo n.intraInterfaceInfo s.flt
  { s with flt := r.2 }.modNode a fun n => { n with intraInterfaceInfo := r.1 }

/-- `add_client_flt_rule` for each family that the interface has an address of. -/
def addAssignedFltRule (n : LanToLanIface) (c : ℕ) (mac : Mac) (peer : PeerIfaceInfo)
    (b : Bank EthFltRule) : PeerIfaceInfo × Bank EthFltRule :=
  let r := if n.isIpAddrAssigned .v4 then addClientFltRule n.pIface peer c mac .v4 b else (peer, b)
  if n.isIpAddrAssigned .v6 then addClientFltRule n.pIface r.1 c mac .v6 r.2 else r

/-- The loop that finds the information about the peer at `p` in the list of the interface at `a`. -/
def onPeer (s : LanToLan) (a p : ℕ)
    (f : PeerIfaceInfo → Bank EthFltRule → PeerIfaceInfo × Bank EthFltRule) : LanToLan :=
  let r := onFirst (fun peer => peer.peer = p) f (s.node a).peerIfaceInfo s.flt
  { s with flt := r.2 }.modNode a fun n => { n with peerIfaceInfo := r.1 }

/-- `add_one_client_flt_rule` on the interface at `a` for a client of the peer at `p`. -/
def addOneClientFltRule (s : LanToLan) (a p c : ℕ) : LanToLan :=
  s.onPeer a p (addAssignedFltRule (s.node a) c (s.client c).macAddr)

/-- `del_one_client_flt_rule`. -/
def delOneClientFltRule (s : LanToLan) (a p c : ℕ) : LanToLan :=
  s.onPeer a p (delClientFltRule (s.node a).isIpAddrAssigned c)

/-- The information about the interface itself changes, and filter rules with it. -/
def onIntra (s : LanToLan) (a : ℕ)
    (f : PeerIfaceInfo → Bank EthFltRule → PeerIfaceInfo × Bank EthFltRule) : LanToLan :=
  let r := f (s.node a).intraInterfaceInfo s.flt
  { s with flt := r.2 }.modNode a fun n => { n with intraInterfaceInfo := r.1 }

/-! ## Header processing contexts -/

/-- `add_hdr_proc_ctx`. -/
def addHdrProcCtx (s : LanToLan) (a : ℕ) (t : IpaHdrL2Type) : LanToLan :=
  if (s.node a).refCntPeerL2HdrType t = 1 then
    let r := ethBridgeAddHdrProcCtx lan (s.node a).pIface t s.ctx
    { s with ctx := r.2 }.modNode a fun n =>
      { n with hdrProcCtxForInterInterface := Function.update n.hdrProcCtxForInterInterface t r.1 }
  else s

/-- `del_hdr_proc_ctx`. -/
def delHdrProcCtx (s : LanToLan) (a : ℕ) (t : IpaHdrL2Type) : LanToLan :=
  if (s.node a).refCntPeerL2HdrType t = 0 then
    { s with ctx := s.ctx.remove ((s.node a).hdrProcCtxForInterInterface t) }
  else s

/-- `increment_ref_cnt_peer_l2_hdr_type` by one, and `decrement_ref_cnt_peer_l2_hdr_type`. -/
def addRefCnt (s : LanToLan) (a : ℕ) (t : IpaHdrL2Type) (k : ℤ) : LanToLan :=
  s.modNode a fun n =>
    { n with refCntPeerL2HdrType :=
        Function.update n.refCntPeerL2HdrType t (n.refCntPeerL2HdrType t + k) }

/-! ## An interface comes up -/

/-- The name of the routing table for traffic from one L2 type to another. -/
def rtTblName (src dst : IpaHdrL2Type) : IpType → String
  | .v4 => "eth_v4_" ++ ipaL2HdrType src ++ "_to_" ++ ipaL2HdrType dst
  | .v6 => "eth_v6_" ++ ipaL2HdrType src ++ "_to_" ++ ipaL2HdrType dst

/-- The name of the routing table for traffic within an interface. -/
def intraTblName : IpType → String
  | .v4 => "eth_v4_intra_interface"
  | .v6 => "eth_v6_intra_interface"

/-- `IPACM_LanToLan_Iface::handle_new_iface_up`. -/
def ifaceHandleNewIfaceUp (s : LanToLan) (a : ℕ) (nameForFlt nameForRt : IpType → String) (p : ℕ) :
    LanToLan :=
  let s := s.addRefCnt a (s.l2 lan p) 1
  let s := s.addHdrProcCtx lan a (s.l2 lan p)
  s.modNode a fun n => { n with peerIfaceInfo := ⟨p, nameForRt, nameForFlt, []⟩ :: n.peerIfaceInfo }

/-- `IPACM_LanToLan::handle_new_iface_up`. -/
def handleNewIfaceUp (s : LanToLan) (new exist : ℕ) : LanToLan :=
  let forFlt := rtTblName (s.l2 lan exist) (s.l2 lan new)
  let forRt := rtTblName (s.l2 lan new) (s.l2 lan exist)
  let s := s.ifaceHandleNewIfaceUp lan exist forFlt forRt new
  s.ifaceHandleNewIfaceUp lan new forRt forFlt exist

/-- `handle_intra_interface_info`. -/
def handleIntraInterfaceInfo (s : LanToLan) (a : ℕ) : LanToLan :=
  let r := ethBridgeAddHdrProcCtx lan (s.node a).pIface (s.l2 lan a) s.ctx
  { s with ctx := r.2 }.modNode a fun n =>
    { n with
      intraInterfaceInfo :=
        { n.intraInterfaceInfo with
          peer := a, rtTblNameForFlt := intraTblName, rtTblNameForRt := intraTblName }
      hdrProcCtxForIntraInterface := r.1 }

/-- The constructor of `IPACM_LanToLan_Iface`, with an address of one family. -/
def newIface (pIface : ℕ) (ip : IpType) : LanToLanIface where
  pIface := pIface
  isIpAddrAssigned := Function.update (fun _ => false) ip true
  supportInterIfaceOffload := !((lan pIface).wlan && (lan pIface).isGuestAp)
  supportIntraIfaceOffload := (lan pIface).wlan
  refCntPeerL2HdrType := fun _ => 0
  hdrProcCtxForInterInterface := fun _ => 0
  hdrProcCtxForIntraInterface := 0
  clientInfo := []
  peerIfaceInfo := []
  intraInterfaceInfo := ⟨0, fun _ => "", fun _ => "", []⟩

/-! ## Clients -/

/-- One pass of `IPACM_LanToLan_Iface::handle_client_add` over the peers. -/
def clientAddPass (a c : ℕ) (peer : PeerIfaceInfo) (s : LanToLan × (IpaHdrL2Type → Bool)) :
    LanToLan × (IpaHdrL2Type → Bool) :=
  let t := s.1.l2 lan peer.peer
  let s' := if s.2 t = false then
      (s.1.addClientRtRule lan a peer c, Function.update s.2 t true) else s
  (s'.1.addOneClientFltRule peer.peer a c, s'.2)

/-- `IPACM_LanToLan_Iface::handle_client_add`. -/
def ifaceHandleClientAdd (s : LanToLan) (a : ℕ) (mac : Mac) : LanToLan :=
  if (s.node a).clientInfo.any fun c => (s.client c).macAddr = mac then s
  else if (s.node a).clientInfo.length = maxNumClient then s
  else
    let c := newAddr s.clients (s.alloc 0)
    let s := { s with
      client := Function.update s.client c ⟨mac, fun _ _ => [], fun _ => []⟩
      alloc := fun n => s.alloc (n + 1) }
    let s := s.modNode a fun n => { n with clientInfo := c :: n.clientInfo }
    let s :=
      if (s.node a).supportInterIfaceOffload then
        ((s.node a).peerIfaceInfo.foldl (fun st peer => clientAddPass lan a c peer st)
          (s, fun _ => false)).1
      else s
    if (s.node a).supportIntraIfaceOffload then
      let s := s.addClientRtRule lan a (s.node a).intraInterfaceInfo c
      s.onIntra a (addAssignedFltRule (s.node a) c (s.client c).macAddr)
    else s

/-- One pass of `IPACM_LanToLan_Iface::handle_client_del` over the peers. -/
def clientDelPass (a c : ℕ) (peer : PeerIfaceInfo) (s : LanToLan × (IpaHdrL2Type → Bool)) :
    LanToLan × (IpaHdrL2Type → Bool) :=
  let s' := s.1.delOneClientFltRule peer.peer a c
  let t := s'.l2 lan peer.peer
  if s.2 t = false then (s'.delClientRtRule lan a peer c, Function.update s.2 t true) else (s', s.2)

/-- `IPACM_LanToLan_Iface::handle_client_del`. -/
def ifaceHandleClientDel (s : LanToLan) (a : ℕ) (mac : Mac) : LanToLan :=
  match (s.node a).clientInfo.find? fun c => (s.client c).macAddr = mac with
  | some c =>
      let s :=
        if (s.node a).supportInterIfaceOffload then
          ((s.node a).peerIfaceInfo.foldl (fun st peer => clientDelPass lan a c peer st)
            (s, fun _ => false)).1
        else s
      let s :=
        if (s.node a).supportIntraIfaceOffload then
          let s := s.onIntra a (delClientFltRule (s.node a).isIpAddrAssigned c)
          s.delClientRtRule lan a (s.node a).intraInterfaceInfo c
        else s
      s.modNode a fun n => { n with clientInfo := n.clientInfo.erase c }
  | none => s

/-! ## An interface goes down -/

/-- One pass of `handle_down_event` over the peers of the interface at `a`. -/
def downPass (a : ℕ) (peer : PeerIfaceInfo) (s : LanToLan) : LanToLan :=
  let other := peer.peer
  let t := s.l2 lan a
  let s := s.addRefCnt a (s.l2 lan other) (-1)
  let s := s.addRefCnt other t (-1)
  let s := s.onPeer a other (clearAllFltRuleForOnePeerIface (s.node a).isIpAddrAssigned)
  let s :=
    match (s.node other).peerIfaceInfo.find? fun q => q.peer = a with
    | some own =>
        let s := s.onPeer other a
          (clearAllFltRuleForOnePeerIface (s.node other).isIpAddrAssigned)
        let s := s.clearAllRtRuleForOnePeerIface lan other own
        let s := s.modNode other fun n =>
          { n with peerIfaceInfo := n.peerIfaceInfo.eraseP fun q => q.peer = a }
        s.delHdrProcCtx other t
    | none => s
  let s := s.clearAllRtRuleForOnePeerIface lan a peer
  s.delHdrProcCtx a (s.l2 lan other)

/-- `handle_down_event`. -/
def handleDownEvent (s : LanToLan) (a : ℕ) : LanToLan :=
  let s :=
    if (s.node a).supportInterIfaceOffload then
      let s := (s.node a).peerIfaceInfo.foldl (fun s peer => downPass lan a peer s) s
      s.modNode a fun n => { n with peerIfaceInfo := [] }
    else s
  let s :=
    if (s.node a).supportIntraIfaceOffload then
      let s := s.onIntra a (clearAllFltRuleForOnePeerIface (s.node a).isIpAddrAssigned)
      let s := s.clearAllRtRuleForOnePeerIface lan a (s.node a).intraInterfaceInfo
      { s with ctx := s.ctx.remove (s.node a).hdrProcCtxForIntraInterface }
    else s
  s.modNode a fun n => { n with clientInfo := [] }

/-! ## Events -/

/-- `handle_client_add`. -/
def handleClientAdd (s : LanToLan) (e : EthBridgeEvt) : LanToLan :=
  match s.findIface e.pIface with
  | some a => s.ifaceHandleClientAdd lan a e.macAddr
  | none =>
      if s.cachedClientAddEvent.length < maxNumCachedClientAddEvent then
        { s with cachedClientAddEvent := e :: s.cachedClientAddEvent }
      else s

/-- `handle_client_del`. -/
def handleClientDel (s : LanToLan) (e : EthBridgeEvt) : LanToLan :=
  match s.findIface e.pIface with
  | some a => s.ifaceHandleClientDel lan a e.macAddr
  | none => s

/-- `handle_cached_client_add_event`.  The interface is up, so `handle_client_add` leaves the list of
cached events alone while it is walked over. -/
def handleCachedClientAddEvent (s : LanToLan) (pIface : ℕ) : LanToLan :=
  let s' := (s.cachedClientAddEvent.filter fun e => e.pIface = pIface).foldl
    (fun s e => s.handleClientAdd lan e) s
  { s' with
    cachedClientAddEvent := s'.cachedClientAddEvent.filter fun e => e.pIface ≠ pIface }

/-- `clear_cached_client_add_event`. -/
def clearCachedClientAddEvent (s : LanToLan) (pIface : ℕ) : LanToLan :=
  { s with cachedClientAddEvent := s.cachedClientAddEvent.filter fun e => e.pIface ≠ pIface }

/-- One pass of `handle_iface_up` over the interfaces that are up already. -/
def linkPass (a b : ℕ) (s : LanToLan) : LanToLan :=
  if (s.node b).supportInterIfaceOffload then
    (s.handleNewIfaceUp lan a b).addClientRtRuleForNewIface lan b
  else s

/-- `handle_iface_up`. -/
def handleIfaceUp (s : LanToLan) (pIface : ℕ) (ip : IpType) : LanToLan :=
  match s.findIface pIface with
  | some a =>
      if (s.node a).isIpAddrAssigned ip = false then
        let s := s.modNode a fun n =>
          { n with isIpAddrAssigned := Function.update n.isIpAddrAssigned ip true }
        let s := if (s.node a).supportInterIfaceOffload then
            s.addAllInterInterfaceClientFltRule a ip else s
        if (s.node a).supportIntraIfaceOffload then s.addAllIntraInterfaceClientFltRule a ip else s
      else s
  | none =>
      if s.iface.length = maxNumIface then s
      else if !(lan pIface).txProp || !(lan pIface).rxProp then s
      else if (lan pIface).hdrL2Type = .l2None ∨ (lan pIface).hdrL2Type = .l2Max then s
      else
        let a := newAddr s.iface (s.alloc 0)
        let old := s.iface
        let s := { s with
          iface := a :: s.iface
          node := Function.update s.node a (newIface lan pIface ip)
          alloc := fun n => s.alloc (n + 1) }
        let s :=
          if (s.node a).supportInterIfaceOffload then
            (old.foldl (fun s b => linkPass lan a b s) s).addAllInterInterfaceClientFltRule a ip
          else s
        let s :=
          if (s.node a).supportIntraIfaceOffload then s.handleIntraInterfaceInfo lan a else s
        s.handleCachedClientAddEvent lan pIface

/-- `handle_iface_down`. -/
def handleIfaceDown (s : LanToLan) (pIface : ℕ) : LanToLan :=
  match s.findIface pIface with
  | some a =>
      let s := s.handleDownEvent lan a
      { s with iface := s.iface.erase a }
  | none => s.clearCachedClientAddEvent pIface

end LanToLan

/-- The events. -/
inductive LanToLanEvt
  | ifaceUp (pIface : ℕ) (ip : IpType)
  | ifaceDown (pIface : ℕ)
  | clientAdd (e : EthBridgeEvt)
  | clientDel (e : EthBridgeEvt)
  deriving DecidableEq, Repr

namespace LanToLan

/-- `event_callback`. -/
def eventCallback (lan : ℕ → LanProps) (s : LanToLan) : LanToLanEvt → LanToLan
  | .ifaceUp p ip => s.handleIfaceUp lan p ip
  | .ifaceDown p => s.handleIfaceDown lan p
  | .clientAdd e => s.handleClientAdd lan e
  | .clientDel e => s.handleClientDel lan e

/-- Nothing is up, and whatever the driver and the allocator are going to choose. -/
def init (flt rt ctx alloc : ℕ → ℕ) : LanToLan where
  iface := []
  cachedClientAddEvent := []
  node := fun _ => ⟨0, fun _ => false, false, false, fun _ => 0, fun _ => 0, 0, [], [],
    ⟨0, fun _ => "", fun _ => "", []⟩⟩
  client := fun _ => ⟨0, fun _ _ => [], fun _ => []⟩
  flt := .init flt
  rt := .init rt
  ctx := .init ctx
  alloc := alloc

/-- An event is handled. -/
def Step (lan : ℕ → LanProps) (s : LanToLan) (e : LanToLanEvt) (t : LanToLan) : Prop :=
  t = s.eventCallback lan e

end LanToLan

end Ipacm
