import OcnDevice.Core.HandleTable
import OcnDevice.Core.Run
import OcnDevice.Ipacm.ConntrackListener.Model
import OcnDevice.Ipacm.WlanRules.Model

/-!
# The default routes of WAN interfaces

There is an `IPACM_Wan` for each interface that may be the upstream: the modem, WLAN as a station,
or a cradle.  Its members `active_v4` and `active_v6` say that the default route goes over this
interface, and that the IPA has rules for it.  `wan_up` and `wan_up_v6` are shared by all instances,
and so are the events that tell the rest of IPACM.

The functions below are the member functions that change these, on one instance and what is shared,
in the Android build with `FEATURE_IPACM_HAL` and with gateways in the messages of the framework.
`dispatch` is the event dispatcher, which calls the instances in the order in which they registered.
Which calls of the driver succeed comes with each event, memory does not run out, and of a routing
rule only its place is kept: filter rules, and the rules for the addresses of the interface itself
and for its neighbours, are not looked at.
-/

namespace Ipacm.WanRoutes

open HandleTable WlanRules

/-! ## Data -/

/-- `IPA_MAX_NUM_WAN_CLIENTS`. -/
def ipaMaxNumWanClients : ℕ := 10

/-- `MAX_DEFAULT_v6_ROUTE_RULES`. -/
def maxDefaultV6RouteRules : ℕ := 2

/-- An `ipacm_wan_iface_type`. -/
inductive WanType
  | q6
  | wlan
  | ecm
  deriving DecidableEq, Repr

/-- Where the handle of a default route is kept: an element of `wan_route_rule_v4_hdl` or of
`wan_route_rule_v6_hdl`, or the first of `wan_route_rule_v6_hdl_a5`. -/
inductive WanRtHdl
  | v4 (tx : ℕ)
  | v6 (tx : ℕ)
  | v6A5
  deriving DecidableEq, Repr

/-- A default route in the driver: the interface that installed it, and for which place. -/
structure WanRt where
  ipaIfNum : ℕ
  place : WanRtHdl
  deriving DecidableEq, Repr

/-- An `ipa_wan_client`: a neighbour on the interface. -/
structure WanClient where
  mac : Mac
  v4Addr : Option UInt32 := none
  v6Addr : List V6Addr := []
  headerSet : IpType → Bool

/-- The members of an `IPACM_Wan`.  `tx_prop` is the families of its elements, `ext_prop` is the
`mux_id` of its first element, and a gateway is there while the flag beside it is set. -/
structure WanIface where
  ipaIfNum : ℕ
  isStaMode : WanType
  bridge : Bool := false
  txProp : Option (List IpType)
  hasRxProp : Bool := true
  extProp : Option ℕ := none
  ipType : Option IpaIpType := none
  wanV4Addr : UInt32 := 0
  wanV4AddrSet : Bool := false
  ipv6Addr : List V6Addr := []
  ipv6Prefix : UInt32 × UInt32 := (0, 0)
  wanV4AddrGw : Option UInt32 := none
  wanV6AddrGw : Option V6Addr := none
  active : IpType → Bool := fun _ => false
  headerSet : IpType → Bool := fun _ => false
  headerPartialDefaultWan : IpType → Bool := fun _ => false
  isDefaultGateway : Bool := false
  isXlat : Bool := false
  wanRouteRuleHdl : WanRtHdl → ℕ := fun _ => 0
  wanClient : List WanClient := []

/-- An `ipacm_event_iface_up`. -/
structure IfaceUp where
  ifname : Option ℕ := none
  ipv4Addr : UInt32 := 0
  ipv6Prefix : UInt32 × UInt32 := (0, 0)
  isSta : Bool
  xlatMuxId : ℕ := 0
  deriving DecidableEq, Repr

/-- The events that an `IPACM_Wan` posts: `IPA_HANDLE_WAN_UP` and `IPA_HANDLE_WAN_DOWN`, the ones for
IPv6, and the same with `TETHER`. -/
inductive WanEvt
  | up (fam : IpType) (data : IfaceUp)
  | down (fam : IpType) (data : IfaceUp)
  | upTether (fam : IpType) (isSta : Bool) (ipv6Prefix : UInt32 × UInt32)
  | downTether (fam : IpType) (isSta : Bool)
  deriving DecidableEq, Repr

/-- What the instances share: the static members, the default routes in the driver, and the events
posted so far. -/
structure WanShared where
  wanUp : IpType → Bool := fun _ => false
  wanUpDevName : Option ℕ := none
  backhaulIsStaMode : Bool := false
  backhaulIsWanBridge : Bool := false
  backhaulIpv6Prefix : UInt32 × UInt32 := (0, 0)
  xlatMuxId : ℕ := 0
  currWanIp : UInt32 := 0
  rules : HandleTable WanRt := .empty
  posted : List WanEvt := []

/-- An instance and what is shared. -/
abbrev WanAt := WanIface × WanShared

/-- What the driver answers while a default route is changed: which rules it adds, with which
handles, whether the header of the rule for exceptions is there, and which rules it deletes. -/
structure RtAns where
  add : WanRtHdl → Bool
  pick : WanRtHdl → ℕ
  hdr : Bool
  del : WanRtHdl → Bool

/-- `ip_type` includes a family. -/
def hasIp (ipType : Option IpaIpType) : IpType → Bool
  | .v4 => ipType = some .v4 ∨ ipType = some .max
  | .v6 => ipType = some .v6 ∨ ipType = some .max

/-- `config_ip_type`. -/
def configIpType (ipType : Option IpaIpType) (fam : IpType) : Option IpaIpType :=
  if hasIp ipType fam then ipType
  else
    match ipType, fam with
    | none, .v4 => some .v4
    | none, .v6 => some .v6
    | some _, _ => some .max

lemma hasIp_configIpType (t : Option IpaIpType) (f h : IpType) :
    hasIp (configIpType t f) h = (hasIp t h || decide (h = f)) := by
  cases f <;> cases h <;> rcases t with - | - | - | - <;> rfl

/-- The other family. -/
def otherFam : IpType → IpType
  | .v4 => .v6
  | .v6 => .v4

namespace WanIface

variable (x : WanIface)

/-- `m_is_sta_mode != Q6_WAN`. -/
def isSta : Bool := x.isStaMode ≠ .q6

/-- The places of the routes for the tx properties of a family. -/
def txPlaces : IpType → List WanRtHdl
  | .v4 => (((x.txProp.getD []).zipIdx).filter fun e => e.1 = .v4).map fun e => .v4 e.2
  | .v6 => (((x.txProp.getD []).zipIdx).filter fun e => e.1 = .v6).map fun e => .v6 e.2

end WanIface

/-- The place of the route for exceptions, which there is for IPv6. -/
def a5Places : IpType → List WanRtHdl
  | .v4 => []
  | .v6 => [.v6A5]

/-! ## One instance -/

section Instance

variable (a : WanAt) (fam : IpType) (ans : RtAns)

/-- `AddRoutingRule`, whose handle is kept at a place. -/
def addRule (k : WanRtHdl) (pick : ℕ) (a : WanAt) : WanAt :=
  ({ a.1 with wanRouteRuleHdl := Function.update a.1.wanRouteRuleHdl k (a.2.rules.fresh pick) },
    { a.2 with rules := a.2.rules.add pick ⟨a.1.ipaIfNum, k⟩ })

/-- `DeleteRoutingHdl`, for the handle that is kept at a place. -/
def deleteRule (k : WanRtHdl) (a : WanAt) : WanAt :=
  (a.1, { a.2 with rules := a.2.rules.del (a.1.wanRouteRuleHdl k) })

/-- Add rules for some places, up to the first that fails. -/
def addRules : List WanRtHdl → WanAt → WanAt × Bool
  | [], a => (a, true)
  | k :: ks, a => if ans.add k then addRules ks (addRule k (ans.pick k) a) else (a, false)

/-- Delete the rules of some places, up to the first that fails. -/
def deleteRules : List WanRtHdl → WanAt → WanAt × Bool
  | [], a => (a, true)
  | k :: ks, a => if ans.del k then deleteRules ks (deleteRule k a) else (a, false)

/-- The routes that `handle_route_add_evt` adds: for the tx properties if this is a station, and for
IPv6 one for exceptions, which needs a header. -/
def addRoutes : WanAt × Bool :=
  let r := if a.1.isSta then addRules ans (a.1.txPlaces fam) a else (a, true)
  if r.2 = false then r
  else if fam = .v6 ∧ ans.hdr = false then (r.1, false)
  else addRules ans (a5Places fam) r.1

/-- The end of `handle_route_add_evt`: the interface is the upstream, and an event says so. -/
def routeUp : WanAt :=
  let x := { a.1 with active := Function.update a.1.active fam true }
  let g := { a.2 with
    wanUp := Function.update a.2.wanUp fam true
    wanUpDevName := some x.ipaIfNum }
  match fam with
  | .v4 =>
      let mux := if x.isXlat ∧ x.isStaMode = .q6 then x.extProp.getD 0 else 0
      let data : IfaceUp :=
        ⟨some x.ipaIfNum, x.wanV4Addr, (0, 0), x.isSta, mux⟩
      (x, { g with xlatMuxId := mux, posted := g.posted ++ [.up .v4 data] })
  | .v6 =>
      let data : IfaceUp := ⟨some x.ipaIfNum, 0, x.ipv6Prefix, x.isSta, 0⟩
      (x, { g with backhaulIpv6Prefix := x.ipv6Prefix, posted := g.posted ++ [.up .v6 data] })

/-- The default route is on this interface, and so is the backhaul. -/
def takeBackhaul : WanAt :=
  ({ a.1 with isDefaultGateway := true },
    { a.2 with backhaulIsWanBridge := a.1.bridge, backhaulIsStaMode := a.1.isSta })

/-- The route waits for the header of the gateway. -/
def waitForHeader : WanAt :=
  ({ a.1 with
    headerPartialDefaultWan := Function.update a.1.headerPartialDefaultWan fam true }, a.2)

/-- `handle_route_add_evt`. -/
def handleRouteAddEvt : WanAt :=
  if a.1.txProp = none then a
  else if a.1.isSta ∧ a.1.headerSet fam = false then waitForHeader (takeBackhaul a) fam
  else if a.1.isStaMode = .q6 ∧ a.1.extProp = none then takeBackhaul a
  else
    let r := addRoutes (takeBackhaul a) fam ans
    if r.2 then routeUp r.1 fam else r.1

/-- The end of `handle_route_del_evt` and `handle_route_del_evt_ex`. -/
def routeDown : WanAt :=
  let data : IfaceUp :=
    match fam with
    | .v4 => { ipv4Addr := a.1.wanV4Addr, isSta := a.1.isSta }
    | .v6 => { ipv6Prefix := a.1.ipv6Prefix, isSta := a.1.isSta }
  ({ a.1 with active := Function.update a.1.active fam false },
    { a.2 with
      posted := a.2.posted ++ [.down fam data]
      wanUp := Function.update a.2.wanUp fam false
      wanUpDevName := if a.2.wanUp (otherFam fam) then a.2.wanUpDevName else none })

/-- The default route is not on this interface. -/
def leaveGateway : WanAt := ({ a.1 with isDefaultGateway := false }, a.2)

/-- What the two functions below share: they delete the routes of some places. -/
def routeDel (places : List WanRtHdl) : WanAt :=
  if a.1.txProp = none then a
  else if a.1.active fam = false then leaveGateway a
  else
    let r := deleteRules ans places (leaveGateway a)
    if r.2 then routeDown r.1 fam else r.1

/-- `handle_route_del_evt`. -/
def handleRouteDelEvt : WanAt := routeDel a fam ans (a.1.txPlaces fam ++ a5Places fam)

/-- `handle_route_del_evt_ex`. -/
def handleRouteDelEvtEx : WanAt := routeDel a fam ans (a5Places fam)

/-- The one of them that `event_callback` calls. -/
def routeDelEvt : WanAt :=
  if a.1.isSta then handleRouteDelEvt a fam ans else handleRouteDelEvtEx a fam ans

/-- `post_wan_up_tether_evt`. -/
def postWanUpTetherEvt : WanAt :=
  let ipv6Prefix := if fam = .v6 then a.1.ipv6Prefix else (0, 0)
  (a.1, { a.2 with posted := a.2.posted ++ [.upTether fam a.1.isSta ipv6Prefix] })

/-- `post_wan_down_tether_evt`. -/
def postWanDownTetherEvt : WanAt :=
  (a.1, { a.2 with posted := a.2.posted ++ [.downTether fam a.1.isSta] })

end Instance

/-! ## Headers of stations -/

/-- `handle_sta_header_add_evt` for the gateway of one family: the headers of the neighbour that is
the gateway become those of the interface, first the one of its own family.  The result says whether
the function goes on. -/
def takeHeaders (x : WanIface) (gw : Option (Option WanClient)) (fam : IpType) : WanIface × Bool :=
  match gw with
  | none => (x, true)
  | some none => (x, false)
  | some (some c) =>
      if c.headerSet fam = false then (x, false)
      else
        let y := { x with headerSet := Function.update x.headerSet fam true }
        if c.headerSet (otherFam fam) = false then (y, false)
        else ({ y with headerSet := Function.update y.headerSet (otherFam fam) true }, true)

/-- `get_wan_client_index_ipv4` for the gateway, if there is one. -/
def gatewayV4 (x : WanIface) : Option (Option WanClient) :=
  x.wanV4AddrGw.map fun gw => x.wanClient.find? fun c => c.v4Addr = some gw

/-- `get_wan_client_index_ipv6` for the gateway, if there is one. -/
def gatewayV6 (x : WanIface) : Option (Option WanClient) :=
  x.wanV6AddrGw.map fun gw => x.wanClient.find? fun c => c.v6Addr.contains gw

/-- The part of `handle_sta_header_add_evt` that looks for the headers. -/
def findHeaders (x : WanIface) : WanIface × Bool :=
  if x.headerSet .v4 ∨ x.headerSet .v6 then (x, false)
  else
    let r := takeHeaders x (gatewayV4 x) .v4
    if r.2 = false then r else takeHeaders r.1 (gatewayV6 r.1) .v6

/-- A route that waits for its header. -/
def addPartial (fam : IpType) (ans : RtAns) (a : WanAt) : WanAt :=
  if a.1.headerPartialDefaultWan fam then handleRouteAddEvt a fam ans else a

/-- `handle_sta_header_add_evt`. -/
def handleStaHeaderAddEvt (a : WanAt) (ans : IpType → RtAns) : WanAt :=
  let r := findHeaders a.1
  if r.2 = false then (r.1, a.2)
  else addPartial .v6 (ans .v6) (addPartial .v4 (ans .v4) (r.1, a.2))

/-! ## Events -/

/-- The family of an address. -/
def famOf : DstAddr → IpType
  | .v4 _ => .v4
  | .v6 _ => .v6

/-- `is_global_ipv6_addr`. -/
def isGlobalIpv6Addr (addr : V6Addr) : Bool := addr.1 &&& 0xFFC00000 ≠ 0xFE800000 &&& 0xFFC00000

/-- `IPA_ADDR_ADD_EVENT` and `handle_addr_evt`, where `ok` says whether the rules for the address are
installed. -/
def addrAddEvent (addr : DstAddr) (ok : Bool) (a : WanAt) : WanAt :=
  match addr with
  | .v4 ip =>
      if ip = 0 ∨ a.1.txProp = none ∨ a.1.hasRxProp = false then a
      else
        let x := { a.1 with ipType := configIpType a.1.ipType .v4 }
        if (x.wanV4AddrSet ∧ ip = x.wanV4Addr) ∨ ok = false then (x, a.2)
        else
          ({ x with wanV4Addr := ip, wanV4AddrSet := true },
            { a.2 with currWanIp := if x.isSta then a.2.currWanIp else ip })
  | .v6 ip =>
      if ip = (0, 0, 0, 0) ∨ a.1.ipv6Addr.length = maxDefaultV6RouteRules ∨
          a.1.txProp = none ∨ a.1.hasRxProp = false then a
      else
        let x := { a.1 with ipType := configIpType a.1.ipType .v6 }
        if x.ipv6Addr.contains ip ∨ ok = false then (x, a.2)
        else
          ({ x with
            ipv6Addr := x.ipv6Addr ++ [ip]
            ipv6Prefix := if isGlobalIpv6Addr ip then (ip.1, ip.2.1) else x.ipv6Prefix }, a.2)

/-- What the driver answers while a default route goes to an interface: to the routes that waited for
a header there, to the route itself, and to the interfaces that had it before. -/
structure RouteAns where
  waiting : IpType → RtAns
  own : RtAns
  old : ℕ → RtAns

/-- Remember the gateway. -/
def setGateway (x : WanIface) : DstAddr → WanIface
  | .v4 gw => { x with wanV4AddrGw := some gw }
  | .v6 gw => { x with wanV6AddrGw := some gw }

/-- The flag beside the IPv4 gateway is reset along with the route, the one for IPv6 is not. -/
def forgetGateway (x : WanIface) : IpType → WanIface
  | .v4 => { x with wanV4AddrGw := none }
  | .v6 => x

/-- What `IPA_WAN_UPSTREAM_ROUTE_ADD_EVENT` does while the interface is not active. -/
def takeRoute (gw : DstAddr) (ans : RouteAns) (a : WanAt) : WanAt :=
  let b := handleStaHeaderAddEvt (setGateway a.1 gw, a.2) ans.waiting
  if b.1.active (famOf gw) then b else handleRouteAddEvt b (famOf gw) ans.own

/-- `IPA_WAN_UPSTREAM_ROUTE_ADD_EVENT` for the interface itself. -/
def upstreamAddOwn (gw : DstAddr) (ans : RouteAns) (a : WanAt) : WanAt :=
  if hasIp a.1.ipType (famOf gw) = false then a
  else if famOf gw = .v6 ∧ a.1.ipv6Prefix = (0, 0) then a
  else if a.1.active (famOf gw) then postWanUpTetherEvt a (famOf gw)
  else postWanUpTetherEvt (takeRoute gw ans a) (famOf gw)

/-- `IPA_WAN_UPSTREAM_ROUTE_ADD_EVENT` for another interface. -/
def upstreamAddOther (fam : IpType) (ans : RouteAns) (a : WanAt) : WanAt :=
  if a.1.active fam then routeDelEvt (forgetGateway a.1 fam, a.2) fam (ans.old a.1.ipaIfNum)
  else a

/-- `IPA_WAN_UPSTREAM_ROUTE_ADD_EVENT`. -/
def upstreamAddEvent (n : ℕ) (gw : DstAddr) (ans : RouteAns) (a : WanAt) : WanAt :=
  if a.1.ipaIfNum = n then upstreamAddOwn gw ans a else upstreamAddOther (famOf gw) ans a

/-- `IPA_WAN_UPSTREAM_ROUTE_DEL_EVENT` for the interface itself. -/
def upstreamDelEvent (fam : IpType) (ans : RtAns) (a : WanAt) : WanAt :=
  if a.1.active fam then
    routeDelEvt (postWanDownTetherEvt (forgetGateway a.1 fam, a.2) fam) fam ans
  else a

/-- The interface's own address. -/
def isOwn (x : WanIface) : DstAddr → Bool
  | .v4 ip => ip = x.wanV4Addr
  | .v6 ip => x.ipv6Addr.contains ip

/-- `handle_wan_hdr_init`, where `ok` says whether the headers are added.  Of a neighbour whose
headers are not, nothing is kept that matters. -/
def handleWanHdrInit (x : WanIface) (mac : Mac) (ok : Bool) : WanIface :=
  if (∃ c ∈ x.wanClient, c.mac = mac) ∨ x.wanClient.length ≥ ipaMaxNumWanClients ∨
      x.txProp = none ∨ ok = false then x
  else
    { x with wanClient :=
        x.wanClient ++ [{ mac, headerSet := fun fam => fam ∈ x.txProp.getD [] }] }

/-- What `handle_wan_client_ipaddr` does to the record of the neighbour, if it is something. -/
def clientIpaddr (c : WanClient) : DstAddr → Option WanClient
  | .v4 ip => if ip = 0 ∨ c.v4Addr = some ip then none else some { c with v4Addr := some ip }
  | .v6 ip =>
      if ip = (0, 0, 0, 0) ∨ c.v6Addr.length ≥ ipv6NumAddr ∨ c.v6Addr.contains ip then none
      else some { c with v6Addr := c.v6Addr ++ [ip] }

/-- `handle_wan_client_ipaddr`. -/
def handleWanClientIpaddr (x : WanIface) (mac : Mac) (addr : DstAddr) : Option WanIface :=
  match x.wanClient.findIdx? fun c => c.mac = mac with
  | none => none
  | some i =>
      (x.wanClient[i]?.bind fun c => clientIpaddr c addr).map fun c =>
        { x with wanClient := x.wanClient.set i c }

/-- What `IPA_NEIGH_CLIENT_IP_ADDR_ADD_EVENT` does to the records of the neighbours, and whether it
goes on. -/
def neighRecord (x : WanIface) (mac : Mac) (addr : DstAddr) (ok : Bool) : WanIface × Bool :=
  if (x.isStaMode = .wlan ∧ isOwn x addr) ∨ mac = 0 then (x, false)
  else
    let y := handleWanHdrInit x mac ok
    match handleWanClientIpaddr y mac addr with
    | none => (y, false)
    | some z => (z, true)

/-- `IPA_NEIGH_CLIENT_IP_ADDR_ADD_EVENT` for the interface itself. -/
def neighAddEvent (mac : Mac) (addr : DstAddr) (ok : Bool) (ans : IpType → RtAns) (a : WanAt) :
    WanAt :=
  let r := neighRecord a.1 mac addr ok
  if r.2 then handleStaHeaderAddEvt (r.1, a.2) ans else (r.1, a.2)

/-- `IPA_WAN_XLAT_CONNECT_EVENT` for the interface itself. -/
def xlatConnectEvent (a : WanAt) : WanAt :=
  ({ a.1 with isXlat := a.1.isXlat || a.1.isStaMode = .q6 }, a.2)

/-- A family's part of `handle_down_evt`. -/
def downSta (fam : IpType) (ans : RtAns) (a : WanAt) : WanAt :=
  if a.1.active fam then postWanDownTetherEvt (handleRouteDelEvt a fam ans) fam else a

/-- `handle_down_evt`. -/
def handleDownEvt (ans : IpType → RtAns) (a : WanAt) : WanAt :=
  if a.1.ipType = none then a else downSta .v6 (ans .v6) (downSta .v4 (ans .v4) a)

/-- `IPACM_Wan::wan_up = false` -/
def markDown (fam : IpType) (a : WanAt) : WanAt :=
  (a.1, { a.2 with wanUp := Function.update a.2.wanUp fam false })

/-- A family's part of `handle_down_evt_ex`. -/
def downQ6 (fam : IpType) (ans : RtAns) (a : WanAt) : WanAt :=
  postWanDownTetherEvt (handleRouteDelEvtEx (markDown fam a) fam ans) fam

/-- The name is kept while the other family is up. -/
def resetName (fam : IpType) (a : WanAt) : WanAt :=
  (a.1, { a.2 with wanUpDevName := if a.2.wanUp (otherFam fam) then a.2.wanUpDevName else none })

/-- The name is reset. -/
def clearName (a : WanAt) : WanAt := (a.1, { a.2 with wanUpDevName := none })

/-- `handle_down_evt_ex`. -/
def handleDownEvtEx (ans : IpType → RtAns) (a : WanAt) : WanAt :=
  if a.1.isDefaultGateway = false then a
  else
    match a.1.ipType with
    | none => a
    | some .v4 => resetName .v4 (downQ6 .v4 (ans .v4) a)
    | some .v6 => resetName .v6 (downQ6 .v6 (ans .v6) a)
    | some .max => clearName (downQ6 .v6 (ans .v6) (downQ6 .v4 (ans .v4) a))

/-- `IPA_WLAN_LINK_DOWN_EVENT` or `IPA_LINK_DOWN_EVENT` for the interface itself, up to where the
instance is deleted. -/
def linkDownEvent (ans : IpType → RtAns) (a : WanAt) : WanAt :=
  if a.1.isSta then handleDownEvt ans a else handleDownEvtEx ans a

/-! ## The system -/

/-- The instances, in the order in which they are called, and what they share. -/
structure WanSys where
  ifaces : List WanIface := []
  shared : WanShared := {}

/-- `ProcessEvt`: an event reaches one instance after the other. -/
def dispatch (visit : WanAt → WanAt) : List WanIface → WanShared → List WanIface × WanShared
  | [], g => ([], g)
  | x :: l, g =>
      let r := visit (x, g)
      let rest := dispatch visit l r.2
      (r.1 :: rest.1, rest.2)

/-- What happens to the interfaces.  Each event says for which interface it is, and what the driver
answers. -/
inductive WanOp
  | create (n : ℕ) (type : WanType) (bridge : Bool) (txProp : Option (List IpType))
      (hasRxProp : Bool) (extProp : Option ℕ)
  | addrAdd (n : ℕ) (addr : DstAddr) (ok : Bool)
  | upstreamAdd (n : ℕ) (gw : DstAddr) (ans : RouteAns)
  | upstreamDel (n : ℕ) (fam : IpType) (ans : RtAns)
  | neighAdd (n : ℕ) (mac : Mac) (addr : DstAddr) (ok : Bool) (ans : IpType → RtAns)
  | xlatConnect (n : ℕ)
  | linkDown (n : ℕ) (ans : IpType → RtAns)

namespace WanSys

variable (s : WanSys) (n : ℕ)

/-- An event reaches all instances. -/
def process (visit : WanAt → WanAt) : WanSys :=
  let r := dispatch visit s.ifaces s.shared
  ⟨r.1, r.2⟩

/-- An event that all but one ignore. -/
def processFor (visit : WanAt → WanAt) : WanSys :=
  s.process fun a => if a.1.ipaIfNum = n then visit a else a

end WanSys

/-- Handle an event.  `create_iface_instance` makes a new instance, which registers behind the
others, and an instance is deleted when its interface is gone. -/
def WanOp.handle (s : WanSys) : WanOp → WanSys
  | .create n type bridge txProp hasRxProp extProp =>
      { s with ifaces := s.ifaces ++
          [{ ipaIfNum := n, isStaMode := type, bridge, txProp, hasRxProp, extProp }] }
  | .addrAdd n addr ok => s.processFor n (addrAddEvent addr ok)
  | .upstreamAdd n gw ans => s.process (upstreamAddEvent n gw ans)
  | .upstreamDel n fam ans => s.processFor n (upstreamDelEvent fam ans)
  | .neighAdd n mac addr ok ans => s.processFor n (neighAddEvent mac addr ok ans)
  | .xlatConnect n => s.processFor n xlatConnectEvent
  | .linkDown n ans =>
      let t := s.processFor n (linkDownEvent ans)
      { t with ifaces := t.ifaces.filter fun x => x.ipaIfNum ≠ n }

end Ipacm.WanRoutes
