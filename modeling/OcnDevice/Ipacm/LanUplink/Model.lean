import OcnDevice.Ipacm.UplinkFilter
import OcnDevice.Ipacm.WanRoutes.Model

/-!
# The uplink rules of a downstream interface

An interface of the LAN offloads the traffic of its clients to the WAN by filter rules on its pipe:
those that the modem asks for, or one for a station as the backhaul, and for IPv6 one more that keeps
the traffic within the prefix from it.  They are wanted while the framework has named the interface
as a downstream (`IPA_DOWNSTREAM_ADD`) and the WAN is its upstream (`IPA_HANDLE_WAN_UP_TETHER`).

The functions below are the members of `IPACM_Lan` that install and remove them, and the parts of the
events that call these, in the Android build with `FEATURE_IPACM_HAL`; `IPACM_Wlan` inherits the
functions and handles the events in the same way but for one thing.  The interface has rx
properties, memory does not run out, and which calls of the driver succeed comes with each event; an
ioctl that adds several rules adds all of them or none.  What the rules match is in
`UplinkFilter`.
-/

namespace Ipacm.LanUplink

open HandleTable WlanRules WanRoutes
open UplinkFilter (maxWanUlFilterRules)

/-! ## Data -/

/-- What a filter rule is for: traffic that the modem asks for, where `k` is the place of its handle,
the default route of a station, the IPv6 prefix, or something that is not looked at. -/
inductive FltRule
  | modem (fam : IpType) (k : ℕ)
  | sta (fam : IpType)
  | v6Prefix
  | other
  deriving DecidableEq, Repr

/-- The kinds of interfaces, from `ipa_if_cate`, without those behind an ODU. -/
inductive LanCate
  | lan
  | eth
  | wlan
  deriving DecidableEq, Repr

/-- The members of an `IPACM_Lan`.  `wan_ul_fl_rule_hdl` has as many handles as
`num_wan_ul_fl_rule`, and `staUlFlRuleHdl` is `lan_wan_fl_rule_hdl[0]` and the one behind the default
rules of `dft_v6fl_rule_hdl`. -/
structure LanIface where
  cate : LanCate
  isActive : Bool := true
  ipType : Option IpaIpType := none
  ipv6Addr : List V6Addr := []
  isUpstreamSet : IpType → Bool
  isDownstreamSet : IpType → Bool := fun _ => false
  modemUlSet : IpType → Bool := fun _ => false
  staUlSet : IpType → Bool := fun _ => false
  wanUlFlRuleHdl : IpType → List ℕ := fun _ => []
  staUlFlRuleHdl : IpType → ℕ
  ipv6PrefixFltRuleHdl : ℕ := 0

/-- What is outside of the interface: the filter rules in the driver, the rule counts of its pipe in
`IPACM_Config`, and how often a handle was passed for deletion under which the driver does not have
the rule that is meant. -/
structure LanShared where
  rules : HandleTable FltRule
  fltRuleCount : IpType → ℤ
  wrongDels : ℕ := 0

/-- An interface and what is outside of it. -/
abbrev LanAt := LanIface × LanShared

/-- The static members of `IPACM_Wan` that are read. -/
structure Backhaul where
  backhaulIsStaMode : Bool
  wanUp : IpType → Bool

/-- What the system answers while rules are installed or removed: whether the mux id is written,
what comes before the rules succeeds, and rules are added, with which handles; how many rules the
modem asks for; and which rules are deleted. -/
structure UlAns where
  qmap : Bool
  ready : Bool
  add : Bool
  addPrefix : Bool
  pick : FltRule → ℕ
  numExtProps : ℕ
  del : FltRule → Bool

/-! ## Filter rules -/

section Rules

variable (fam : IpType) (ans : UlAns)

/-- `AddFilteringRule` for one rule, and `increaseFltRuleCount`. -/
def addFilteringRule (r : FltRule) (g : LanShared) : LanShared :=
  { g with
    rules := g.rules.add (ans.pick r) r
    fltRuleCount := Function.update g.fltRuleCount fam (g.fltRuleCount fam + 1) }

/-- `decreaseFltRuleCount`. -/
def decreaseFltRuleCount (n : ℕ) (g : LanShared) : LanShared :=
  { g with fltRuleCount := Function.update g.fltRuleCount fam (g.fltRuleCount fam - n) }

/-- A handle is passed for deletion. -/
def noteDel (h : ℕ) (r : FltRule) (g : LanShared) : LanShared :=
  if (h, r) ∈ g.rules.entries then g else { g with wrongDels := g.wrongDels + 1 }

/-- `DeleteFilteringHdls`, for handles and the rules that they stand for.  It passes over handles that
are zero, and the driver refuses those that it does not have. -/
def deleteFilteringHdls : List (ℕ × FltRule) → LanShared → LanShared × Bool
  | [], g => (g, true)
  | (h, r) :: l, g =>
      if h = 0 then deleteFilteringHdls l g
      else
        let g := noteDel h r g
        if h ∈ g.rules.handles ∧ ans.del r then
          deleteFilteringHdls l { g with rules := g.rules.del h }
        else (g, false)

/-! ## Installing and removing -/

/-- `install_ipv6_prefix_flt_rule`. -/
def installIpv6PrefixFltRule (a : LanAt) : LanAt :=
  if ans.addPrefix then
    ({ a.1 with ipv6PrefixFltRuleHdl := a.2.rules.fresh (ans.pick .v6Prefix) },
      addFilteringRule .v6 ans .v6Prefix a.2)
  else a

/-- `delete_ipv6_prefix_flt_rule`. -/
def deleteIpv6PrefixFltRule (a : LanAt) : LanAt :=
  let r := deleteFilteringHdls ans [(a.1.ipv6PrefixFltRuleHdl, .v6Prefix)] a.2
  if r.2 then (a.1, decreaseFltRuleCount .v6 1 r.1) else (a.1, r.1)

/-- One rule that the modem asks for. -/
def addModemRule (a : LanAt) : LanAt :=
  let hdls := a.1.wanUlFlRuleHdl fam
  let r := FltRule.modem fam hdls.length
  ({ a.1 with
    wanUlFlRuleHdl :=
      Function.update a.1.wanUlFlRuleHdl fam (hdls ++ [a.2.rules.fresh (ans.pick r)]) },
    addFilteringRule fam ans r a.2)

/-- `handle_uplink_filter_rule`. -/
def handleUplinkFilterRule (a : LanAt) : LanAt :=
  if ans.numExtProps > maxWanUlFilterRules ∨ ans.ready = false ∨ ans.add = false then a
  else forUpTo ans.numExtProps (fun _ => addModemRule fam ans) a

/-- `handle_wan_up_ex`.  The flag is set whether rules were installed or not. -/
def handleWanUpEx (a : LanAt) : LanAt :=
  if ans.qmap = false ∨ a.1.modemUlSet fam then a
  else
    let b := handleUplinkFilterRule fam ans a
    ({ b.1 with modemUlSet := Function.update b.1.modemUlSet fam true }, b.2)

/-- `handle_wan_up`. -/
def handleWanUp (a : LanAt) : LanAt :=
  if a.1.staUlSet fam ∨ ans.ready = false ∨ ans.add = false then a
  else
    ({ a.1 with
      staUlSet := Function.update a.1.staUlSet fam true
      staUlFlRuleHdl :=
        Function.update a.1.staUlFlRuleHdl fam (a.2.rules.fresh (ans.pick (.sta fam))) },
      addFilteringRule fam ans (.sta fam) a.2)

/-- What the events do when the rules become wanted. -/
def addUlRules (isSta : Bool) (a : LanAt) : LanAt :=
  let b := if fam = .v6 then installIpv6PrefixFltRule ans a else a
  if isSta then handleWanUp fam ans b else handleWanUpEx fam ans b

/-- The rules that the modem asked for, by their handles. -/
def modemRules (hdls : List ℕ) : List (ℕ × FltRule) :=
  hdls.zipIdx.map fun e => (e.1, .modem fam e.2)

/-- What `handle_wan_down` and `handle_wan_down_v6` share. -/
def deleteUlRules (isStaMode : Bool) (a : LanAt) : LanAt :=
  let hdls := a.1.wanUlFlRuleHdl fam
  if isStaMode = false ∧ a.1.modemUlSet fam then
    if hdls.length > maxWanUlFilterRules ∨ hdls = [] then a
    else
      let r := deleteFilteringHdls ans (modemRules fam hdls) a.2
      if r.2 then
        ({ a.1 with
          wanUlFlRuleHdl := Function.update a.1.wanUlFlRuleHdl fam []
          modemUlSet := Function.update a.1.modemUlSet fam false },
          decreaseFltRuleCount fam hdls.length r.1)
      else (a.1, r.1)
  else
    let r := deleteFilteringHdls ans [(a.1.staUlFlRuleHdl fam, .sta fam)] a.2
    if r.2 then
      ({ a.1 with staUlSet := Function.update a.1.staUlSet fam false },
        decreaseFltRuleCount fam 1 r.1)
    else (a.1, r.1)

/-- `handle_wan_down`. -/
def handleWanDown (isStaMode : Bool) (a : LanAt) : LanAt := deleteUlRules .v4 ans isStaMode a

/-- `handle_wan_down_v6`. -/
def handleWanDownV6 (isStaMode : Bool) (a : LanAt) : LanAt :=
  deleteUlRules .v6 ans isStaMode (deleteIpv6PrefixFltRule ans a)

/-- The one of them for a family. -/
def wanDown (isStaMode : Bool) : LanAt → LanAt :=
  match fam with
  | .v4 => handleWanDown ans isStaMode
  | .v6 => handleWanDownV6 ans isStaMode

/-! ## Events -/

/-- Set a flag for the upstream. -/
def setUpstream (b : Bool) (a : LanAt) : LanAt :=
  ({ a.1 with isUpstreamSet := Function.update a.1.isUpstreamSet fam b }, a.2)

/-- Set a flag for the downstream. -/
def setDownstream (b : Bool) (a : LanAt) : LanAt :=
  ({ a.1 with isDownstreamSet := Function.update a.1.isDownstreamSet fam b }, a.2)

/-- `IPA_HANDLE_WAN_UP_TETHER` and `IPA_HANDLE_WAN_UP_V6_TETHER`.  Except for WLAN, a station is no
upstream for IPv4. -/
def wanUpTether (isSta : Bool) (a : LanAt) : LanAt :=
  if a.1.isActive = false ∨ (a.1.cate ≠ .wlan ∧ fam = .v4 ∧ isSta) ∨
      hasIp a.1.ipType fam = false ∨ a.1.isUpstreamSet fam then a
  else if a.1.isDownstreamSet fam then addUlRules fam ans isSta (setUpstream fam true a)
  else setUpstream fam true a

/-- `IPA_HANDLE_WAN_DOWN_TETHER` and `IPA_HANDLE_WAN_DOWN_V6_TETHER`. -/
def wanDownTether (isSta : Bool) (a : LanAt) : LanAt :=
  if a.1.isActive = false ∨ hasIp a.1.ipType fam = false ∨ a.1.isUpstreamSet fam = false then a
  else if a.1.isDownstreamSet fam then wanDown fam ans isSta (setUpstream fam false a)
  else setUpstream fam false a

/-- `IPA_DOWNSTREAM_ADD` for the interface itself. -/
def downstreamAdd (bh : Backhaul) (a : LanAt) : LanAt :=
  if a.1.isActive = false ∨ a.1.isDownstreamSet fam then a
  else if a.1.isUpstreamSet fam ∧ hasIp a.1.ipType fam then
    addUlRules fam ans bh.backhaulIsStaMode (setDownstream fam true a)
  else setDownstream fam true a

/-- `IPA_DOWNSTREAM_DEL` for the interface itself, which does not look at `ip_type`. -/
def downstreamDel (bh : Backhaul) (a : LanAt) : LanAt :=
  if a.1.isActive = false ∨ a.1.isDownstreamSet fam = false then a
  else if a.1.isUpstreamSet fam then
    wanDown fam ans bh.backhaulIsStaMode (setDownstream fam false a)
  else setDownstream fam false a

end Rules

/-- The flags for the upstreams that are up, without any rules. -/
def findUpstreams (bh : Backhaul) (x : LanIface) : LanIface :=
  { x with isUpstreamSet := fun fam => x.isUpstreamSet fam || bh.wanUp fam }

/-- How the routing rules for an address are added: all of them, one with a status that is not
`IPACM_FAILURE`, or not. -/
inductive RtAdd
  | added
  | refused
  | failed
  deriving DecidableEq, Repr

/-- `IPA_ADDR_ADD_EVENT` for the interface itself and `handle_addr_evt`. -/
def addrAdd (addr : DstAddr) (bh : Backhaul) (rt : RtAdd) (x : LanIface) : LanIface :=
  match addr with
  | .v4 ip =>
      if x.isActive = false ∨ ip = 0 ∨ hasIp x.ipType .v4 then x
      else
        let y := { x with ipType := configIpType x.ipType .v4 }
        if rt = .failed then y else findUpstreams bh y
  | .v6 ip =>
      if x.isActive = false ∨ ip = (0, 0, 0, 0) ∨
          (hasIp x.ipType .v6 ∧ x.ipv6Addr.length = maxDefaultV6RouteRules) then x
      else
        let y := { x with ipType := configIpType x.ipType .v6 }
        if x.ipv6Addr.contains ip ∨ rt = .failed then y
        else
          findUpstreams bh
            { y with ipv6Addr := if rt = .added then x.ipv6Addr ++ [ip] else x.ipv6Addr }

/-- What `handle_down_evt` does for a family. -/
def downFam (fam : IpType) (bh : Backhaul) (ans : UlAns) (a : LanAt) : LanAt :=
  if bh.wanUp fam then wanDown fam ans bh.backhaulIsStaMode a else a

/-- `IPA_LINK_DOWN_EVENT` or `IPA_WLAN_LINK_DOWN_EVENT` for the interface itself, and
`handle_down_evt`. -/
def linkDown (bh : Backhaul) (ans : IpType → UlAns) (a : LanAt) : LanAt :=
  if a.1.isActive = false then a
  else
    let b :=
      if a.1.ipType = none then a else downFam .v6 bh (ans .v6) (downFam .v4 bh (ans .v4) a)
    ({ b.1 with isActive := false }, b.2)

/-- What happens to the interface. -/
inductive LanOp
  | wanUpTether (fam : IpType) (isSta : Bool) (ans : UlAns)
  | wanDownTether (fam : IpType) (isSta : Bool) (ans : UlAns)
  | downstreamAdd (fam : IpType) (bh : Backhaul) (ans : UlAns)
  | downstreamDel (fam : IpType) (bh : Backhaul) (ans : UlAns)
  | addrAdd (addr : DstAddr) (bh : Backhaul) (rt : RtAdd)
  | linkDown (bh : Backhaul) (ans : IpType → UlAns)

/-- Handle an event. -/
def LanOp.handle (a : LanAt) : LanOp → LanAt
  | .wanUpTether fam isSta ans => LanUplink.wanUpTether fam ans isSta a
  | .wanDownTether fam isSta ans => LanUplink.wanDownTether fam ans isSta a
  | .downstreamAdd fam bh ans => LanUplink.downstreamAdd fam ans bh a
  | .downstreamDel fam bh ans => LanUplink.downstreamDel fam ans bh a
  | .addrAdd addr bh rt => (LanUplink.addrAdd addr bh rt a.1, a.2)
  | .linkDown bh ans => LanUplink.linkDown bh ans a

/-- The constructor.  `lan_wan_fl_rule_hdl` is left as it is found. -/
def LanIface.init (cate : LanCate) (bh : Backhaul) (lanWanFlRuleHdl : ℕ) : LanIface where
  cate
  isUpstreamSet fam := if cate = .lan ∧ bh.backhaulIsStaMode then false else bh.wanUp fam
  staUlFlRuleHdl fam := if fam = .v4 then lanWanFlRuleHdl else 0

end Ipacm.LanUplink
