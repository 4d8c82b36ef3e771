import OcnDevice.Core.Loop
import OcnDevice.Core.Run
import OcnDevice.Core.Slots
import OcnDevice.Ipacm.LanToLan.Model
import OcnDevice.Ipacm.NatApp.Model

/-!
# The routing rules of WLAN clients

An `IPACM_Wlan` installs routing rules for each of its clients: one for each IPv4 tx property, and
two for each IPv6 tx property and each IPv6 address.  A rule for packets that come down from the WAN
names a pipe of the tx property, which is another one while the radio serves two channels
(`isMCC_Mode`).  The record of a client keeps the handles of its rules, and counts which of them are
in use.

The functions below are the member functions that install, change and delete the rules, on one
interface and the rules that the driver has of it.  Every call of the driver succeeds, and it is the
driver that chooses the handles.
-/

namespace Ipacm.WlanRules

open HandleTable

/-! ## Data -/

/-- `IPV6_NUM_ADDR`. -/
def ipv6NumAddr : ℕ := 3

/-- The four words of an IPv6 address. -/
abbrev V6Addr := UInt32 × UInt32 × UInt32 × UInt32

/-- The elements of `wifi_rt_hdl`, each of which keeps the handle of a rule. -/
inductive RtHdl
  | v4 (tx : ℕ)
  | v6 (tx num : ℕ)
  | v6Wan (tx num : ℕ)
  deriving DecidableEq, Repr

/-- The routing tables that the rules go to: `rt_tbl_lan_v4`, `rt_tbl_v6` and `rt_tbl_wan_v6`. -/
inductive RtTbl
  | lanV4
  | lanV6
  | wanV6
  deriving DecidableEq, Repr

/-- The address that a rule matches, with all bits of the mask set. -/
inductive DstAddr
  | v4 (addr : UInt32)
  | v6 (addr : V6Addr)
  deriving DecidableEq, Repr

/-- A routing rule.  What it matches is the address and the other attributes, if there are any. -/
structure RtRule (A : Type*) where
  tbl : RtTbl
  dst : ℕ
  attrib : Option A
  dstAddr : DstAddr
  hdrHdl : ℕ
  hashable : Bool
  deriving DecidableEq

/-- An element of `tx_prop->tx`. -/
structure TxProp (A : Type*) where
  ip : IpType
  attrib : A
  dstPipe : ℕ
  altDstPipe : ℕ

/-- What the driver told about the interface, which never changes. -/
structure IfaceProps (A : Type*) where
  hasTxProp : Bool
  numTxProps : ℕ
  tx : ℕ → TxProp A
  excpPipe : ℕ

/-- An `ipa_wlan_client`. -/
structure WlanClient where
  mac : Mac
  v4Addr : UInt32
  v6Addr : ℕ → V6Addr
  hdrHdlV4 : ℕ
  hdrHdlV6 : ℕ
  routeRuleSetV4 : Bool
  routeRuleSetV6 : ℕ
  ipv4Set : Bool
  ipv6Set : ℕ
  powerSaveSet : Bool
  wifiRtHdl : RtHdl → ℕ

/-- A record as `calloc` gives it. -/
def WlanClient.zero : WlanClient where
  mac := 0
  v4Addr := 0
  v6Addr _ := (0, 0, 0, 0)
  hdrHdlV4 := 0
  hdrHdlV6 := 0
  routeRuleSetV4 := false
  routeRuleSetV6 := 0
  ipv4Set := false
  ipv6Set := 0
  powerSaveSet := false
  wifiRtHdl _ := 0

/-- The members of an `IPACM_Wlan`, `isMCC_Mode` and the rules that the driver has. -/
structure WlanIface (A : Type*) where
  isMCCMode : Bool
  ipv6Prefix : UInt32 × UInt32
  numWifiClient : ℕ
  wlanClient : ℕ → WlanClient
  rules : HandleTable (RtRule A)

/-- The constructor. -/
def WlanIface.init (A : Type*) : WlanIface A := ⟨false, (0, 0), 0, fun _ => .zero, .empty⟩

variable {A : Type*} (p : IfaceProps A)

/-! ## Rules -/

namespace IfaceProps

/-- The tx properties of a family, in order. -/
def txOf (fam : IpType) : List ℕ := (List.range p.numTxProps).filter fun k => (p.tx k).ip = fam

/-- The IPv4 rules of a client. -/
def v4Rules : List RtHdl := (p.txOf .v4).map .v4

/-- The IPv6 rules of a client for the addresses from `lo` to below `hi`. -/
def v6Rules (lo hi : ℕ) : List RtHdl :=
  (p.txOf .v6).flatMap fun k => (List.Ico lo hi).flatMap fun num => [.v6 k num, .v6Wan k num]

/-- Those of them that go to the table of the WAN. -/
def v6WanRules (lo hi : ℕ) : List RtHdl :=
  (p.txOf .v6).flatMap fun k => (List.Ico lo hi).map (.v6Wan k)

/-- The pipe to a tx property. -/
def dstPipe (isMCCMode : Bool) (k : ℕ) : ℕ :=
  if isMCCMode then (p.tx k).altDstPipe else (p.tx k).dstPipe

/-- The rule that `handle_wlan_client_route_rule` installs, whose handle is kept in an element of
`wifi_rt_hdl`. -/
def rtRule (isMCCMode : Bool) (c : WlanClient) : RtHdl → RtRule A
  | .v4 k => ⟨.lanV4, p.dstPipe isMCCMode k, some (p.tx k).attrib, .v4 c.v4Addr, c.hdrHdlV4, false⟩
  | .v6 _ num => ⟨.lanV6, p.excpPipe, none, .v6 (c.v6Addr num), 0, true⟩
  | .v6Wan k num =>
      ⟨.wanV6, p.dstPipe isMCCMode k, some (p.tx k).attrib, .v6 (c.v6Addr num), c.hdrHdlV6, true⟩

/-- What `handle_SCC_MCC_switch` makes of a rule.  The table stays, and the rest is what is
written to a request that `calloc` gave. -/
def mdfyRule (isMCCMode : Bool) (c : WlanClient) (x : RtHdl) (r : RtRule A) : RtRule A :=
  { p.rtRule isMCCMode c x with tbl := r.tbl, hashable := false }

/-! ## One client

The functions for a client change its record and the rules. -/

variable (a : WlanClient × HandleTable (RtRule A)) (isMCCMode : Bool) (pick : RtHdl → ℕ)

/-- `handle_wlan_client_route_rule`. -/
def handleWlanClientRouteRule (fam : IpType) : WlanClient × HandleTable (RtRule A) :=
  if p.hasTxProp = false ∨ a.1.powerSaveSet then a
  else
    match fam with
    | .v4 =>
        if a.1.routeRuleSetV4 = false ∧ a.1.ipv4Set then
          let r := installAll pick (p.rtRule isMCCMode a.1) p.v4Rules a.1.wifiRtHdl a.2
          ({ a.1 with wifiRtHdl := r.1, routeRuleSetV4 := true }, r.2)
        else a
    | .v6 =>
        if a.1.routeRuleSetV6 < a.1.ipv6Set then
          let r := installAll pick (p.rtRule isMCCMode a.1)
            (p.v6Rules a.1.routeRuleSetV6 a.1.ipv6Set) a.1.wifiRtHdl a.2
          ({ a.1 with wifiRtHdl := r.1, routeRuleSetV6 := a.1.ipv6Set }, r.2)
        else a

/-- `delete_default_qos_rtrules`. -/
def deleteDefaultQosRtrules (fam : IpType) : WlanClient × HandleTable (RtRule A) :=
  match fam with
  | .v4 =>
      if a.1.routeRuleSetV4 then
        ({ a.1 with routeRuleSetV4 := false }, removeAll a.1.wifiRtHdl p.v4Rules a.2)
      else a
  | .v6 =>
      ({ a.1 with routeRuleSetV6 := 0 },
        removeAll a.1.wifiRtHdl (p.v6Rules 0 a.1.routeRuleSetV6) a.2)

/-- `handle_wlan_client_pwrsave`, for the client that is found. -/
def handleWlanClientPwrsave : WlanClient × HandleTable (RtRule A) :=
  if a.1.powerSaveSet then a
  else
    let b := p.deleteDefaultQosRtrules (p.deleteDefaultQosRtrules a .v4) .v6
    ({ b.1 with powerSaveSet := true }, b.2)

/-- A client comes out of power save mode. -/
def recover : WlanClient × HandleTable (RtRule A) :=
  if a.1.powerSaveSet then
    let b := ({ a.1 with powerSaveSet := false }, a.2)
    let b := if b.1.ipv4Set then p.handleWlanClientRouteRule b isMCCMode pick .v4 else b
    if b.1.ipv6Set ≠ 0 then p.handleWlanClientRouteRule b isMCCMode pick .v6 else b
  else a

/-- `handle_wlan_client_ipaddr` for an IPv4 address, for the client that is found.  It fails if
there is nothing new. -/
def handleIpaddrV4 (addr : UInt32) : Option (WlanClient × HandleTable (RtRule A)) :=
  if addr = 0 then none
  else if a.1.ipv4Set = false then some ({ a.1 with v4Addr := addr, ipv4Set := true }, a.2)
  else if addr = a.1.v4Addr then none
  else
    let b := p.deleteDefaultQosRtrules a .v4
    some ({ b.1 with routeRuleSetV4 := false, v4Addr := addr }, b.2)

/-- The address is link-local, or has the prefix of the backhaul. -/
def prefixOk (ipv6Prefix : UInt32 × UInt32) (addr : V6Addr) : Bool :=
  addr.1 &&& 0xFFC00000 = 0xFE800000 &&& 0xFFC00000 ∨ ipv6Prefix = (addr.1, addr.2.1)

/-- `handle_wlan_client_ipaddr` for an IPv6 address, for the client that is found. -/
def handleIpaddrV6 (ipv6Prefix : UInt32 × UInt32) (addr : V6Addr) :
    Option (WlanClient × HandleTable (RtRule A)) :=
  if addr = (0, 0, 0, 0) then none
  else if prefixOk ipv6Prefix addr = false then none
  else if a.1.ipv6Set < ipv6NumAddr then
    if (List.range a.1.ipv6Set).any fun num => addr = a.1.v6Addr num then none
    else
      some ({ a.1 with
        v6Addr := Function.update a.1.v6Addr a.1.ipv6Set addr
        ipv6Set := a.1.ipv6Set + 1 }, a.2)
  else none

/-- `IPA_NEIGH_CLIENT_IP_ADDR_ADD_EVENT`, for the client that is found. -/
def ipAddrAdd (ipv6Prefix : UInt32 × UInt32) :
    DstAddr → WlanClient × HandleTable (RtRule A)
  | .v4 addr => ((p.handleIpaddrV4 a addr).map fun b =>
      p.handleWlanClientRouteRule b isMCCMode pick .v4).getD a
  | .v6 addr => ((handleIpaddrV6 a ipv6Prefix addr).map fun b =>
      p.handleWlanClientRouteRule b isMCCMode pick .v6).getD a

/-- The rules of a client that `handle_SCC_MCC_switch` goes over. -/
def switchRules (c : WlanClient) : IpType → List RtHdl
  | .v4 => if c.powerSaveSet ∨ c.routeRuleSetV4 = false then [] else p.v4Rules
  | .v6 =>
      if c.powerSaveSet ∨ c.routeRuleSetV6 < c.ipv6Set then []
      else p.v6WanRules c.routeRuleSetV6 c.ipv6Set

/-- What `handle_SCC_MCC_switch` does for a client. -/
def switchClient (fam : IpType) : WlanClient × HandleTable (RtRule A) :=
  (a.1, modifyAll a.1.wifiRtHdl (p.mdfyRule isMCCMode a.1) (p.switchRules a.1 fam) a.2)

/-- Copy a record to the one before it: all but `power_save_set`, what is behind the addresses that
are set, and what is behind the handles that are in use. -/
def moveUp (c d : WlanClient) : WlanClient :=
  { d with
    powerSaveSet := c.powerSaveSet
    v6Addr := fun num => if num < d.ipv6Set then d.v6Addr num else c.v6Addr num
    wifiRtHdl := fun
      | .v4 k => if k < p.numTxProps then d.wifiRtHdl (.v4 k) else c.wifiRtHdl (.v4 k)
      | .v6 k num =>
          if k < p.numTxProps ∧ num < d.routeRuleSetV6 then d.wifiRtHdl (.v6 k num)
          else c.wifiRtHdl (.v6 k num)
      | .v6Wan k num =>
          if k < p.numTxProps ∧ num < d.routeRuleSetV6 then d.wifiRtHdl (.v6Wan k num)
          else c.wifiRtHdl (.v6Wan k num) }

end IfaceProps

/-! ## The interface -/

namespace WlanIface

variable (s : WlanIface A) (mac : Mac) (i : ℕ) (pick : RtHdl → ℕ) (fam : IpType)

/-- `get_wlan_client_index`. -/
def getWlanClientIndex : Option ℕ :=
  firstIdx s.numWifiClient fun cnt => (s.wlanClient cnt).mac = mac

/-- Change the record of a client and the rules. -/
def onClient (f : WlanClient × HandleTable (RtRule A) → WlanClient × HandleTable (RtRule A)) :
    WlanIface A :=
  let b := f (s.wlanClient i, s.rules)
  { s with wlanClient := Function.update s.wlanClient i b.1, rules := b.2 }

/-- The same for the client with an address, if it is found. -/
def onMac (f : WlanClient × HandleTable (RtRule A) → WlanClient × HandleTable (RtRule A)) :
    WlanIface A :=
  match s.getWlanClientIndex mac with
  | none => s
  | some i => s.onClient i f

/-- `handle_wlan_client_init_ex`: what the event tells of the address is written along with the
headers.  There may be clients on other interfaces, and `total` counts them all. -/
def handleWlanClientInitEx (total : ℕ) (attrib : Option Mac) (hdrHdl : IpType → ℕ) :
    WlanIface A :=
  if s.numWifiClient ≥ ipaMaxNumWifiClients ∨ total ≥ ipaMaxNumWifiClients then s
  else if p.hasTxProp = false then s
  else
    let c := s.wlanClient s.numWifiClient
    { s with
      numWifiClient := s.numWifiClient + 1
      wlanClient := Function.update s.wlanClient s.numWifiClient
        { c with
          mac := if p.numTxProps = 0 then c.mac else attrib.getD c.mac
          hdrHdlV4 := if p.txOf .v4 = [] then c.hdrHdlV4 else hdrHdl .v4
          hdrHdlV6 := if p.txOf .v6 = [] then c.hdrHdlV6 else hdrHdl .v6
          routeRuleSetV4 := false
          routeRuleSetV6 := 0
          ipv4Set := false
          ipv6Set := 0
          powerSaveSet := false } }

/-- The rules of a client are deleted, and its record is reset. -/
def clear : WlanIface A :=
  s.onClient i fun a =>
    let b := p.deleteDefaultQosRtrules (p.deleteDefaultQosRtrules a .v4) .v6
    ({ b.1 with ipv4Set := false, ipv6Set := 0, routeRuleSetV4 := false, routeRuleSetV6 := 0 }, b.2)

/-- The records behind a client move up. -/
def detach : WlanIface A :=
  { s with
    numWifiClient := s.numWifiClient - 1
    wlanClient := shiftDown p.moveUp i (s.numWifiClient - 1) s.wlanClient }

/-- `handle_wlan_client_down_evt`. -/
def handleWlanClientDownEvt : WlanIface A :=
  match s.getWlanClientIndex mac with
  | none => s
  | some i => (s.clear p i).detach p i

/-- `handle_wlan_client_reset_rt`, which is only called for IPv6. -/
def handleWlanClientResetRt : WlanIface A :=
  forUpTo s.numWifiClient (fun i s => s.onClient i fun a =>
    let b := p.deleteDefaultQosRtrules a .v6
    ({ b.1 with ipv6Set := 0 }, b.2)) s

/-- `handle_SCC_MCC_switch`. -/
def handleSCCMCCSwitch : WlanIface A :=
  if p.hasTxProp = false then s
  else forUpTo s.numWifiClient
    (fun i s => s.onClient i fun a => p.switchClient a s.isMCCMode fam) s

end WlanIface

/-! ## Runs -/

/-- An event, with the handles that the driver chooses. -/
inductive WlanEvent
  | clientAdd (total : ℕ) (attrib : Option Mac) (hdrHdl : IpType → ℕ)
  | clientDel (mac : Mac)
  | clientPowerSave (mac : Mac)
  | clientRecover (mac : Mac) (pick : RtHdl → ℕ)
  | ipAddrAdd (mac : Mac) (addr : DstAddr) (pick : RtHdl → ℕ)
  | resetRt
  | newPrefix (ipv6Prefix : UInt32 × UInt32)
  | mode (isMCCMode : Bool)
  | switch (fam : IpType)

/-- What an event does. -/
def WlanEvent.exec (s : WlanIface A) : WlanEvent → WlanIface A
  | clientAdd total attrib hdrHdl => s.handleWlanClientInitEx p total attrib hdrHdl
  | clientDel mac => s.handleWlanClientDownEvt p mac
  | clientPowerSave mac => s.onMac mac p.handleWlanClientPwrsave
  | clientRecover mac pick => s.onMac mac fun a => p.recover a s.isMCCMode pick
  | ipAddrAdd mac addr pick =>
      s.onMac mac fun a => p.ipAddrAdd a s.isMCCMode pick s.ipv6Prefix addr
  | resetRt => s.handleWlanClientResetRt p
  | newPrefix ipv6Prefix => { s with ipv6Prefix }
  | mode isMCCMode => { s with isMCCMode }
  | switch fam => s.handleSCCMCCSwitch p fam

/-- The events are handled one after another. -/
def WlanEvent.Step (s : WlanIface A) (event : WlanEvent) (s' : WlanIface A) : Prop :=
  event.exec p s = s'

end Ipacm.WlanRules
