import OcnDevice.Core.HandleTable
import OcnDevice.Core.Run
import OcnDevice.Ipacm.ConntrackListener.Model

/-!
# Private subnets

In the Android build `IPACM_Config` keeps a table of the /24 subnets of the LAN and WLAN interfaces.
An interface adds its subnet when it gets its IPv4 address, and takes it out again when it goes down;
each change is posted as `IPA_PRIVATE_SUBNET_CHANGE_EVENT`.  Every interface has three filter rules
for private subnets, one for each place of the table, which it installs as dummies that match nothing
and rewrites when it gets its address and on the events of other interfaces.

Only the IPv4 filter rules for private subnets are part of the state.  Each step comes with the
replies of the driver to the calls that it makes.  Memory is there.
-/

namespace Ipacm

/-- `IPA_MAX_PRIVATE_SUBNET_ENTRIES`, which is also `IPA_PRIV_SUBNET_FILTER_RULE_HANDLES`. -/
def ipaMaxPrivateSubnetEntries : ℕ := 3

/-! ## The table -/

/-- What `IPACM_Config` knows of private subnets. -/
structure PrivateSubnetTable where
  subnetAddr : ℕ → BitVec 32
  subnetMask : ℕ → BitVec 32
  num : ℕ

namespace PrivateSubnetTable

/-- The mask that the table is filled with, `(~0 >> 8) << 8`. -/
def mask24 : BitVec 32 := ((BitVec.allOnes 32) >>> 8) <<< 8

/-- The place of a subnet. -/
def find (c : PrivateSubnetTable) (ipAddr : BitVec 32) : Option ℕ :=
  firstIdx c.num fun cnt => c.subnetAddr cnt = ipAddr

/-- `AddPrivateSubnet`, and whether it posts the event. -/
def addPrivateSubnet (c : PrivateSubnetTable) (ipAddr : BitVec 32) : PrivateSubnetTable × Bool :=
  match c.find ipAddr with
  | some _ => (c, false)
  | none =>
      if c.num < ipaMaxPrivateSubnetEntries then
        ({ subnetAddr := Function.update c.subnetAddr c.num ipAddr
           subnetMask := Function.update c.subnetMask c.num mask24
           num := c.num + 1 }, true)
      else (c, false)

/-- The loop of `DelPrivateSubnet` that closes the gap at `cnt`. -/
def closeGap (c : PrivateSubnetTable) (cnt : ℕ) : ℕ → BitVec 32 :=
  forUpTo (c.num - 1 - cnt)
    (fun i a => Function.update a (cnt + i) (a (cnt + i + 1))) c.subnetAddr

/-- `DelPrivateSubnet`, and whether it posts the event. -/
def delPrivateSubnet (c : PrivateSubnetTable) (ipAddr : BitVec 32) : PrivateSubnetTable × Bool :=
  match c.find ipAddr with
  | some cnt => ({ c with subnetAddr := c.closeGap cnt, num := c.num - 1 }, true)
  | none => (c, false)

/-- The subnets in the table. -/
def subnets (c : PrivateSubnetTable) : List (BitVec 32) := (List.range c.num).map c.subnetAddr

end PrivateSubnetTable

/-! ## The interfaces -/

/-- What the driver says of the pipe that an interface sends on. -/
structure RxProp where
  srcPipe : ℕ
  attrib : ℕ
  deriving DecidableEq, Repr

/-- What a filter rule for private subnets does. -/
inductive PrivateRule
  | dummy
  | toRouting (attrib : ℕ) (dstAddr dstAddrMask : BitVec 32)
  deriving DecidableEq, Repr

/-- A filter rule for private subnets, and the pipe it is for. -/
structure PrivateFlt where
  ep : ℕ
  rule : PrivateRule
  deriving DecidableEq, Repr

/-- The part of an `IPACM_Lan` or `IPACM_Wlan` that private subnets concern.  `ipType` is `none` while
the interface has no address. -/
structure SubnetIface where
  ipaIfNum : ℕ
  wlan : Bool
  rxProp : Option RxProp
  ipType : Option IpaIpType
  ifIpv4Subnet : BitVec 32
  privateFlRuleHdl : ℕ → ℕ

/-- The driver's replies to the calls of `handle_private_subnet_android`. -/
structure MdfyReply where
  reset : ℕ → Bool
  getTable : Bool
  mdfy : Bool

/-- The driver's replies when an interface gets an IPv4 address: whether `handle_addr_evt` succeeds,
whether the rules are added, which of them, and the handles. -/
structure AddrReply where
  addr : Bool
  add : Bool
  status : ℕ → Bool
  pick : ℕ → ℕ
  subnets : MdfyReply

/-- The driver's replies when an interface goes down: to what is deleted before the rules for private
subnets, to these, and behind them. -/
structure DownReply where
  before : Bool
  del : ℕ → Bool
  after : Bool

namespace SubnetIface

/-- The interface has an IPv4 address. -/
def hasV4 (x : SubnetIface) : Bool := x.ipType = some .v4 ∨ x.ipType = some .max

/-- `config_ip_type`. -/
def configIpType (x : SubnetIface) : IpaIpType → SubnetIface
  | .v4 =>
      if x.ipType = some .v4 ∨ x.ipType = some .max then x
      else if x.ipType = some .v6 then { x with ipType := some .max }
      else { x with ipType := some .v4 }
  | _ =>
      if x.ipType = some .v6 ∨ x.ipType = some .max then x
      else if x.ipType = some .v4 then { x with ipType := some .max }
      else { x with ipType := some .v6 }

/-- One rule of `add_dummy_private_subnet_flt_rule`.  Handles are copied up to the first rule that was
not installed. -/
def dummyPass (rx : RxProp) (r : AddrReply) (i : ℕ)
    (t : HandleTable PrivateFlt × (ℕ → ℕ) × Bool) : HandleTable PrivateFlt × (ℕ → ℕ) × Bool :=
  if r.status i then
    (t.1.add (r.pick i) { ep := rx.srcPipe, rule := .dummy },
      if t.2.2 then Function.update t.2.1 i (t.1.fresh (r.pick i)) else t.2.1, t.2.2)
  else (t.1, t.2.1, false)

/-- `add_dummy_private_subnet_flt_rule(IPA_IP_v4)`. -/
def addDummyPrivateSubnetFltRule (x : SubnetIface) (r : AddrReply)
    (flt : HandleTable PrivateFlt) : HandleTable PrivateFlt × SubnetIface :=
  match x.rxProp with
  | none => (flt, x)
  | some rx =>
      if r.add then
        let out := forUpTo ipaMaxPrivateSubnetEntries (dummyPass rx r)
          (flt, x.privateFlRuleHdl, true)
        (out.1, { x with privateFlRuleHdl := out.2.1 })
      else (flt, x)

/-- `reset_to_dummy_flt_rule`. -/
def resetToDummyFltRule (ruleHdl : ℕ) (ok : Bool) (flt : HandleTable PrivateFlt) :
    HandleTable PrivateFlt :=
  if ok then flt.modify ruleHdl fun p => { p with rule := .dummy } else flt

/-- `handle_private_subnet_android(IPA_IP_v4)`. -/
def handlePrivateSubnetAndroid (x : SubnetIface) (cfg : PrivateSubnetTable) (r : MdfyReply)
    (flt : HandleTable PrivateFlt) : HandleTable PrivateFlt :=
  match x.rxProp with
  | none => flt
  | some rx =>
      let flt := forUpTo ipaMaxPrivateSubnetEntries
        (fun i flt => resetToDummyFltRule (x.privateFlRuleHdl i) (r.reset i) flt) flt
      if r.getTable && r.mdfy then
        forUpTo cfg.num
          (fun i flt => flt.modify (x.privateFlRuleHdl i) fun p =>
            { p with rule := .toRouting rx.attrib (cfg.subnetAddr i) (cfg.subnetMask i) }) flt
      else flt

/-- One handle of `DeleteFilteringHdls`.  Zero handles are passed over, and the first failure ends
it. -/
def deletePass (x : SubnetIface) (r : DownReply) (i : ℕ) (t : HandleTable PrivateFlt × Bool) :
    HandleTable PrivateFlt × Bool :=
  if t.2 = false ∨ x.privateFlRuleHdl i = 0 then t
  else if r.del i then (t.1.del (x.privateFlRuleHdl i), true)
  else (t.1, false)

/-- `DeleteFilteringHdls` for the rules for private subnets. -/
def deletePrivate (x : SubnetIface) (r : DownReply) (flt : HandleTable PrivateFlt) :
    HandleTable PrivateFlt × Bool :=
  forUpTo ipaMaxPrivateSubnetEntries (x.deletePass r) (flt, true)

end SubnetIface

/-! ## The system -/

/-- The table, the rules, the interfaces that are active, and the change events that wait. -/
structure SubnetSys where
  cfg : PrivateSubnetTable
  flt : HandleTable PrivateFlt
  ifaces : List SubnetIface
  posted : List ℕ

namespace SubnetSys

/-- No private subnet is configured, and there is no interface. -/
def init : SubnetSys where
  cfg := { subnetAddr := fun _ => 0, subnetMask := fun _ => 0, num := 0 }
  flt := .empty
  ifaces := []
  posted := []

/-- The interface `i` changes to `x`. -/
def put (s : SubnetSys) (i : ℕ) (x : SubnetIface) : SubnetSys :=
  { s with ifaces := s.ifaces.map fun y => if y.ipaIfNum = i then x else y }

/-- Change the table, and post the event if there is one. -/
def setTable (s : SubnetSys) (i : ℕ) (c : PrivateSubnetTable × Bool) : SubnetSys :=
  { s with cfg := c.1, posted := if c.2 then s.posted ++ [i] else s.posted }

/-- `event_callback` of an interface for an IPv4 `IPA_ADDR_ADD_EVENT`. -/
def addrAddV4 (s : SubnetSys) (x : SubnetIface) (ipv4Addr : BitVec 32) (r : AddrReply) : SubnetSys :=
  if ipv4Addr = 0 then s
  else if x.ipType ≠ some .v4 ∧ x.ipType ≠ some .max then
    let subnet := (ipv4Addr >>> 8) <<< 8
    let s' := s.setTable x.ipaIfNum (s.cfg.addPrivateSubnet subnet)
    let x' := { x with ifIpv4Subnet := subnet : SubnetIface }.configIpType .v4
    if r.addr then
      let out := x'.addDummyPrivateSubnetFltRule r s'.flt
      { s' with flt := out.2.handlePrivateSubnetAndroid s'.cfg r.subnets out.1 }.put
        x.ipaIfNum out.2
    else s'.put x.ipaIfNum x'
  else s

/-- `event_callback` of an interface for an IPv6 `IPA_ADDR_ADD_EVENT`. -/
def addrAddV6 (s : SubnetSys) (x : SubnetIface) : SubnetSys :=
  s.put x.ipaIfNum (x.configIpType .v6)

/-- `handle_down_evt`.  At `fail` the interface is closed all the same. -/
def handleDownEvt (s : SubnetSys) (x : SubnetIface) (r : DownReply) : SubnetSys :=
  let closed := { s with ifaces := s.ifaces.filter fun y => y.ipaIfNum ≠ x.ipaIfNum }
  if x.ipType = none ∨ r.before = false then closed
  else
    let out :=
      if x.ipType ≠ some .v6 ∧ x.rxProp.isSome then
        if x.wlan = false ∧ s.cfg.num > ipaMaxPrivateSubnetEntries then (s.flt, false)
        else x.deletePrivate r s.flt
      else (s.flt, true)
    if out.2 = false ∨ r.after = false then { closed with flt := out.1 }
    else if x.ipType ≠ some .v6 then
      { closed with flt := out.1 }.setTable x.ipaIfNum (s.cfg.delPrivateSubnet x.ifIpv4Subnet)
    else { closed with flt := out.1 }

/-- An `IPA_PRIVATE_SUBNET_CHANGE_EVENT` of the interface `e` reaches all interfaces. -/
def privateSubnetChange (s : SubnetSys) (e : ℕ) (r : ℕ → MdfyReply) : SubnetSys :=
  let visit := fun flt (x : SubnetIface) =>
    if x.ipaIfNum = e then flt else x.handlePrivateSubnetAndroid s.cfg (r x.ipaIfNum) flt
  { s with flt := s.ifaces.foldl visit s.flt }

end SubnetSys

/-- What happens to the interfaces. -/
inductive SubnetAct
  | start (ipaIfNum : ℕ) (wlan : Bool) (rxProp : Option RxProp)
  | addrV4 (ipaIfNum : ℕ) (ipv4Addr : BitVec 32) (r : AddrReply)
  | addrV6 (ipaIfNum : ℕ)
  | down (ipaIfNum : ℕ) (r : DownReply)
  | serve (r : ℕ → MdfyReply)

namespace SubnetSys

/-- The interface with an index. -/
def iface (s : SubnetSys) (i : ℕ) : Option SubnetIface := s.ifaces.find? fun x => x.ipaIfNum = i

/-- One step.  A new instance has an index that no instance has. -/
def run (s : SubnetSys) : SubnetAct → SubnetSys
  | .start i wlan rxProp =>
      if s.iface i = none then
        { s with ifaces := s.ifaces ++ [{
            ipaIfNum := i
            wlan := wlan
            rxProp := rxProp
            ipType := none
            ifIpv4Subnet := 0
            privateFlRuleHdl := fun _ => 0 }] }
      else s
  | .addrV4 i ipv4Addr r =>
      match s.iface i with
      | none => s
      | some x => s.addrAddV4 x ipv4Addr r
  | .addrV6 i =>
      match s.iface i with
      | none => s
      | some x => s.addrAddV6 x
  | .down i r =>
      match s.iface i with
      | none => s
      | some x => s.handleDownEvt x r
  | .serve r =>
      match s.posted with
      | [] => s
      | e :: posted => { s with posted := posted }.privateSubnetChange e r

end SubnetSys

end Ipacm
