import OcnDevice.Ipacm.NatApp.Model

/-!
# The conntrack listener

`IPACM_ConntrackListener` turns conntrack messages into calls of `NatApp`.  Which connections it
handles depends on three tables of addresses: the clients of NAT interfaces, those of other
interfaces, whose connections get a dummy rule, and the clients of the station interface.  A slot of
a table is free when it holds the address 0.

The state is the listener and `NatApp`.  What the listener asks the rest of IPACM and the kernel for
comes with each call (`CtEnv`), so that it may change from one call to the next.  Addresses and ports
of conntrack messages are in host order, memory for the copy of the NAT interfaces is there, and the
NAT instance exists.
-/

namespace Ipacm

/-! ## Constants -/

/-- `MAX_IFACE_ADDRESS`. -/
def maxIfaceAddress : ℕ := 50

/-- `MAX_STA_CLNT_IFACES`. -/
def maxStaClntIfaces : ℕ := 10

/-- `STA_CLNT_SUBNET_MASK`. -/
def staClntSubnetMask : UInt32 := 0xFFFFFF00

/-- `IPPROTO_TCP`. -/
def ipprotoTcp : UInt8 := 6

/-- `IPPROTO_UDP`. -/
def ipprotoUdp : UInt8 := 17

/-- `IPS_SRC_NAT`. -/
def ipsSrcNat : UInt32 := 16

/-- `IPS_DST_NAT`. -/
def ipsDstNat : UInt32 := 32

/-- `TCP_CONNTRACK_ESTABLISHED`. -/
def tcpConntrackEstablished : UInt8 := 3

/-- `TCP_CONNTRACK_FIN_WAIT`. -/
def tcpConntrackFinWait : UInt8 := 4

/-! ## Data -/

/-- An `ipa_ip_type`. -/
inductive IpaIpType
  | v4
  | v6
  | max
  deriving DecidableEq, Repr

/-- An `ipacm_event_data_all`. -/
structure IpacmEventDataAll where
  ifIndex : ℤ
  iptype : IpaIpType
  ipv4Addr : UInt32
  deriving DecidableEq, Repr

/-- What the listener asks for: the passthrough mode, `IPACM_Wan::getWANIP`, the private subnets with
their masks, the names of interfaces and the NAT interfaces. -/
structure CtEnv where
  ipPassthroughMode : Bool := false
  wanIp : UInt32 := 0
  privateSubnetTable : List (UInt32 × UInt32) := []
  ifName : ℤ → Option String := fun _ => none
  natIfaces : List String := []

/-- `isPrivateSubnet`. -/
def CtEnv.isPrivateSubnet (env : CtEnv) (ipAddr : UInt32) : Bool :=
  env.privateSubnetTable.any fun entry => entry.1 = entry.2 &&& ipAddr

/-- An `nf_conntrack`, without its TCP state.  The kernel fixes the NAT bits of the status before it
reports a connection. -/
structure NfConntrack where
  origIpv4Src : UInt32
  origIpv4Dst : UInt32
  origPortSrc : UInt16
  origPortDst : UInt16
  replIpv4Src : UInt32
  replPortSrc : UInt16
  replPortDst : UInt16
  origL4proto : UInt8
  replL4proto : UInt8
  status : UInt32
  deriving DecidableEq, Repr

/-- An `nf_conntrack_msg_type`. -/
inductive NfConntrackMsgType
  | new
  | update
  | destroy
  deriving DecidableEq, Repr

/-- A conntrack message. -/
structure CtMsg where
  ct : NfConntrack
  tcpState : UInt8
  type : NfConntrackMsgType
  deriving DecidableEq, Repr

/-- The members of `IPACM_ConntrackListener`. -/
structure CtListener where
  wanUp : Bool := false
  wanIpaddr : UInt32
  isStaMode : Bool
  natIfaceIpv4Addr : ℕ → UInt32 := fun _ => 0
  nonnatIfaceIpv4Addr : ℕ → UInt32 := fun _ => 0
  staClntIpv4Addr : ℕ → UInt32 := fun _ => 0
  staClntCnt : ℤ := 0

/-- The listener and NatApp. -/
structure CtSys where
  list : CtListener
  nat : NatSys

namespace CtListener

/-- Write a slot of `nat_iface_ipv4_addr`. -/
def setNat (l : CtListener) (cnt : ℕ) (addr : UInt32) : CtListener :=
  { l with natIfaceIpv4Addr := Function.update l.natIfaceIpv4Addr cnt addr }

/-- Write a slot of `nonnat_iface_ipv4_addr`. -/
def setNonnat (l : CtListener) (cnt : ℕ) (addr : UInt32) : CtListener :=
  { l with nonnatIfaceIpv4Addr := Function.update l.nonnatIfaceIpv4Addr cnt addr }

/-- Write a slot of `sta_clnt_ipv4_addr`, and change the counter. -/
def setSta (l : CtListener) (cnt : ℕ) (addr : UInt32) (diff : ℤ) : CtListener :=
  { l with
    staClntIpv4Addr := Function.update l.staClntIpv4Addr cnt addr
    staClntCnt := l.staClntCnt + diff }

end CtListener

namespace CtSys

/-! ## Addresses of interfaces -/

/-- `CheckNatIface`: what it returns, and whether the interface is a NAT interface. -/
def checkNatIface (env : CtEnv) (data : IpacmEventDataAll) : ℤ × Bool :=
  if data.ipv4Addr = 0 ∨ data.iptype ≠ .v4 then (-1, false)
  else if env.natIfaces = [] then (-1, false)
  else
    match env.ifName data.ifIndex with
    | none => (-1, false)
    | some name => (0, name ∈ env.natIfaces)

/-- `HandleNonNatIPAddr`. -/
def handleNonNatIPAddr (env : CtEnv) (s : CtSys) (data : IpacmEventDataAll) (addOp : Bool) : CtSys :=
  if s.list.isStaMode then s
  else if addOp then
    if (checkNatIface env data).2 = false ∧ (checkNatIface env data).1 = 0 then
      match firstIdx maxIfaceAddress fun cnt => s.list.nonnatIfaceIpv4Addr cnt = 0 with
      | none => s
      | some cnt =>
          { list := s.list.setNonnat cnt data.ipv4Addr
            nat := s.nat.flushTempEntries data.ipv4Addr true true }
    else s
  else
    match firstIdx maxIfaceAddress fun cnt => s.list.nonnatIfaceIpv4Addr cnt = data.ipv4Addr with
    | none => s
    | some cnt =>
        { list := s.list.setNonnat cnt 0
          nat := ((s.nat.flushTempEntries data.ipv4Addr false false).delEntriesOnClntDiscon
            data.ipv4Addr).2 }

/-- `HandleNeighIpAddrAddEvt`. -/
def handleNeighIpAddrAddEvt (env : CtEnv) (s : CtSys) (data : IpacmEventDataAll) : CtSys :=
  if (checkNatIface env data).2 = true ∧ (checkNatIface env data).1 = 0 then
    match firstIdx maxIfaceAddress fun j =>
        s.list.natIfaceIpv4Addr j = data.ipv4Addr ∨ s.list.natIfaceIpv4Addr j = 0 with
    | none => s
    | some j =>
        { list :=
            if s.list.natIfaceIpv4Addr j = data.ipv4Addr then s.list
            else s.list.setNat j data.ipv4Addr
          nat := (s.nat.resetPwrSaveIf data.ipv4Addr).2.flushTempEntries data.ipv4Addr true false }
  else s

/-- One pass of the loop of `HandleNeighIpAddrDelEvt`. -/
def neighDelEntry (ipv4Addr : UInt32) (cnt : ℕ) (s : CtSys) : CtSys :=
  if s.list.natIfaceIpv4Addr cnt = ipv4Addr then
    { list := s.list.setNat cnt 0
      nat := ((s.nat.flushTempEntries ipv4Addr false false).delEntriesOnClntDiscon ipv4Addr).2 }
  else s

/-- `HandleNeighIpAddrDelEvt`. -/
def handleNeighIpAddrDelEvt (s : CtSys) (ipv4Addr : UInt32) : CtSys :=
  if ipv4Addr = 0 then s else forUpTo maxIfaceAddress (neighDelEntry ipv4Addr) s

/-! ## Clients of the station interface -/

/-- `HandleSTAClientAddEvt`. -/
def handleSTAClientAddEvt (s : CtSys) (clntIpAddr : UInt32) : CtSys :=
  if s.list.staClntCnt ≥ maxStaClntIfaces then s
  else
    { list :=
        match firstIdx maxStaClntIfaces fun cnt =>
            s.list.staClntIpv4Addr cnt ≠ 0 ∧ s.list.staClntIpv4Addr cnt = clntIpAddr ∨
              s.list.staClntIpv4Addr cnt = 0 with
        | none => s.list
        | some cnt =>
            if s.list.staClntIpv4Addr cnt = 0 then s.list.setSta cnt clntIpAddr 1 else s.list
      nat := s.nat.flushTempEntries clntIpAddr true false }

/-- `HandleSTAClientDelEvt`. -/
def handleSTAClientDelEvt (s : CtSys) (clntIpAddr : UInt32) : CtSys :=
  match firstIdx maxStaClntIfaces fun cnt =>
      s.list.staClntIpv4Addr cnt ≠ 0 ∧ s.list.staClntIpv4Addr cnt = clntIpAddr with
  | none => { s with nat := s.nat.flushTempEntries clntIpAddr false false }
  | some cnt =>
      { list := s.list.setSta cnt 0 (-1)
        nat := (s.nat.delEntriesOnSTAClntDiscon clntIpAddr).2.flushTempEntries clntIpAddr
          false false }

/-! ## The WAN -/

/-- `TriggerWANDown`. -/
def triggerWANDown (s : CtSys) (wanAddr : UInt32) : CtSys :=
  match s.nat.deleteTable wanAddr with
  | (ret, nat) =>
      if ret ≠ 0 then { s with nat }
      else { list := { s.list with wanUp := false, wanIpaddr := 0 }, nat }

/-- `TriggerWANUp`. -/
def triggerWANUp (s : CtSys) (ipv4Addr : UInt32) (isSta : Bool) : CtSys :=
  if ipv4Addr = 0 then s
  else if s.list.wanUp ∧ s.list.wanIpaddr = ipv4Addr then s
  else
    let s := if s.list.wanUp then s.triggerWANDown s.list.wanIpaddr else s
    { list := { s.list with wanUp := true, isStaMode := isSta, wanIpaddr := ipv4Addr }
      nat := (s.nat.addTable ipv4Addr).2 }

/-! ## Messages -/

/-- Whether the rule matches the table of NAT interfaces. -/
def matchesNat (s : CtSys) (rule : NatTableEntry) : Bool :=
  (List.range maxIfaceAddress).any fun cnt => s.list.natIfaceIpv4Addr cnt ≠ 0 ∧
    (rule.privateIp = s.list.natIfaceIpv4Addr cnt ∨ rule.targetIp = s.list.natIfaceIpv4Addr cnt)

/-- Whether the rule matches the table of the other interfaces. -/
def matchesNonnat (s : CtSys) (rule : NatTableEntry) : Bool :=
  (List.range maxIfaceAddress).any fun cnt => s.list.nonnatIfaceIpv4Addr cnt ≠ 0 ∧
    (rule.privateIp = s.list.nonnatIfaceIpv4Addr cnt ∨
      rule.targetIp = s.list.nonnatIfaceIpv4Addr cnt)

/-- `AddIface`: the rule, which is a dummy one when it matches the second table, and whether the
entry is a temporary one.  Without a result the connection is ignored. -/
def addIface (env : CtEnv) (s : CtSys) (rule : NatTableEntry) : Option (NatTableEntry × Bool) :=
  if env.ipPassthroughMode ∧ rule.privateIp = env.wanIp then some (rule, false)
  else if s.matchesNat rule then some (rule, false)
  else if s.list.isStaMode = false ∧ s.matchesNonnat rule then some (NatSys.dummyOf rule, false)
  else if env.isPrivateSubnet rule.privateIp ∨ env.isPrivateSubnet rule.targetIp then
    some (rule, true)
  else none

/-- `CheckSTAClient`: whether the entry is a temporary one. -/
def checkSTAClient (s : CtSys) (rule : NatTableEntry) (isTempEntry : Bool) : Bool :=
  if s.list.isStaMode = false ∨ s.list.staClntCnt = 0 then isTempEntry
  else if s.list.staClntIpv4Addr 0 &&& staClntSubnetMask ≠ rule.targetIp &&& staClntSubnetMask then
    isTempEntry
  else if (List.range s.list.staClntCnt.toNat).any fun nCnt =>
      rule.targetIp = s.list.staClntIpv4Addr nCnt then isTempEntry
  else true

/-- `PopulateTCPorUDPEntry`, for destination NAT or source NAT. -/
def populateTCPorUDPEntry (ct : NfConntrack) (dstNat : Bool) (rule : NatTableEntry) :
    NatTableEntry :=
  if dstNat then
    { rule with
      dstNat := true
      targetIp := ct.origIpv4Src
      targetPort := ct.origPortSrc
      publicPort := ct.origPortDst
      privateIp := ct.replIpv4Src
      privatePort := ct.replPortSrc }
  else
    { rule with
      dstNat := false
      targetIp := ct.origIpv4Dst
      targetPort := ct.origPortDst
      publicPort := ct.replPortDst
      privateIp := ct.origIpv4Src
      privatePort := ct.origPortSrc }

/-- The part of `ProcessTCPorUDPMsg` that finds out which NAT it is; without a result the connection
is ignored. -/
def natStatus (s : CtSys) (ct : NfConntrack) : Option Bool :=
  if ct.status &&& ipsDstNat ≠ 0 then some true
  else if ct.status &&& ipsSrcNat ≠ 0 then some false
  else if ct.origIpv4Src = 0 then none
  else if ct.origIpv4Dst = 0 then none
  else if ct.origIpv4Src = s.list.wanIpaddr then some false
  else if ct.origIpv4Dst = s.list.wanIpaddr then some true
  else none

/-- The part of `ProcessTCPorUDPMsg` that makes the rule and decides whether the entry is a temporary
one. -/
def ruleOfMsg (env : CtEnv) (s : CtSys) (ct : NfConntrack) : Option (NatTableEntry × Bool) :=
  match s.natStatus ct with
  | none => none
  | some dstNat =>
      let rule := { populateTCPorUDPEntry ct dstNat { protocol := ct.replL4proto } with
        publicIp := s.list.wanIpaddr }
      let res :=
        if rule.privateIp ≠ s.list.wanIpaddr then s.addIface env rule
        else if s.list.isStaMode then none
        else some ({ rule with privatePort := rule.publicPort }, false)
      res.map fun r => (r.1, s.checkSTAClient r.1 r.2)

/-- Add a connection: to the cache while the WAN is down, or as a temporary entry, or as a rule. -/
def addNatEntry (s : CtSys) (rule : NatTableEntry) (isTempEntry : Bool) : CtSys :=
  if s.list.wanUp = false then { s with nat := s.nat.cacheEntry rule }
  else if isTempEntry then { s with nat := s.nat.addTempEntry rule }
  else { s with nat := (s.nat.addEntry rule).2 }

/-- Delete a connection. -/
def deleteNatEntry (s : CtSys) (rule : NatTableEntry) : CtSys :=
  { s with nat := (s.nat.deleteEntry rule).2.deleteTempEntry rule }

/-- `AddORDeleteNatEntry`. -/
def addORDeleteNatEntry (s : CtSys) (msg : CtMsg) (rule : NatTableEntry) (isTempEntry : Bool) :
    CtSys :=
  if rule.protocol = ipprotoTcp then
    if msg.tcpState = tcpConntrackEstablished then s.addNatEntry rule isTempEntry
    else if msg.tcpState = tcpConntrackFinWait ∨ msg.type = .destroy then s.deleteNatEntry rule
    else s
  else if rule.protocol = ipprotoUdp then
    match msg.type with
    | .new => s.addNatEntry rule isTempEntry
    | .destroy => s.deleteNatEntry rule
    | .update => s
  else s

/-- `ProcessTCPorUDPMsg`. -/
def processTCPorUDPMsg (env : CtEnv) (s : CtSys) (msg : CtMsg) : CtSys :=
  match s.ruleOfMsg env msg.ct with
  | none => s
  | some (rule, isTempEntry) => s.addORDeleteNatEntry msg rule isTempEntry

/-- `ProcessCTMessage`. -/
def processCTMessage (env : CtEnv) (s : CtSys) (msg : CtMsg) : CtSys :=
  if msg.ct.origL4proto ≠ ipprotoUdp ∧ msg.ct.origL4proto ≠ ipprotoTcp then s
  else s.processTCPorUDPMsg env msg

end CtSys

/-! ## Runs -/

/-- An event of the listener, or a call of one of its public member functions. -/
inductive CtOp
  | ctMessage (env : CtEnv) (msg : CtMsg)
  | neighIpAddrAdd (env : CtEnv) (data : IpacmEventDataAll)
  | neighIpAddrDel (ipv4Addr : UInt32)
  | nonNatIPAddr (env : CtEnv) (data : IpacmEventDataAll) (addOp : Bool)
  | staClientAdd (clntIpAddr : UInt32)
  | staClientDel (clntIpAddr : UInt32)
  | wanUp (ipv4Addr : UInt32) (isSta : Bool)
  | wanDown (ipv4Addr : UInt32)

/-- The state behind a call.  A WAN that goes down is of interest only while it is up. -/
def CtOp.call (s : CtSys) : CtOp → CtSys
  | .ctMessage env msg => s.processCTMessage env msg
  | .neighIpAddrAdd env data => s.handleNeighIpAddrAddEvt env data
  | .neighIpAddrDel ipv4Addr => s.handleNeighIpAddrDelEvt ipv4Addr
  | .nonNatIPAddr env data addOp => s.handleNonNatIPAddr env data addOp
  | .staClientAdd clntIpAddr => s.handleSTAClientAddEvt clntIpAddr
  | .staClientDel clntIpAddr => s.handleSTAClientDelEvt clntIpAddr
  | .wanUp ipv4Addr isSta => s.triggerWANUp ipv4Addr isSta
  | .wanDown ipv4Addr => if s.list.wanUp then s.triggerWANDown ipv4Addr else s

/-- A state that the listener starts from: its tables are empty, and the constructor leaves
`wan_ipaddr` and `isStaMode` as it finds them. -/
def CtSys.Init (s : CtSys) : Prop :=
  s.nat.Init ∧ ∃ wanIpaddr isStaMode, s.list = { wanIpaddr, isStaMode }

end Ipacm
