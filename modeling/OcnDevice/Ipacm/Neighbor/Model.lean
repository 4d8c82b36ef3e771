import OcnDevice.Core.Loop
import OcnDevice.Core.Run
import OcnDevice.Ipacm.LanToLan.Model

/-!
# The neighbor cache

`IPACM_Neighbor` is told by the kernel of neighbors that come and go, and by the driver of WLAN
clients that connect.  It remembers the clients it has seen in an array, with the interface they
are on and the IPv4 address they had last, and posts the addresses for the other modules.

A neighbor on the bridge is known by where it was seen before.  A neighbor that comes on another
interface is put into the first free element, and when there is none into the one that
`circular_index` is at.  A WLAN client that connects again gets its address posted once more.

An event comes with what `iface_ipa_index_query` answers for its interface, and memory never runs
out.  The features are those of the Android build.
-/

namespace Ipacm.NeighCache

/-! ## Data -/

/-- `IPA_MAX_NUM_NEIGHBOR_CLIENTS`. -/
def ipaMaxNumNeighborClients : ℕ := 100

/-- An `ipa_neighbor_client`. -/
structure NeighborClient where
  macAddr : Mac
  ifaceIndex : ℤ
  v4Addr : UInt32
  ipaIfNum : ℕ
  ifaceName : String
  deriving DecidableEq, Repr

/-- An element that is reset. -/
def NeighborClient.zero : NeighborClient := ⟨0, 0, 0, 0, ""⟩

/-- The address of an event, and with it the `iptype`. -/
inductive Addr
  | v4 (addr : UInt32)
  | v6 (addr : UInt32 × UInt32 × UInt32 × UInt32)
  deriving DecidableEq, Repr

/-- An `ipacm_event_data_all`. -/
structure EventDataAll where
  ifIndex : ℤ
  ifaceName : String
  macAddr : Mac
  addr : Addr
  deriving DecidableEq, Repr

/-- An attribute of a WLAN client. -/
inductive WlanAttrib
  | macAddr (mac : Mac)
  | other
  deriving DecidableEq, Repr

/-- An `ipacm_event_data_wlan_ex`. -/
structure WlanEx where
  ifIndex : ℤ
  attribs : List WlanAttrib
  deriving DecidableEq, Repr

/-- The MAC address of a WLAN client: that of the last attribute that has one. -/
def WlanEx.clientMacAddr (data : WlanEx) : Mac :=
  data.attribs.foldl (fun mac attrib =>
    match attrib with
    | .macAddr mac' => mac'
    | .other => mac) 0

/-- What is posted: `IPA_NEIGH_CLIENT_IP_ADDR_ADD_EVENT` and `IPA_NEIGH_CLIENT_IP_ADDR_DEL_EVENT`.
-/
inductive Posted
  | ipAddrAdd (data : EventDataAll)
  | ipAddrDel (data : EventDataAll)
  deriving DecidableEq, Repr

/-- The two events about neighbors. -/
inductive NeighEvent
  | newNeigh
  | delNeigh
  deriving DecidableEq, Repr

/-- What an event about a neighbor is posted as. -/
def NeighEvent.post : NeighEvent → EventDataAll → Posted
  | .newNeigh => .ipAddrAdd
  | .delNeigh => .ipAddrDel

/-- `IPV4_ADDR_LINKLOCAL` under its mask. -/
def isLinkLocal (addr : UInt32) : Bool := addr &&& 0xFFFF0000 == 0xA9FE0000

/-- The members of `IPACM_Neighbor`. -/
structure Neighbor where
  numNeighborClient : ℕ
  circularIndex : ℕ
  neighborClient : ℕ → NeighborClient

namespace Neighbor

/-- The constructor. -/
def init : Neighbor := ⟨0, 0, fun _ => .zero⟩

variable (s : Neighbor) (mac : Mac) (i : ℕ)

/-! ## The array -/

/-- The loops that search for a client. -/
def seen : Option ℕ := firstIdx s.numNeighborClient fun i => (s.neighborClient i).macAddr = mac

/-- Change an element. -/
def setClient (c : NeighborClient) : Neighbor :=
  { s with neighborClient := Function.update s.neighborClient i c }

/-- A client that was not seen is put into the first free element. -/
def addClient (c : NeighborClient) : Neighbor :=
  { s.setClient s.numNeighborClient c with numNeighborClient := s.numNeighborClient + 1 }

/-- There is no free element: the one that `circular_index` is at is recycled. -/
def recycle (c : NeighborClient) : Neighbor :=
  { s.setClient s.circularIndex c with
    circularIndex := (s.circularIndex + 1) % ipaMaxNumNeighborClients }

/-- A client is cleaned, and those behind it move up. -/
def clean : Neighbor :=
  { s with
    numNeighborClient := s.numNeighborClient - 1
    neighborClient := shiftDown (fun _ next => next) i (s.numNeighborClient - 1)
      (Function.update s.neighborClient i .zero) }

/-! ## Events -/

variable (ipaVirtualIfaceName : String) (event : NeighEvent) (data : EventDataAll)
  (ipaInterfaceIndex : ℕ) (addr : UInt32)

/-- An event with an address on the bridge: it is posted for the interface that the client was seen
on. -/
def bridgeEvent : Neighbor × List Posted :=
  match s.seen data.macAddr with
  | none => (s, [])
  | some i =>
      let c := s.neighborClient i
      (match data.addr with
        | .v4 addr => s.setClient i { c with v4Addr := addr }
        | .v6 _ => s,
        [event.post { data with ifIndex := c.ifaceIndex, ifaceName := c.ifaceName }])

/-- A neighbor with an IPv4 address on another interface. -/
def newNeighV4 : Neighbor :=
  let c : NeighborClient := ⟨data.macAddr, data.ifIndex, addr, ipaInterfaceIndex, data.ifaceName⟩
  match s.seen data.macAddr with
  | some i => s.setClient i { c with macAddr := (s.neighborClient i).macAddr }
  | none =>
      if s.numNeighborClient < ipaMaxNumNeighborClients then s.addClient c
      else s.recycle { c with v4Addr := 0 }

/-- A neighbor with an IPv4 address leaves another interface. -/
def delNeighV4 : Neighbor :=
  match s.seen data.macAddr with
  | some i => s.clean i
  | none => s

/-- What an IPv6 event without an address changes of a client that was seen: on another interface
the client is on that one now. -/
def relocated (c : NeighborClient) : NeighborClient :=
  if ipaVirtualIfaceName ≠ data.ifaceName ∧ data.ifIndex ≠ c.ifaceIndex then
    { c with ifaceIndex := data.ifIndex, ifaceName := data.ifaceName }
  else c

/-- An IPv6 event without an address. -/
def noAddrEvent : Neighbor × List Posted :=
  match s.seen data.macAddr with
  | some i =>
      let c := relocated ipaVirtualIfaceName data (s.neighborClient i)
      (match event with
        | .newNeigh => s.setClient i c
        | .delNeigh => (s.setClient i c).clean i,
        if ipaVirtualIfaceName ≠ data.ifaceName ∧ c.v4Addr ≠ 0 then
          [event.post ⟨c.ifaceIndex, c.ifaceName, c.macAddr, .v4 c.v4Addr⟩]
        else [])
  | none =>
      if event = .newNeigh ∧ ipaVirtualIfaceName ≠ data.ifaceName then
        let c : NeighborClient := ⟨data.macAddr, data.ifIndex, 0, ipaInterfaceIndex, data.ifaceName⟩
        (if s.numNeighborClient < ipaMaxNumNeighborClients then s.addClient c else s.recycle c, [])
      else (s, [])

/-- `IPA_NEW_NEIGH_EVENT` and `IPA_DEL_NEIGH_EVENT`, on an interface that is supported. -/
def neighEvent : Neighbor × List Posted :=
  match data.addr with
  | .v4 addr =>
      if addr = 0 ∨ isLinkLocal addr then (s, [])
      else if ipaVirtualIfaceName = data.ifaceName then s.bridgeEvent event data
      else
        (match event with
          | .newNeigh => s.newNeighV4 data ipaInterfaceIndex addr
          | .delNeigh => s.delNeighV4 data, [event.post data])
  | .v6 addr =>
      if addr ≠ (0, 0, 0, 0) then
        if ipaVirtualIfaceName = data.ifaceName then s.bridgeEvent event data
        else (s, [event.post data])
      else s.noAddrEvent ipaVirtualIfaceName event data ipaInterfaceIndex

/-- `IPA_WLAN_CLIENT_ADD_EVENT_EX`, on an interface that is supported and has the name in the
`iface_table`. -/
def wlanClientAddEventEx (data : WlanEx) (tableName : String) : Neighbor × List Posted :=
  match s.seen data.clientMacAddr with
  | none => (s, [])
  | some i =>
      if ipaVirtualIfaceName ≠ tableName then
        let c := { s.neighborClient i with ifaceIndex := data.ifIndex }
        (s.setClient i c,
          if ipaInterfaceIndex ≠ c.ipaIfNum then []
          else if c.v4Addr ≠ 0 then
            [.ipAddrAdd ⟨c.ifaceIndex, c.ifaceName, c.macAddr, .v4 c.v4Addr⟩]
          else [])
      else (s, [])

end Neighbor

/-! ## Runs -/

/-- An event, with the answer for its interface; none if the interface is not supported. -/
inductive Event
  | neigh (event : NeighEvent) (data : EventDataAll) (ipaInterfaceIndex : Option ℕ)
  | wlanClientAddEx (data : WlanEx) (iface : Option (ℕ × String))
  deriving DecidableEq

/-- `event_callback`. -/
def Neighbor.eventCallback (ipaVirtualIfaceName : String) (s : Neighbor) :
    Event → Neighbor × List Posted
  | .neigh event data (some i) => s.neighEvent ipaVirtualIfaceName event data i
  | .neigh _ _ none => (s, [])
  | .wlanClientAddEx data (some (i, tableName)) =>
      s.wlanClientAddEventEx ipaVirtualIfaceName i data tableName
  | .wlanClientAddEx _ none => (s, [])

/-- An event is handled. -/
def Neighbor.Step (ipaVirtualIfaceName : String) (s : Neighbor) (e : Event) (t : Neighbor) : Prop :=
  (s.eventCallback ipaVirtualIfaceName e).1 = t

end Ipacm.NeighCache
