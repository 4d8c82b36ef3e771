import OcnDevice.Core.Records
import OcnDevice.Ipacm.OffloadManager.Model

/-!
# Messages of the routing socket

`ipa_nl_decode_nlmsg` is given a datagram with messages of the routing socket.  It walks over the
messages with a pointer and the length that is left, decodes those of a few types, and posts an
event for what it decodes.  The decoders are given the datagram, and the length that is left; and
the structure that they fill is the same for all messages.

The buffer is a memory of bytes from the first byte of the datagram on; behind the datagram it holds
whatever was there.  Interface names are found and allocations succeed.  What of an event is not
written is `none`.
-/

namespace Ipacm.Netlink

/-! ## The buffer -/

/-- A `uint16_t` of the buffer. -/
def u16 (m : ℕ → UInt8) (o : ℕ) : ℕ := (m o).toNat + (m (o + 1)).toNat * 256

/-- A `uint32_t` of the buffer. -/
def u32 (m : ℕ → UInt8) (o : ℕ) : ℕ := u16 m o + u16 m (o + 2) * 65536

/-- `struct nlmsghdr`, with `NLMSG_OK` and `NLMSG_NEXT`. -/
def nlmsg : Framing := ⟨16, u32, by decide⟩

/-- `struct rtattr`, with `RTA_OK` and `RTA_NEXT`. -/
def rta : Framing := ⟨4, u16, by decide⟩

/-- `nlmsg_type`. -/
def nlmsgType (m : ℕ → UInt8) (nlh : ℕ) : ℕ := u16 m (nlh + 4)

/-- An attribute: its type, and the bytes from its data on. -/
structure Rtattr where
  type : ℕ
  data : ℕ → UInt8

/-- The attribute at a place of the buffer. -/
def rtattr (m : ℕ → UInt8) (o : ℕ) : Rtattr := ⟨u16 m (o + 2), fun i => m (o + 4 + i)⟩

/-- The attributes that are visited from a place on. -/
def rtattrs (m : ℕ → UInt8) (o len : ℕ) : Option (List Rtattr) :=
  (rta.walk m (len + 1) o len).map (List.map (rtattr m))

/-! ## What is decoded -/

/-- A `struct sockaddr_storage`, with the bytes that are copied to it. -/
structure SockaddrStorage where
  ssFamily : ℕ := 0
  data : ℕ → UInt8 := fun _ => 0

/-- `ntohl`. -/
def ntohl (w : UInt32) : UInt32 :=
  (w >>> 24) ||| ((w >>> 8) &&& (0xff00 : UInt32)) ||| ((w <<< 8) &&& (0xff0000 : UInt32)) |||
    (w <<< 24)

/-- A word of an address, read by `ntohl`. -/
def SockaddrStorage.word (a : SockaddrStorage) (k : ℕ) : UInt32 :=
  UInt32.ofNat (((a.data (4 * k)).toNat * 256 + (a.data (4 * k + 1)).toNat) * 65536 +
    (a.data (4 * k + 2)).toNat * 256 + (a.data (4 * k + 3)).toNat)

/-- The four words of an address. -/
def SockaddrStorage.words (a : SockaddrStorage) (k : Fin 4) : Option UInt32 := some (a.word k)

/-- `ipa_nl_link_info_t`. -/
structure LinkInfo where
  ifiFamily : ℕ := 0
  ifiIndex : ℕ := 0
  ifiFlags : ℕ := 0
  ifiChange : ℕ := 0

/-- `ipa_nl_addr_info_t`. -/
structure AddrInfo where
  ifaFamily : ℕ := 0
  ifaIndex : ℕ := 0
  prefixAddr : SockaddrStorage := {}

/-- `ipa_nl_neigh_info_t`. -/
structure NeighInfo where
  ndmFamily : ℕ := 0
  ndmIfindex : ℕ := 0
  ndmState : ℕ := 0
  localAddr : SockaddrStorage := {}
  lladdr : ℕ → UInt8 := fun _ => 0

/-- `ipa_nl_route_info_t`. -/
structure RouteInfo where
  rtmFamily : ℕ := 0
  rtmDstLen : ℕ := 0
  rtmTable : ℕ := 0
  rtmProtocol : ℕ := 0
  rtmScope : ℕ := 0
  rtmType : ℕ := 0
  hasDst : Bool := false
  hasGateway : Bool := false
  dstAddr : SockaddrStorage := {}
  gatewayAddr : SockaddrStorage := {}
  oifIndex : ℕ := 0

/-- `ipa_nl_msg_t`. -/
structure NlMsg where
  linkInfo : LinkInfo := {}
  addrInfo : AddrInfo := {}
  neighInfo : NeighInfo := {}
  routeInfo : RouteInfo := {}

/-! ## The decoders -/

def afInet : ℕ := 2
def afBridge : ℕ := 7
def afInet6 : ℕ := 10

/-- `ipa_nl_decode_rtm_link`. -/
def decodeRtmLink (m : ℕ → UInt8) : LinkInfo where
  ifiFamily := (m 16).toNat
  ifiIndex := u32 m 20
  ifiFlags := u32 m 24
  ifiChange := u32 m 28

/-- What an attribute of an address is decoded to. -/
def AddrInfo.attr (i : AddrInfo) (a : Rtattr) : AddrInfo :=
  -- `IFA_ADDRESS`
  if a.type = 1 then { i with prefixAddr := ⟨i.ifaFamily, a.data⟩ } else i

/-- `ipa_nl_decode_rtm_addr`. -/
def decodeRtmAddr (m : ℕ → UInt8) (buflen : ℕ) (i : AddrInfo) : Option AddrInfo :=
  (rtattrs m 24 (buflen - 16)).map fun as =>
    as.foldl AddrInfo.attr { i with ifaFamily := (m 16).toNat, ifaIndex := u32 m 20 }

/-- What an attribute of a neighbour is decoded to. -/
def NeighInfo.attr (i : NeighInfo) (a : Rtattr) : NeighInfo :=
  -- `NDA_DST`
  if a.type = 1 then { i with localAddr := ⟨i.ndmFamily, a.data⟩ }
  -- `NDA_LLADDR`
  else if a.type = 2 then { i with lladdr := a.data }
  else i

/-- `ipa_nl_decode_rtm_neigh`. -/
def decodeRtmNeigh (m : ℕ → UInt8) (buflen : ℕ) (i : NeighInfo) : Option NeighInfo :=
  (rtattrs m 28 (buflen - 16)).map fun as =>
    as.foldl NeighInfo.attr
      { i with ndmFamily := (m 16).toNat, ndmIfindex := u32 m 20, ndmState := u16 m 24 }

/-- What an attribute of a route is decoded to. -/
def RouteInfo.attr (i : RouteInfo) (a : Rtattr) : RouteInfo :=
  -- `RTA_DST`
  if a.type = 1 then { i with dstAddr := ⟨i.rtmFamily, a.data⟩, hasDst := true }
  -- `RTA_OIF`
  else if a.type = 4 then { i with oifIndex := u32 a.data 0 }
  -- `RTA_GATEWAY`
  else if a.type = 5 then { i with gatewayAddr := ⟨i.rtmFamily, a.data⟩, hasGateway := true }
  else i

/-- `ipa_nl_decode_rtm_route`. -/
def decodeRtmRoute (m : ℕ → UInt8) (buflen : ℕ) (i : RouteInfo) : Option RouteInfo :=
  (rtattrs m 28 (buflen - 16)).map fun as =>
    as.foldl RouteInfo.attr
      { i with
        rtmFamily := (m 16).toNat
        rtmDstLen := (m 17).toNat
        rtmTable := (m 20).toNat
        rtmProtocol := (m 21).toNat
        rtmScope := (m 22).toNat
        rtmType := (m 23).toNat
        hasDst := false
        hasGateway := false }

/-! ## The events -/

inductive EvtId
  | linkUp
  | linkDown
  | usbLinkUp
  | bridgeLinkUp
  | addrAdd
  | routeAdd
  | routeDel
  | newNeigh
  | delNeigh
  deriving DecidableEq, Repr

/-- `ipacm_event_data_addr`. -/
structure DataAddr where
  iptype : IpType
  ifaceName : Option String := none
  ifIndex : ℕ
  ipv4AddrGw : Option UInt32 := none
  ipv4Addr : Option UInt32 := none
  ipv4AddrMask : Option UInt32 := none
  ipv6Addr : Fin 4 → Option UInt32 := fun _ => none
  ipv6AddrMask : Fin 4 → Option UInt32 := fun _ => none
  ipv6AddrGw : Fin 4 → Option UInt32 := fun _ => none
  deriving DecidableEq

/-- `ipacm_event_data_all`. -/
structure DataAll where
  iptype : IpType
  ifIndex : ℕ
  ipv4Addr : UInt32 := 0
  ipv6Addr : Fin 4 → UInt32 := fun _ => 0
  macAddr : Fin 6 → UInt8
  ifaceName : String := ""
  deriving DecidableEq

/-- An event that is posted. -/
inductive Event
  | fid (event : EvtId) (ifIndex : ℕ)
  | addr (event : EvtId) (data : DataAddr)
  | all (event : EvtId) (data : DataAll)
  deriving DecidableEq

/-- The events for `RTM_NEWLINK`. -/
def newlinkEvents (i : LinkInfo) : List Event :=
  -- `IFF_UP`, `IFF_RUNNING` and `IFF_LOWER_UP`
  (if i.ifiChange.testBit 0 then
    [.fid (if i.ifiFlags.testBit 0 then .linkUp else .linkDown) i.ifiIndex]
  else []) ++
  if i.ifiFlags.testBit 6 ∧ i.ifiFlags.testBit 16 then [.fid .usbLinkUp i.ifiIndex]
  else if i.ifiFlags.testBit 16 then []
  else [.fid .linkDown i.ifiIndex]

/-- The event for `RTM_NEWADDR`. -/
def newaddrEvent (name : ℕ → String) (i : AddrInfo) : Event :=
  .addr .addrAdd
    (if i.prefixAddr.ssFamily = afInet6 then
      { iptype := .v6, ifaceName := some (name i.ifaIndex), ifIndex := i.ifaIndex
        ipv6Addr := i.prefixAddr.words }
    else
      { iptype := .v4, ifaceName := some (name i.ifaIndex), ifIndex := i.ifaIndex
        ipv4Addr := some (i.prefixAddr.word 0) })

/-- `mask_v6`, which writes nothing if the length is not a multiple of four. -/
def maskV6 (index : ℕ) : Option UInt32 :=
  if index ≤ 32 ∧ index % 4 = 0 then some (UInt32.ofNat (2 ^ 32 - 2 ^ (32 - index))) else none

/-- A word of a mask is written by `mask_v6`. -/
def writeMask (mask : ℕ → Option UInt32) (k index : ℕ) : ℕ → Option UInt32 :=
  match maskV6 index with
  | some w => Function.update mask k (some w)
  | none => mask

/-- A pass of the loop over the words of a mask, with the length that is left; `word` is the one
that is written for the rest of the length. -/
def maskPass (word : ℕ → ℕ) (r : ℕ × (ℕ → Option UInt32)) (k : ℕ) : ℕ × (ℕ → Option UInt32) :=
  if r.1 ≥ 32 then (r.1 - 32, writeMask r.2 k 32) else (0, writeMask r.2 (word k) r.1)

/-- The loop, and the words in the order of the host. -/
def maskLoop (word : ℕ → ℕ) (dstLen : ℕ) (k : Fin 4) : Option UInt32 :=
  (((List.range 4).foldl (maskPass word) (dstLen, fun _ => none)).2 k).map ntohl

/-- A route that the user or a router has added or deleted: unicast, of the main table. -/
def RouteInfo.Booted (i : RouteInfo) : Prop :=
  -- `RTN_UNICAST`, `RTPROT_BOOT` or `RTPROT_RA`, `RT_SCOPE_UNIVERSE`, `RT_TABLE_MAIN`
  i.rtmType = 1 ∧ (i.rtmProtocol = 3 ∨ i.rtmProtocol = 9) ∧ i.rtmScope = 0 ∧ i.rtmTable = 254

instance (i : RouteInfo) : Decidable i.Booted := inferInstanceAs (Decidable (_ ∧ _ ∧ _ ∧ _))

/-- An IPv6 route of the kernel. -/
def RouteInfo.Kernel (i : RouteInfo) : Prop :=
  -- `RTN_UNICAST`, `RTPROT_KERNEL`, `RT_TABLE_MAIN`
  i.rtmFamily = afInet6 ∧ i.rtmType = 1 ∧ i.rtmProtocol = 2 ∧ i.rtmTable = 254

instance (i : RouteInfo) : Decidable i.Kernel := inferInstanceAs (Decidable (_ ∧ _ ∧ _ ∧ _))

/-- The events for `RTM_NEWROUTE`, and what `if_ipipv4_addr_mask` is then, as `ntohl` reads it. -/
def newrouteEvents (i : RouteInfo) (mask : UInt32) : List Event × UInt32 :=
  let booted : List Event × UInt32 :=
    if i.Booted then
      if i.hasDst then
        ([.addr .routeAdd
          { iptype := .v4, ifIndex := i.oifIndex, ipv4Addr := some (i.dstAddr.word 0)
            ipv4AddrMask := some mask }], mask)
      else if i.rtmFamily = afInet6 then
        ([.addr .routeAdd
          { iptype := .v6, ifIndex := i.oifIndex, ipv6Addr := i.dstAddr.words
            ipv6AddrMask := i.dstAddr.words, ipv6AddrGw := i.gatewayAddr.words }], mask)
      else
        ([.addr .routeAdd
          { iptype := .v4, ifIndex := i.oifIndex, ipv4Addr := some (i.dstAddr.word 0)
            ipv4AddrGw := some (i.gatewayAddr.word 0)
            ipv4AddrMask := some (i.dstAddr.word 0) }], i.dstAddr.word 0)
    else ([], mask)
  (booted.1 ++
    if i.Kernel then
      (if i.hasDst then
        [.addr .routeAdd
          { iptype := .v6, ifIndex := i.oifIndex, ipv6Addr := i.dstAddr.words
            ipv6AddrMask := maskLoop id i.rtmDstLen }]
      else []) ++
      if i.hasGateway then
        [.addr .routeAdd
          { iptype := .v6, ifIndex := i.oifIndex, ipv6Addr := i.dstAddr.words
            ipv6AddrMask := i.dstAddr.words }]
      else []
    else [], booted.2)

/-- The events for `RTM_DELROUTE`, and what `if_ipipv4_addr_mask` is then. -/
def delrouteEvents (i : RouteInfo) (mask : UInt32) : List Event × UInt32 :=
  let booted : List Event × UInt32 :=
    if i.Booted then
      if i.hasDst then
        ([.addr .routeDel
          { iptype := .v4, ifIndex := i.oifIndex, ipv4Addr := some (i.dstAddr.word 0)
            ipv4AddrMask := some 0xffffffff }], 0xffffffff)
      else if i.rtmFamily = afInet6 then
        ([.addr .routeDel
          { iptype := .v6, ifIndex := i.oifIndex, ipv6Addr := i.dstAddr.words
            ipv6AddrMask := i.dstAddr.words, ipv6AddrGw := i.gatewayAddr.words }], mask)
      else
        ([.addr .routeDel
          { iptype := .v4, ifIndex := i.oifIndex, ipv4Addr := some (i.dstAddr.word 0)
            ipv4AddrMask := some (i.dstAddr.word 0) }], mask)
    else ([], mask)
  (booted.1 ++
    if i.Kernel ∧ i.hasDst then
      [.addr .routeDel
        { iptype := .v6, ifIndex := i.oifIndex, ipv6Addr := i.dstAddr.words
          ipv6AddrMask := maskLoop (fun _ => 0) i.rtmDstLen }]
    else [], booted.2)

/-- The data of a neighbour. -/
def neighData (i : NeighInfo) (ifaceName : String) : DataAll :=
  let base : DataAll :=
    { iptype := .v6, ifIndex := i.ndmIfindex, macAddr := fun k => i.lladdr k, ifaceName }
  if i.localAddr.ssFamily = afInet6 then { base with ipv6Addr := fun k => i.localAddr.word k }
  else if i.localAddr.ssFamily = afInet then
    { base with iptype := .v4, ipv4Addr := i.localAddr.word 0 }
  else base

/-- The event for `RTM_NEWNEIGH`. -/
def newneighEvent (name : ℕ → String) (i : NeighInfo) : Event :=
  -- `NUD_PERMANENT`
  .all (if i.ndmFamily = afBridge ∧ i.ndmState = 128 then .bridgeLinkUp else .newNeigh)
    (neighData i (name i.ndmIfindex))

/-- The event for `RTM_DELNEIGH`. -/
def delneighEvent (i : NeighInfo) : Event := .all .delNeigh (neighData i "")

/-! ## The loop over the messages -/

/-- The types that are decoded. -/
inductive Rtm
  | newlink
  | dellink
  | newaddr
  | newroute
  | delroute
  | newneigh
  | delneigh
  deriving DecidableEq, Repr

/-- The type of a message, if it is one of these. -/
def Rtm.ofType : ℕ → Option Rtm
  | 16 => some newlink
  | 17 => some dellink
  | 20 => some newaddr
  | 24 => some newroute
  | 25 => some delroute
  | 28 => some newneigh
  | 29 => some delneigh
  | _ => none

/-- How the code is built, and the names of the interfaces. -/
structure Build where
  android : Bool
  name : ℕ → String

/-- What is kept between the messages: `msg_ptr`, and `if_ipipv4_addr_mask` as `ntohl` reads it. -/
structure State where
  msg : NlMsg := {}
  mask : UInt32 := 0

/-- What a message does: the state then, the events that are posted, and whether the function
returns; the buffer is the datagram, and `buflen` is what is left of it. -/
def decode (b : Build) (m : ℕ → UInt8) (buflen : ℕ) (s : State) :
    Rtm → Option (State × List Event × Bool)
  | .newlink =>
      let i := decodeRtmLink m
      let s' : State := { s with msg := { s.msg with linkInfo := i } }
      if b.android ∧ i.ifiFamily = afBridge then some (s', [], true)
      else some (s', newlinkEvents i, false)
  | .dellink =>
      let i := decodeRtmLink m
      let s' : State := { s with msg := { s.msg with linkInfo := i } }
      if b.android ∧ i.ifiFamily = afBridge then some (s', [], true)
      else some (s', [.fid .linkDown i.ifiIndex], false)
  | .newaddr =>
      (decodeRtmAddr m buflen s.msg.addrInfo).map fun i =>
        ({ s with msg := { s.msg with addrInfo := i } }, [newaddrEvent b.name i], false)
  | .newroute =>
      (decodeRtmRoute m buflen s.msg.routeInfo).map fun i =>
        ({ msg := { s.msg with routeInfo := i }, mask := (newrouteEvents i s.mask).2 },
          (newrouteEvents i s.mask).1, false)
  | .delroute =>
      (decodeRtmRoute m buflen s.msg.routeInfo).map fun i =>
        ({ msg := { s.msg with routeInfo := i }, mask := (delrouteEvents i s.mask).2 },
          (delrouteEvents i s.mask).1, false)
  | .newneigh =>
      (decodeRtmNeigh m buflen s.msg.neighInfo).map fun i =>
        ({ s with msg := { s.msg with neighInfo := i } }, [newneighEvent b.name i], false)
  | .delneigh =>
      (decodeRtmNeigh m buflen s.msg.neighInfo).map fun i =>
        ({ s with msg := { s.msg with neighInfo := i } }, [delneighEvent i], false)

/-- The loop over the messages, from a place on.  It comes to no end where the unsigned length goes
below zero. -/
def decodeFrom (b : Build) (m : ℕ → UInt8) : ℕ → ℕ → ℕ → State → Option (List Event)
  | 0, _, _, _ => none
  | fuel + 1, nlh, buflen, s =>
      if nlmsg.Ok m nlh buflen then
        (match Rtm.ofType (nlmsgType m nlh) with
          | some t => decode b m buflen s t
          | none => some (s, [], false)).bind fun r =>
            if r.2.2 then some r.2.1
            else if alignFour (nlmsg.length m nlh) ≤ buflen then
              (decodeFrom b m fuel (nlmsg.next m nlh) (buflen - alignFour (nlmsg.length m nlh))
                r.1).map (r.2.1 ++ ·)
            else none
      else some []

/-- `ipa_nl_decode_nlmsg`, with a zeroed `ipa_nl_msg_t`: the events that are posted. -/
def decodeNlmsg (b : Build) (m : ℕ → UInt8) (buflen : ℕ) : Option (List Event) :=
  decodeFrom b m (buflen + 1) 0 buflen {}

/-! ## Datagrams -/

/-- A buffer that begins with a datagram. -/
def buffer (datagram : List UInt8) (behind : ℕ → UInt8) (i : ℕ) : UInt8 :=
  if i < datagram.length then datagram.getD i 0 else behind (i - datagram.length)

/-- The events that are posted for messages in one datagram. -/
def posted (b : Build) (behind : ℕ → UInt8) (msgs : List (List UInt8)) : Option (List Event) :=
  decodeNlmsg b (buffer msgs.flatten behind) msgs.flatten.length

end Ipacm.Netlink
