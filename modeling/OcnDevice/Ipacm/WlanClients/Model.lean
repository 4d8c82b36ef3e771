import OcnDevice.Core.HandleTable
import OcnDevice.Core.Loop
import OcnDevice.Core.Run
import OcnDevice.Ipacm.LanToLan.Model
import OcnDevice.Ipacm.NatApp.Model

/-!
# WLAN clients

An `IPACM_Wlan` keeps the clients of one access point in an array; the first `num_wifi_client`
records are those of the attached clients.  For a client that attaches, the headers of its packets
are built from the partial headers of the interface and given to the driver, which returns a handle
for each; the record of the client keeps the handles and whether they are set.

The functions below are the member functions that add and delete headers, on the interfaces, which
are known by their numbers, and the headers of the driver.  The routing rules of a client are only
followed as far as their deletion can fail.
-/

namespace Ipacm.Wlan

/-! ## Data -/

/-- An attribute of a client. -/
inductive WlanHdrAttrib
  | macAddr (offset : ℕ) (mac : Mac)
  | staId (offset : ℕ) (staId : UInt8)
  | other
  deriving DecidableEq, Repr

/-- An `ipacm_event_data_wlan_ex`. -/
abbrev WlanEx := List WlanHdrAttrib

/-- The bytes of a header. -/
abbrev Bytes := ℕ → UInt8

/-- A header that is installed: its name, its length and its bytes. -/
structure Hdr where
  name : String
  len : ℕ
  bytes : Bytes

/-- An `ipa_wlan_client`.  `nameCount` is the counter that its headers were named by, of which the
code keeps nothing. -/
structure WlanClient where
  hdrInfo : Option WlanEx := none
  mac : Mac := 0
  v4Addr : UInt32 := 0
  v6Addr : ℕ → UInt32 × UInt32 × UInt32 × UInt32 := fun _ => (0, 0, 0, 0)
  hdrHdlV4 : ℕ := 0
  hdrHdlV6 : ℕ := 0
  routeRuleSetV4 : Bool := false
  routeRuleSetV6 : ℕ := 0
  ipv4Set : Bool := false
  ipv6Set : ℕ := 0
  ipv4HeaderSet : Bool := false
  ipv6HeaderSet : Bool := false
  powerSaveSet : Bool := false
  nameCount : ℕ := 0

/-- The members of an `IPACM_Wlan`; of a tx property only the family is kept. -/
structure WlanIface where
  txProp : Option (List IpType)
  numWifiClient : ℕ
  headerNameCount : ℕ
  wlanClient : ℕ → WlanClient

/-- The interfaces by their numbers, of which there are those of `ifaces`, `total_num_wifi_clients`,
`IPA_HDR_MAX_SIZE`, the address of the bridge if there is one, and the headers of the driver. -/
structure WlanSys where
  ifaces : Finset ℕ
  iface : ℕ → WlanIface
  totalNumWifiClients : ℕ
  hdrMaxSize : ℕ
  bridgeMac : Option Mac
  hdrs : HandleTable Hdr

/-- What the driver answers for the header of one family: the partial header, and the handle that it
would choose for the full one. -/
structure HdrAnswers where
  copied : Option (ℕ × Bytes)
  added : Option ℕ

/-- What the system answers in the course of an add. -/
structure AddAnswers where
  allocated : Bool
  hdr : IpType → HdrAnswers

/-- What the driver answers in the course of a deletion: whether the routing rules and the header of
each family are deleted. -/
structure DelAnswers where
  rt : IpType → Bool
  hdr : IpType → Bool
  deriving DecidableEq

/-! ## Header names -/

/-- `snprintf(index, sizeof(index), "%d", n)`, where `index` has two bytes. -/
def index (n : ℕ) : List Char := (Nat.toDigits 10 n).take 1

/-- `IPA_WLAN_PARTIAL_HDR_NAME_v4` and `IPA_WLAN_PARTIAL_HDR_NAME_v6`. -/
def partialHdrName : IpType → List Char
  | .v4 => "IEEE802_3_v4".toList
  | .v6 => "IEEE802_3_v6".toList

/-- The name of a client's header. -/
def hdrName (fam : IpType) (ipaIfNum headerNameCount : ℕ) : String :=
  String.ofList (index ipaIfNum ++ partialHdrName fam ++ index headerNameCount)

/-! ## Adding a client -/

/-- The six bytes of an address. -/
def macByte (mac : Mac) (i : ℕ) : UInt8 := UInt8.ofNat (mac.toNat >>> (8 * (5 - i)))

/-- `memcpy` of an address to an offset. -/
def copyMac (b : Bytes) (offset : ℕ) (mac : Mac) : Bytes := fun i =>
  if offset ≤ i ∧ i < offset + 6 then macByte mac (i - offset) else b i

/-- A header under construction: the bytes of the request, the record of the client, and the headers
of the driver. -/
structure Building where
  bytes : Bytes
  client : WlanClient
  hdrs : HandleTable Hdr

/-- What an attribute does to the header and the record. -/
def Building.attrib (bridgeMac : Option Mac) (x : Building) : WlanHdrAttrib → Building
  | .macAddr offset mac =>
      { x with
        client := { x.client with mac }
        bytes :=
          match bridgeMac with
          | none => copyMac x.bytes offset mac
          | some bridge => copyMac (copyMac x.bytes offset mac) (offset + 6) bridge }
  | .staId offset staId => { x with bytes := Function.update x.bytes offset staId }
  | .other => x

/-- The client has a header of the family. -/
def WlanClient.headerSet (c : WlanClient) : IpType → Bool
  | .v4 => c.ipv4HeaderSet
  | .v6 => c.ipv6HeaderSet

/-- The handle of the client's header of the family. -/
def WlanClient.hdrHdl (c : WlanClient) : IpType → ℕ
  | .v4 => c.hdrHdlV4
  | .v6 => c.hdrHdlV6

/-- Remember the header of a family. -/
def WlanClient.setHeader (c : WlanClient) (hdl : ℕ) : IpType → WlanClient
  | .v4 => { c with hdrHdlV4 := hdl, ipv4HeaderSet := true }
  | .v6 => { c with hdrHdlV6 := hdl, ipv6HeaderSet := true }

/-- Forget the header of a family. -/
def WlanClient.clearHeader (c : WlanClient) : IpType → WlanClient
  | .v4 => { c with ipv4HeaderSet := false }
  | .v6 => { c with ipv6HeaderSet := false }

/-- Build the header of a family and give it to the driver; whether this succeeds. -/
def WlanSys.addHdr (s : WlanSys) (n : ℕ) (data : WlanEx) (ans : AddAnswers) (fam : IpType)
    (x : Building) : Bool × Building :=
  match (ans.hdr fam).copied with
  | none => (false, x)
  | some (len, hdr) =>
      if len > s.hdrMaxSize then (false, x)
      else
        let x := data.foldl (Building.attrib s.bridgeMac)
          { x with bytes := fun i => if i < len then hdr i else x.bytes i }
        match (ans.hdr fam).added with
        | none => (false, x)
        | some pick =>
            (true,
              { x with
                client := x.client.setHeader (x.hdrs.fresh pick) fam
                hdrs := x.hdrs.add pick
                  ⟨hdrName fam n (s.iface n).headerNameCount, len, x.bytes⟩ })

/-- The loop over the tx properties for a family, which stops behind the first one. -/
def WlanSys.addHdrs (s : WlanSys) (n : ℕ) (tx : List IpType) (data : WlanEx) (ans : AddAnswers)
    (fam : IpType) (x : Building) : Bool × Building :=
  if fam ∈ tx then s.addHdr n data ans fam x else (true, x)

/-- Write an interface. -/
def WlanSys.setIface (s : WlanSys) (n : ℕ) (a : WlanIface) : WlanSys :=
  { s with iface := Function.update s.iface n a }

/-- Write the record of a client. -/
def WlanSys.setClient (s : WlanSys) (n i : ℕ) (c : WlanClient) : WlanSys :=
  s.setIface n { s.iface n with wlanClient := Function.update (s.iface n).wlanClient i c }

/-- The record that the next client of the interface gets. -/
def WlanSys.slot (s : WlanSys) (n : ℕ) : WlanClient :=
  (s.iface n).wlanClient (s.iface n).numWifiClient

/-- What a failed add leaves. -/
def WlanSys.abandon (s : WlanSys) (n : ℕ) (x : Building) : WlanSys :=
  { s.setClient n (s.iface n).numWifiClient x.client with hdrs := x.hdrs }

/-- Initialize the record, and count the client. -/
def WlanSys.attach (s : WlanSys) (n : ℕ) (x : Building) : WlanSys :=
  { s.setIface n
      { s.iface n with
        wlanClient := Function.update (s.iface n).wlanClient (s.iface n).numWifiClient
          { x.client with
            routeRuleSetV4 := false
            routeRuleSetV6 := 0
            ipv4Set := false
            ipv6Set := 0
            powerSaveSet := false
            nameCount := (s.iface n).headerNameCount }
        numWifiClient := (s.iface n).numWifiClient + 1
        headerNameCount := (s.iface n).headerNameCount + 1 } with
    hdrs := x.hdrs
    totalNumWifiClients := s.totalNumWifiClients + 1 }

/-- The number of clients allows one more. -/
def WlanSys.Room (s : WlanSys) (n : ℕ) : Prop :=
  (s.iface n).numWifiClient < ipaMaxNumWifiClients ∧ s.totalNumWifiClients < ipaMaxNumWifiClients

instance (s : WlanSys) (n : ℕ) : Decidable (s.Room n) := inferInstanceAs (Decidable (_ ∧ _))

/-- `handle_wlan_client_init_ex`, and whether it succeeds. -/
def WlanSys.handleWlanClientInitEx (s : WlanSys) (n : ℕ) (data : WlanEx) (ans : AddAnswers) :
    Bool × WlanSys :=
  if ¬ s.Room n then (false, s)
  else
    match (s.iface n).txProp with
    | none => (true, s)
    | some tx =>
        if ans.allocated = false then (false, s)
        else
          let x : Building := ⟨fun _ => 0, { s.slot n with hdrInfo := some data }, s.hdrs⟩
          let r4 := s.addHdrs n tx data ans .v4 x
          if r4.1 = false then (false, s.abandon n r4.2)
          else
            let r6 := s.addHdrs n tx data ans .v6 r4.2
            if r6.1 = false then (false, s.abandon n r6.2) else (true, s.attach n r6.2)

/-! ## Deleting a client -/

/-- `get_wlan_client_index`. -/
def WlanIface.getWlanClientIndex (a : WlanIface) (mac : Mac) : Option ℕ :=
  firstIdx a.numWifiClient fun cnt => (a.wlanClient cnt).mac = mac

/-- The interface has a tx property of the family. -/
def WlanIface.hasTx (a : WlanIface) (fam : IpType) : Bool :=
  (a.txProp.getD []).contains fam

/-- `delete_default_qos_rtrules`, which fails if a routing rule is not deleted. -/
def WlanIface.deleteDefaultQosRtrules (a : WlanIface) (ans : DelAnswers) (c : WlanClient) :
    IpType → Option WlanClient
  | .v4 =>
      if c.routeRuleSetV4 ∧ a.hasTx .v4 ∧ ans.rt .v4 = false then none
      else some { c with routeRuleSetV4 := false }
  | .v6 =>
      if c.routeRuleSetV6 ≠ 0 ∧ a.hasTx .v6 ∧ ans.rt .v6 = false then none
      else some { c with routeRuleSetV6 := 0 }

/-- `DeleteHeaderHdl`. -/
def deleteHeaderHdl (hdrs : HandleTable Hdr) (hdl : ℕ) (ok : Bool) : Bool × HandleTable Hdr :=
  if hdl = 0 then (false, hdrs)
  else if ok ∧ hdl ∈ hdrs.handles then (true, hdrs.del hdl) else (false, hdrs)

/-- Delete the header of a family, if the client has one. -/
def deleteHdr (ans : DelAnswers) (fam : IpType) (c : WlanClient) (hdrs : HandleTable Hdr) :
    Bool × WlanClient × HandleTable Hdr :=
  if c.headerSet fam then
    match deleteHeaderHdl hdrs (c.hdrHdl fam) (ans.hdr fam) with
    | (false, hdrs) => (false, c, hdrs)
    | (true, hdrs) => (true, c.clearHeader fam, hdrs)
  else (true, c, hdrs)

/-- Copy a record to the one before it, all but `power_save_set`. -/
def WlanClient.moveUp (c d : WlanClient) : WlanClient :=
  { d with
    powerSaveSet := c.powerSaveSet
    v6Addr := fun i => if i < d.ipv6Set then d.v6Addr i else c.v6Addr i }

/-- Reset the record of a client. -/
def WlanClient.resetClient (c : WlanClient) : WlanClient :=
  { c with
    ipv4Set := false
    ipv6Set := 0
    ipv4HeaderSet := false
    ipv6HeaderSet := false
    routeRuleSetV4 := false
    routeRuleSetV6 := 0 }

/-- The records behind the client move up, and the client is counted no more. -/
def WlanSys.detach (s : WlanSys) (n i : ℕ) (c : WlanClient) (hdrs : HandleTable Hdr) : WlanSys :=
  let a := s.iface n
  { s.setIface n
      { a with
        wlanClient := shiftDown WlanClient.moveUp i (a.numWifiClient - 1)
          (Function.update a.wlanClient i c.resetClient)
        numWifiClient := a.numWifiClient - 1 } with
    hdrs
    totalNumWifiClients := s.totalNumWifiClients - 1 }

/-- `handle_wlan_client_down_evt`, and whether it succeeds. -/
def WlanSys.handleWlanClientDownEvt (s : WlanSys) (n : ℕ) (mac : Mac) (ans : DelAnswers) :
    Bool × WlanSys :=
  match (s.iface n).getWlanClientIndex mac with
  | none => (true, s)
  | some i =>
      match (s.iface n).deleteDefaultQosRtrules ans ((s.iface n).wlanClient i) .v4 with
      | none => (false, s)
      | some c =>
          match (s.iface n).deleteDefaultQosRtrules ans c .v6 with
          | none => (false, s.setClient n i c)
          | some c =>
              let r4 := deleteHdr ans .v4 c s.hdrs
              if r4.1 = false then (false, s.setClient n i c)
              else
                let r6 := deleteHdr ans .v6 r4.2.1 r4.2.2
                if r6.1 = false then (false, { s.setClient n i r6.2.1 with hdrs := r6.2.2 })
                else (true, s.detach n i r6.2.1 r6.2.2)

/-! ## Runs -/

/-- An event of a client. -/
inductive WlanOp
  | add (n : ℕ) (data : WlanEx) (ans : AddAnswers)
  | del (n : ℕ) (mac : Mac) (ans : DelAnswers)

/-- What an event does. -/
def WlanOp.call (s : WlanSys) : WlanOp → WlanSys
  | .add n data ans => (s.handleWlanClientInitEx n data ans).2
  | .del n mac ans => (s.handleWlanClientDownEvt n mac ans).2

/-- The interface that an event is for. -/
def WlanOp.ifNum : WlanOp → ℕ
  | .add n _ _ => n
  | .del n _ _ => n

/-- An event that its interface handles. -/
def WlanOp.Step (s : WlanSys) (op : WlanOp) (s' : WlanSys) : Prop :=
  op.ifNum ∈ s.ifaces ∧ op.call s = s'

/-- The start, where no interface has a client and no record was ever used. -/
def WlanSys.Init (s : WlanSys) : Prop :=
  s.totalNumWifiClients = 0 ∧
    ∀ n, (s.iface n).numWifiClient = 0 ∧ ∀ i, (s.iface n).wlanClient i = {}

/-- A system that starts with these interfaces, which have both families. -/
def WlanSys.fresh (ifaces : Finset ℕ) : WlanSys where
  ifaces := ifaces
  iface := fun _ => ⟨some [.v4, .v6], 0, 0, fun _ => {}⟩
  totalNumWifiClients := 0
  hdrMaxSize := 255
  bridgeMac := none
  hdrs := .empty

lemma WlanSys.fresh_init (ifaces : Finset ℕ) : (fresh ifaces).Init :=
  ⟨rfl, fun _ => ⟨rfl, fun _ => rfl⟩⟩

/-- The driver has all partial headers, and takes the headers of these families. -/
def answersOf (takes : IpType → Bool) : AddAnswers where
  allocated := true
  hdr fam := ⟨some (14, fun _ => 0), if takes fam then some 7 else none⟩

end Ipacm.Wlan
