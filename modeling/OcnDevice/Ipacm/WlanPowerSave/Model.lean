import OcnDevice.Ipacm.ConntrackListener.Model
import OcnDevice.Ipacm.WlanClients.Model

/-!
# WLAN clients in power save

When a client of a WLAN interface goes into power save, `NatApp` takes its NAT rules out of the
table and keeps its IPv4 address in `PwrSaveIfs`, so that no rule is installed for it until it is
back.  The client itself is known to its `IPACM_Wlan` by its MAC address, and the record of the
client has a flag for the power save.  When the client goes or gets another address,
`IPACM_ConntrackListener` tells NatApp, provided that the address is in its table of addresses of
NAT interfaces.

The system consists of the WLAN interfaces of `WlanClients`, whose clients get addresses here, of
the listener and of NatApp.  Whether the driver does what it is asked for comes with each event.
-/

namespace Ipacm.Wlan

/-- The WLAN interfaces, and the listener with NatApp. -/
structure SaveSys where
  wlan : WlanSys
  ct : CtSys

/-! ## One client

The functions for a client change its record and the listener. -/

namespace WlanIface

variable (a : WlanIface) (x : WlanClient × CtSys)

/-- `delete_default_qos_rtrules`, where it does not matter whether it fails. -/
def deleteRtrules (ans : DelAnswers) (c : WlanClient) (fam : IpType) : WlanClient :=
  (a.deleteDefaultQosRtrules ans c fam).getD c

/-- `handle_wlan_client_route_rule`, which fails if a rule is not added. -/
def handleWlanClientRouteRule (added : IpType → Bool) (c : WlanClient) (fam : IpType) :
    WlanClient :=
  if a.txProp = none ∨ c.powerSaveSet then c
  else
    match fam with
    | .v4 =>
        if c.routeRuleSetV4 = false ∧ c.ipv4Set ∧ added .v4 then { c with routeRuleSetV4 := true }
        else c
    | .v6 =>
        if c.routeRuleSetV6 < c.ipv6Set ∧ added .v6 then { c with routeRuleSetV6 := c.ipv6Set }
        else c

/-- `handle_wlan_client_pwrsave`, for the client that is found. -/
def handleWlanClientPwrsave (ans : DelAnswers) : WlanClient × CtSys :=
  if x.1.powerSaveSet then x
  else
    ({ a.deleteRtrules ans (a.deleteRtrules ans x.1 .v4) .v6 with powerSaveSet := true },
      if x.1.ipv4Set then { x.2 with nat := (x.2.nat.updatePwrSaveIf x.1.v4Addr).2 } else x.2)

/-- `IPA_WLAN_CLIENT_RECOVER_EVENT`, for the client that is found. -/
def recover (added : IpType → Bool) : WlanClient × CtSys :=
  if x.1.powerSaveSet then
    let c := { x.1 with powerSaveSet := false }
    let y : WlanClient × CtSys :=
      if c.ipv4Set then
        (a.handleWlanClientRouteRule added c .v4,
          { x.2 with nat := (x.2.nat.resetPwrSaveIf c.v4Addr).2 })
      else (c, x.2)
    (if y.1.ipv6Set ≠ 0 then a.handleWlanClientRouteRule added y.1 .v6 else y.1, y.2)
  else x

/-- `handle_wlan_client_ipaddr` for an IPv4 address, for the client that is found.  It fails if
there is nothing new. -/
def handleWlanClientIpaddr (ans : DelAnswers) (addr : UInt32) : Option (WlanClient × CtSys) :=
  if addr = 0 then none
  else if x.1.ipv4Set = false then some ({ x.1 with v4Addr := addr, ipv4Set := true }, x.2)
  else if addr = x.1.v4Addr then none
  else
    some ({ a.deleteRtrules ans x.1 .v4 with routeRuleSetV4 := false, v4Addr := addr },
      x.2.handleNeighIpAddrDelEvt x.1.v4Addr)

/-- `IPA_NEIGH_CLIENT_IP_ADDR_ADD_EVENT` for an IPv4 address, for the client that is found. -/
def ipAddrAdd (env : CtEnv) (ifIndex : ℤ) (addr : UInt32) (ans : DelAnswers)
    (added : IpType → Bool) : WlanClient × CtSys :=
  match a.handleWlanClientIpaddr x ans addr with
  | none => x
  | some y =>
      (a.handleWlanClientRouteRule added y.1 .v4,
        y.2.handleNeighIpAddrAddEvt env ⟨ifIndex, .v4, addr⟩)

end WlanIface

/-- The connections of a client that goes are deleted. -/
def WlanClient.cleanNatRules (c : WlanClient) (ct : CtSys) : CtSys :=
  if c.ipv4Set then ct.handleNeighIpAddrDelEvt c.v4Addr else ct

/-! ## The interfaces -/

namespace SaveSys

variable (s : SaveSys) (n : ℕ) (mac : Mac)

/-- Change the record of the client with an address and the listener, if the client is found. -/
def onMac (f : WlanIface → WlanClient × CtSys → WlanClient × CtSys) : SaveSys :=
  match (s.wlan.iface n).getWlanClientIndex mac with
  | none => s
  | some i =>
      let y := f (s.wlan.iface n) ((s.wlan.iface n).wlanClient i, s.ct)
      { wlan := s.wlan.setClient n i y.1, ct := y.2 }

/-- `handle_wlan_client_down_evt`, in which the connections are deleted first. -/
def handleWlanClientDownEvt (ans : DelAnswers) : SaveSys where
  wlan := (s.wlan.handleWlanClientDownEvt n mac ans).2
  ct :=
    match (s.wlan.iface n).getWlanClientIndex mac with
    | none => s.ct
    | some i => ((s.wlan.iface n).wlanClient i).cleanNatRules s.ct

/-- The headers of a client of an interface that goes down. -/
def deleteHdrs (ans : DelAnswers) (c : WlanClient) (hdrs : HandleTable Hdr) : HandleTable Hdr :=
  (deleteHdr ans .v6 c (deleteHdr ans .v4 c hdrs).2.2).2.2

/-- `IPA_WLAN_LINK_DOWN_EVENT`, as far as it has to do with the clients.  The instance is deleted;
when the interface comes up again there is a new one. -/
def linkDown (ans : ℕ → DelAnswers) : SaveSys where
  wlan :=
    { s.wlan.setIface n ⟨(s.wlan.iface n).txProp, 0, 0, fun _ => {}⟩ with
      hdrs := forUpTo (s.wlan.iface n).numWifiClient
        (fun i => deleteHdrs (ans i) ((s.wlan.iface n).wlanClient i)) s.wlan.hdrs
      totalNumWifiClients := s.wlan.totalNumWifiClients - (s.wlan.iface n).numWifiClient }
  ct := forUpTo (s.wlan.iface n).numWifiClient
    (fun i => ((s.wlan.iface n).wlanClient i).cleanNatRules) s.ct

end SaveSys

/-! ## Runs -/

/-- An event of an interface, with what the driver and the rest of IPACM answer. -/
inductive SaveOp
  | clientAdd (n : ℕ) (data : WlanEx) (ans : AddAnswers)
  | clientDel (n : ℕ) (mac : Mac) (ans : DelAnswers)
  | powerSave (n : ℕ) (mac : Mac) (ans : DelAnswers)
  | recover (n : ℕ) (mac : Mac) (added : IpType → Bool)
  | ipAddrAdd (n : ℕ) (mac : Mac) (env : CtEnv) (ifIndex : ℤ) (addr : UInt32) (ans : DelAnswers)
      (added : IpType → Bool)
  | linkDown (n : ℕ) (ans : ℕ → DelAnswers)

/-- What an event does. -/
def SaveOp.call (s : SaveSys) : SaveOp → SaveSys
  | .clientAdd n data ans => { s with wlan := (s.wlan.handleWlanClientInitEx n data ans).2 }
  | .clientDel n mac ans => s.handleWlanClientDownEvt n mac ans
  | .powerSave n mac ans => s.onMac n mac fun a x => a.handleWlanClientPwrsave x ans
  | .recover n mac added => s.onMac n mac fun a x => a.recover x added
  | .ipAddrAdd n mac env ifIndex addr ans added =>
      s.onMac n mac fun a x => a.ipAddrAdd x env ifIndex addr ans added
  | .linkDown n ans => s.linkDown n ans

/-- The interface that an event is for. -/
def SaveOp.ifNum : SaveOp → ℕ
  | .clientAdd n _ _ | .clientDel n _ _ | .powerSave n _ _ | .recover n _ _
  | .ipAddrAdd n _ _ _ _ _ _ | .linkDown n _ => n

/-- The start: no client, no entry in the tables. -/
def SaveSys.Init (s : SaveSys) : Prop := s.wlan.Init ∧ s.ct.Init

end Ipacm.Wlan
