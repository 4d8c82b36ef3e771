import OcnDevice.Core.Loop
import OcnDevice.Core.Run

/-!
# The offload manager

The framework tells `IPACM_OffloadManager` which interfaces are downstreams and which one is the
upstream, and the manager posts events to the rest of IPACM.  A request for an interface that IPA
does not know yet for the address family in question is kept in `event_cache`, and
`search_framwork_cache` makes it again when IPA has come to know the interface.

The state below is the manager, what `CheckNatIfaces` would say, and the events that were posted.
Interface names fit into `dev_name`, and memory for the events is there.
-/

namespace Ipacm

/-- `MAX_EVENT_CACHE`. -/
def maxEventCache : ℕ := 10

/-- `INVALID_IFACE`. -/
def invalidIface : ℤ := -1

/-! ## Data -/

/-- An `IP_FAM`. -/
inductive IpFam
  | v4
  | v6
  | invalid
  deriving DecidableEq, Repr

/-- A `Prefix`. -/
structure Prefix where
  fam : IpFam
  v4Addr : UInt32 := 0
  v4Mask : UInt32 := 0
  v6Addr : UInt32 × UInt32 × UInt32 × UInt32 := (0, 0, 0, 0)
  v6Mask : UInt32 × UInt32 × UInt32 × UInt32 := (0, 0, 0, 0)
  deriving DecidableEq, Repr

/-- An `ipa_ip_type` of one family. -/
inductive IpType
  | v4
  | v6
  deriving DecidableEq, Repr

instance : Fintype IpType where
  elems := {.v4, .v6}
  complete t := by cases t <;> simp

/-- The family that a prefix is of, as `IP_FAM` has it. -/
def IpType.fam : IpType → IpFam
  | .v4 => .v4
  | .v6 => .v6

/-- The results that the functions below return. -/
inductive OffloadRet
  | failInputCheck
  | failHardware
  | success
  | successDuplicateConfig
  deriving DecidableEq, Repr

/-- What `ipa_get_if_index` finds out about interfaces.  The kernel gives positive indexes. -/
structure NetDevs where
  index : String → Option ℤ
  index_pos : ∀ name i, index name = some i → 0 < i

/-- An event that the manager posts: `IPA_DOWNSTREAM_ADD` or `IPA_DOWNSTREAM_DEL`, and
`IPA_WAN_UPSTREAM_ROUTE_ADD_EVENT` or `IPA_WAN_UPSTREAM_ROUTE_DEL_EVENT`. -/
inductive OffloadEvt
  | downstream (add : Bool) (ifIndex : ℤ) (pfx : Prefix)
  | route (add : Bool) (iptype : IpType) (ifIndex : ℤ) (gwAddr : Prefix)
  deriving DecidableEq, Repr

/-- A valid `framework_event_cache`. -/
inductive FrameworkEvent
  | downstreamAdd (devName : String) (prefixCache : Prefix)
  | upstreamRouteAdd (devName : String) (prefixCache prefixCacheV6 : Prefix)
  deriving DecidableEq, Repr

/-- The interface of a request. -/
def FrameworkEvent.devName : FrameworkEvent → String
  | .downstreamAdd devName _ => devName
  | .upstreamRouteAdd devName _ _ => devName

/-- The members of `IPACM_OffloadManager`; `upstreamUp` are `upstream_v4_up` and `upstream_v6_up`,
and a slot of the cache that is not valid is `none`. -/
structure OffloadManager where
  upstreamUp : IpType → Bool := fun _ => false
  defaultGwIndex : ℤ := invalidIface
  eventCache : ℕ → Option FrameworkEvent := fun _ => none
  latestCacheIndex : ℕ := 0
  validIfaces : List String := []

/-- The manager, for which families IPA knows which interfaces, and the events posted so far. -/
structure OffloadSys where
  mgr : OffloadManager := {}
  ready : String → IpType → Bool
  evts : List OffloadEvt := []

namespace OffloadSys

/-! ## The event cache -/

/-- Whether a prefix is of a family for which `CheckNatIfaces` does not know the interface. -/
def cacheNeed (s : OffloadSys) (name : String) (t : IpType) (pfx : Prefix) : Bool :=
  pfx.fam = t.fam ∧ s.ready name t = false

/-- The search for a free slot from `latest_cache_index` on, over at most `n` slots, and the copy
into it. -/
def cacheFrom (e : FrameworkEvent) : ℕ → OffloadManager → Bool × OffloadManager
  | 0, m => (false, m)
  | n + 1, m =>
      let next := (m.latestCacheIndex + 1) % maxEventCache
      match m.eventCache m.latestCacheIndex with
      | none =>
          (true, { m with
            eventCache := Function.update m.eventCache m.latestCacheIndex (some e)
            latestCacheIndex := next })
      | some _ => cacheFrom e n { m with latestCacheIndex := next }

/-- Keep a request in the cache. -/
def cacheEvent (s : OffloadSys) (e : FrameworkEvent) : OffloadRet × OffloadSys :=
  match cacheFrom e maxEventCache s.mgr with
  | (true, mgr) => (.success, { s with mgr })
  | (false, mgr) => (.failHardware, { s with mgr })

/-! ## Downstreams -/

/-- `IPACM_EvtDispatcher::PostEvt`. -/
def postEvt (s : OffloadSys) (evt : OffloadEvt) : OffloadSys := { s with evts := s.evts ++ [evt] }

/-- Put an interface into `valid_ifaces`, unless it is there. -/
def addValidIface (s : OffloadSys) (name : String) : OffloadSys :=
  if name ∈ s.mgr.validIfaces then s
  else { s with mgr := { s.mgr with validIfaces := s.mgr.validIfaces ++ [name] } }

/-- `addDownstream`. -/
def addDownstream (devs : NetDevs) (s : OffloadSys) (name : String) (pfx : Prefix) :
    OffloadRet × OffloadSys :=
  match devs.index name with
  | none => (.failInputCheck, s)
  | some index =>
      let s := s.addValidIface name
      if s.cacheNeed name .v4 pfx ∨ s.cacheNeed name .v6 pfx then
        s.cacheEvent (.downstreamAdd name pfx)
      else (.success, s.postEvt (.downstream true index pfx))

/-- `removeDownstream`. -/
def removeDownstream (devs : NetDevs) (s : OffloadSys) (name : String) (pfx : Prefix) :
    OffloadRet × OffloadSys :=
  if name = "" then (.failHardware, s)
  else if name ∉ s.mgr.validIfaces then (.failHardware, s)
  else
    match devs.index name with
    | none => (.success, s)
    | some index => (.success, s.postEvt (.downstream false index pfx))

/-! ## The upstream -/

/-- Set `upstream_v4_up` or `upstream_v6_up`. -/
def setUp (s : OffloadSys) (t : IpType) (up : Bool) : OffloadSys :=
  { s with mgr := { s.mgr with upstreamUp := Function.update s.mgr.upstreamUp t up } }

/-- Set `default_gw_index`. -/
def setGw (s : OffloadSys) (index : ℤ) : OffloadSys :=
  { s with mgr := { s.mgr with defaultGwIndex := index } }

/-- Clean the upstream of a family, if it is up. -/
def delRoute (s : OffloadSys) (t : IpType) (gwAddr : Prefix) : OffloadSys :=
  if s.mgr.upstreamUp t then
    (s.postEvt (.route false t s.mgr.defaultGwIndex gwAddr)).setUp t false
  else s

/-- Set the upstream of a family up, unless it is up.  An IPv6 gateway that is zero is ignored. -/
def addRoute (s : OffloadSys) (t : IpType) (index : ℤ) (gwAddr : Prefix) : OffloadSys :=
  if s.mgr.upstreamUp t then s
  else if t = .v6 ∧ gwAddr.v6Addr = (0, 0, 0, 0) then s
  else (s.postEvt (.route true t index gwAddr)).setUp t true

/-- The part of `setUpstream` for a change of the interface. -/
def switchUpstream (s : OffloadSys) (index : ℤ) (gwAddrV4 gwAddrV6 : Prefix) : OffloadSys :=
  if index ≠ s.mgr.defaultGwIndex then
    ((s.delRoute .v4 gwAddrV4).delRoute .v6 gwAddrV6).setGw invalidIface
  else s

/-- The part of `setUpstream` for one family: the other one is cleaned. -/
def addOneRoute (s : OffloadSys) (t other : IpType) (index : ℤ) (gwAddr gwAddrOther : Prefix) :
    OffloadRet × OffloadSys :=
  let s := if s.mgr.upstreamUp other ∧ s.mgr.defaultGwIndex ≠ invalidIface then
    s.delRoute other gwAddrOther else s
  (if s.mgr.upstreamUp t then .successDuplicateConfig else .success, s.addRoute t index gwAddr)

/-- The branches of `setUpstream` on the families that the call mentions. -/
def addRoutes (s : OffloadSys) (index : ℤ) (gwAddrV4 gwAddrV6 : Prefix) :
    OffloadRet × OffloadSys :=
  if gwAddrV4.fam = .v4 ∧ gwAddrV6.fam = .v6 then
    (.success, (s.addRoute .v4 index gwAddrV4).addRoute .v6 index gwAddrV6)
  else if gwAddrV4.fam = .v4 then s.addOneRoute .v4 .v6 index gwAddrV4 gwAddrV6
  else if gwAddrV6.fam = .v6 then s.addOneRoute .v6 .v4 index gwAddrV6 gwAddrV4
  else (.success, s)

/-- `setUpstream` for an interface that need not wait. -/
def setUpstreamReady (s : OffloadSys) (index : ℤ) (gwAddrV4 gwAddrV6 : Prefix) :
    OffloadRet × OffloadSys :=
  let r := (s.switchUpstream index gwAddrV4 gwAddrV6).addRoutes index gwAddrV4 gwAddrV6
  (r.1, r.2.setGw index)

/-- Is this a cached request for an upstream? -/
def isUpstream : Option FrameworkEvent → Bool
  | some (.upstreamRouteAdd _ _ _) => true
  | _ => false

/-- `setUpstream` without an interface while no upstream is set: the cached upstreams are
forgotten. -/
def forgetUpstreams (s : OffloadSys) : OffloadRet × OffloadSys :=
  (if (List.range maxEventCache).any fun i => isUpstream (s.mgr.eventCache i) then .success
    else .failInputCheck,
   { s with mgr := { s.mgr with
      eventCache := fun i =>
        if i < maxEventCache ∧ isUpstream (s.mgr.eventCache i) then none
        else s.mgr.eventCache i } })

/-- `setUpstream` without an interface. -/
def clearUpstream (s : OffloadSys) (gwAddrV4 gwAddrV6 : Prefix) : OffloadRet × OffloadSys :=
  if s.mgr.defaultGwIndex = invalidIface then s.forgetUpstreams
  else
    let s := if gwAddrV4.fam = .v4 then s.delRoute .v4 gwAddrV4 else s
    let s := if gwAddrV6.fam = .v6 then s.delRoute .v6 gwAddrV6 else s
    (.success, s.setGw invalidIface)

/-- `setUpstream`. -/
def setUpstream (devs : NetDevs) (s : OffloadSys) (upstreamName : Option String)
    (gwAddrV4 gwAddrV6 : Prefix) : OffloadRet × OffloadSys :=
  match upstreamName with
  | none => s.clearUpstream gwAddrV4 gwAddrV6
  | some name =>
      match devs.index name with
      | none => (.failInputCheck, s)
      | some index =>
          if s.cacheNeed name .v4 gwAddrV4 ∨ s.cacheNeed name .v6 gwAddrV6 then
            s.cacheEvent (.upstreamRouteAdd name gwAddrV4 gwAddrV6)
          else s.setUpstreamReady index gwAddrV4 gwAddrV6

/-- `stopAllOffload`. -/
def stopAllOffload (s : OffloadSys) : OffloadRet × OffloadSys :=
  let r := s.clearUpstream { fam := .v4 } { fam := .v6 }
  (r.1, { r.2 with mgr := {} })

/-! ## Interfaces that become ready -/

/-- Make a cached request again. -/
def replay (devs : NetDevs) (s : OffloadSys) : FrameworkEvent → OffloadSys
  | .downstreamAdd devName pfx => (s.addDownstream devs devName pfx).2
  | .upstreamRouteAdd devName v4 v6 => (s.setUpstream devs (some devName) v4 v6).2

/-- Make a slot of the cache invalid. -/
def clearSlot (s : OffloadSys) (i : ℕ) : OffloadSys :=
  { s with mgr := { s.mgr with eventCache := Function.update s.mgr.eventCache i none } }

/-- One pass of the loop of `search_framwork_cache`. -/
def searchSlot (devs : NetDevs) (name : String) (i : ℕ) (s : OffloadSys) : OffloadSys :=
  match s.mgr.eventCache i with
  | none => s
  | some e => if e.devName = name then (s.replay devs e).clearSlot i else s

/-- `search_framwork_cache`. -/
def searchFramworkCache (devs : NetDevs) (s : OffloadSys) (name : String) : OffloadSys :=
  forUpTo maxEventCache (searchSlot devs name) s

/-- IPA has come to know an interface for a family. -/
def setReady (s : OffloadSys) (name : String) (t : IpType) : OffloadSys :=
  { s with ready := fun name' t' => if name' = name ∧ t' = t then true else s.ready name' t' }

end OffloadSys

/-! ## Runs -/

/-- A call of the framework, or an interface that becomes ready for a family. -/
inductive OffloadOp
  | addDownstream (name : String) (pfx : Prefix)
  | removeDownstream (name : String) (pfx : Prefix)
  | setUpstream (upstreamName : Option String) (gwAddrV4 gwAddrV6 : Prefix)
  | stopAllOffload
  | becomeReady (name : String) (t : IpType)
  deriving DecidableEq, Repr

/-- The state behind a call. -/
def OffloadOp.call (devs : NetDevs) (s : OffloadSys) : OffloadOp → OffloadSys
  | .addDownstream name pfx => (s.addDownstream devs name pfx).2
  | .removeDownstream name pfx => (s.removeDownstream devs name pfx).2
  | .setUpstream upstreamName v4 v6 => (s.setUpstream devs upstreamName v4 v6).2
  | .stopAllOffload => s.stopAllOffload.2
  | .becomeReady name t => (s.setReady name t).searchFramworkCache devs name

/-- The state behind calls made one after another. -/
def OffloadSys.callAll (devs : NetDevs) (s : OffloadSys) (ops : List OffloadOp) : OffloadSys :=
  ops.foldl (OffloadOp.call devs) s

end Ipacm
