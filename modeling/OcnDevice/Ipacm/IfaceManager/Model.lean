import OcnDevice.Ipacm.EvtDispatcher

/-!
# Interface instances

`IPACM_IfaceManager` makes an `IPACM_Wlan` for an access point whose link comes up, and registers it
with the dispatcher and with its own list.  When the link goes down the instance stops being active,
sets the category of the interface back to unknown and posts `IPA_LAN_DELETE_SELF`, and when that
event is served it destroys itself.  The event is internal, so it is served before the next link
event.

At most two access points fit.  The constructor of a third instance destroys the object it is
constructing, and `create_iface_instance` registers that object all the same.

An object is identified by the number of the `new` that made it, and the manager is the object 0.
The dispatcher is the list of nodes of `EvtDispatcher`, walked over as it changes.  Allocations and
property queries succeed.
-/

namespace Ipacm

/-- `ipa_if_cat`. -/
inductive IpaIfCat
  | lanIf
  | wlanIf
  | wanIf
  | virtualIf
  | ethIf
  | embmsIf
  | oduIf
  | unknownIf
  deriving DecidableEq, Repr

/-- The members of `ipa_cm_event_id` that an access point or the manager registers for. -/
inductive IpaCmEventId
  | cfgChangeEvent
  | privateSubnetChangeEvent
  | linkUpEvent
  | usbLinkUpEvent
  | wanEmbmsLinkUpEvent
  | addrAddEvent
  | routeDelEvent
  | wlanApLinkUpEvent
  | wlanStaLinkUpEvent
  | wlanLinkDownEvent
  | wlanClientAddEvent
  | wlanClientAddEventEx
  | wlanClientDelEvent
  | wlanClientPowerSaveEvent
  | wlanClientRecoverEvent
  | neighClientIpAddrAddEvent
  | swRoutingEnable
  | swRoutingDisable
  | cradleWanModeSwitch
  | tetheringStatsUpdateEvent
  | downstreamAdd
  | downstreamDel
  | handleWanUpTether
  | handleWanDownTether
  | handleWanUpV6Tether
  | handleWanDownV6Tether
  | ssrNotice
  | wlanFwrSsrBeforeShutdownNotice
  | lanDeleteSelf
  deriving DecidableEq, Repr

open IpaCmEventId

/-- What the manager registers itself for. -/
def managerEvents : List IpaCmEventId :=
  [cfgChangeEvent, linkUpEvent, wlanApLinkUpEvent, wlanStaLinkUpEvent, usbLinkUpEvent,
    wanEmbmsLinkUpEvent]

/-- What `create_iface_instance` registers an `IPACM_Wlan` for, in this order. -/
def wlanEvents : List IpaCmEventId :=
  [addrAddEvent, routeDelEvent, wlanClientAddEvent, wlanClientAddEventEx, wlanClientDelEvent,
    wlanClientPowerSaveEvent, wlanClientRecoverEvent, neighClientIpAddrAddEvent, swRoutingEnable,
    swRoutingDisable, handleWanUpTether, handleWanUpV6Tether, handleWanDownTether,
    handleWanDownV6Tether, downstreamAdd, downstreamDel, ssrNotice, privateSubnetChangeEvent,
    cradleWanModeSwitch, wlanLinkDownEvent, tetheringStatsUpdateEvent,
    wlanFwrSsrBeforeShutdownNotice, lanDeleteSelf]

/-- The part of an `IPACM_Wlan` that its life depends on. -/
structure IpacmWlan where
  ipaIfNum : ℕ
  isActive : Bool
  deriving DecidableEq, Repr

/-- The link events of access points, with the interface index that the kernel uses. -/
inductive LinkEvt
  | up (ifIndex : ℕ)
  | down (ifIndex : ℕ)
  deriving DecidableEq, Repr

/-- The dispatcher, the manager's list, the objects and the two queues.  `destroyed` and `served` are
history, and `faults` counts the uses of memory that was freed. -/
structure IfaceSys where
  disp : EvtDispatcher
  instances : List (ℕ × ℕ)
  objs : ℕ → Option IpacmWlan
  fresh : ℕ
  destroyed : List ℕ
  numWlanApIface : ℤ
  ifCat : ℕ → IpaIfCat
  internal : List ℕ
  external : List LinkEvt
  served : List LinkEvt
  faults : ℕ

/-- The object that is the manager. -/
def managerObj : ℕ := 0

/-- Register an object for some events. -/
def EvtDispatcher.registrAll (d : EvtDispatcher) (events : List IpaCmEventId) (obj : ℕ) :
    EvtDispatcher :=
  events.foldl (fun d e => d.registr e.ctorIdx obj) d

namespace IfaceSys

/-- The state behind the constructor of the manager. -/
def init : IfaceSys where
  disp := ({} : EvtDispatcher).registrAll managerEvents managerObj
  instances := []
  objs := fun _ => none
  fresh := managerObj + 1
  destroyed := []
  numWlanApIface := 0
  ifCat := fun _ => .unknownIf
  internal := []
  external := []
  served := []
  faults := 0

/-- `delete`, with the destructor `~IPACM_Wlan`. -/
def delete (s : IfaceSys) (obj : ℕ) : IfaceSys :=
  { s with
    disp := s.disp.deregistr obj
    instances := s.instances.filter fun e => e.2 ≠ obj
    objs := Function.update s.objs obj none
    destroyed := s.destroyed ++ [obj] }

/-- `new IPACM_Wlan`.  The object has the number `s.fresh`. -/
def newWlan (s : IfaceSys) (ifaceIndex : ℕ) : IfaceSys :=
  let wlanApIndex := s.numWlanApIface
  let s' := { s with
    objs := Function.update s.objs s.fresh (some { ipaIfNum := ifaceIndex, isActive := true })
    fresh := s.fresh + 1 }
  if wlanApIndex < 0 ∨ wlanApIndex > 1 then s'.delete s.fresh
  else { s' with numWlanApIface := s.numWlanApIface + 1 }

/-- `SearchInstance`. -/
def searchInstance (s : IfaceSys) (ipaIfIndex : ℕ) : Bool :=
  s.instances.any fun e => e.1 = ipaIfIndex

/-- `create_iface_instance`, for an interface that is an access point. -/
def createIfaceInstance (s : IfaceSys) (ipaIfIndex : ℕ) : IfaceSys :=
  if s.searchInstance ipaIfIndex then s
  else
    match s.ifCat ipaIfIndex with
    | .wlanIf =>
        let wl := s.fresh
        let s' := s.newWlan ipaIfIndex
        { s' with
          disp := s'.disp.registrAll wlanEvents wl
          instances := s'.instances ++ [(ipaIfIndex, wl)] }
    | _ => s

section Query

/- `iface_ipa_index_query`: the interface of the configuration that has the kernel's index. -/
variable (query : ℕ → Option ℕ)

/-- `IPACM_IfaceManager::event_callback` for `IPA_WLAN_AP_LINK_UP_EVENT`. -/
def wlanApLinkUp (s : IfaceSys) (ifIndex : ℕ) : IfaceSys :=
  match query ifIndex with
  | none => s
  | some i =>
      if s.ifCat i = .unknownIf then
        createIfaceInstance { s with ifCat := Function.update s.ifCat i .wlanIf } i
      else s

/-- `IPACM_Wlan::event_callback` for `IPA_WLAN_LINK_DOWN_EVENT`, with the end of
`handle_down_evt`. -/
def wlanLinkDown (s : IfaceSys) (obj : ℕ) (w : IpacmWlan) (ifIndex : ℕ) : IfaceSys :=
  if query ifIndex = some w.ipaIfNum then
    { s with
      objs := Function.update s.objs obj (some { w with isActive := false })
      internal := s.internal ++ [w.ipaIfNum]
      ifCat := Function.update s.ifCat w.ipaIfNum .unknownIf }
  else s

/-- `IPACM_Wlan::event_callback` for `IPA_LAN_DELETE_SELF`. -/
def lanDeleteSelf (s : IfaceSys) (obj : ℕ) (w : IpacmWlan) (ifIndex : ℕ) : IfaceSys :=
  if ifIndex = w.ipaIfNum then
    { s with numWlanApIface := s.numWlanApIface - 1 }.delete obj
  else s

/-- `event_callback` of a listener. -/
def eventCallback (s : IfaceSys) (obj : ℕ) (event : IpaCmEventId) (ifIndex : ℕ) : IfaceSys :=
  if obj = managerObj then
    if event = wlanApLinkUpEvent then s.wlanApLinkUp query ifIndex else s
  else
    match s.objs obj with
    | none => { s with faults := s.faults + 1 }
    | some w =>
        if w.isActive = false ∧ event ≠ IpaCmEventId.lanDeleteSelf then s
        else if event = wlanLinkDownEvent then s.wlanLinkDown query obj w ifIndex
        else if event = IpaCmEventId.lanDeleteSelf then s.lanDeleteSelf obj w ifIndex
        else s

/-- The loop of `ProcessEvt`, for at most `fuel` passes. -/
def walk (event : IpaCmEventId) (ifIndex : ℕ) : ℕ → IfaceSys → Option ℕ → IfaceSys
  | 0, s, _ => s
  | _ + 1, s, none => s
  | fuel + 1, s, some tmp =>
      match s.disp.mem tmp with
      | none => { s with faults := s.faults + 1 }
      | some tmp1 =>
          if tmp1.event = event.ctorIdx then
            walk event ifIndex fuel (s.eventCallback query tmp1.obj event ifIndex) tmp1.next
          else walk event ifIndex fuel s tmp1.next

/-- `ProcessEvt`.  A callback adds no more nodes than one instance registers for. -/
def processEvt (s : IfaceSys) (event : IpaCmEventId) (ifIndex : ℕ) : IfaceSys :=
  walk query event ifIndex (s.disp.fresh + wlanEvents.length) s s.disp.head

/-- Take one message out of the queues and process it. -/
def serve (s : IfaceSys) : IfaceSys :=
  match s.internal, s.external with
  | i :: rest, _ => { s with internal := rest }.processEvt query IpaCmEventId.lanDeleteSelf i
  | [], LinkEvt.up i :: rest =>
      { s with external := rest, served := s.served ++ [LinkEvt.up i] }.processEvt query
        wlanApLinkUpEvent i
  | [], LinkEvt.down i :: rest =>
      { s with external := rest, served := s.served ++ [LinkEvt.down i] }.processEvt query
        wlanLinkDownEvent i
  | [], [] => s

end Query

end IfaceSys

/-! ## Runs -/

/-- Whether the event brings the interface `i` up or down. -/
def LinkEvt.says (query : ℕ → Option ℕ) (i : ℕ) : LinkEvt → Option Bool
  | .up ifIndex => if query ifIndex = some i then some true else none
  | .down ifIndex => if query ifIndex = some i then some false else none

/-- **The last link event** of the interface among those served was a link-up. -/
def isUp (query : ℕ → Option ℕ) (served : List LinkEvt) (i : ℕ) : Bool :=
  served.foldl (fun b e => ( e.says query i).getD b) false

/-- The driver's threads post link events, and one thread serves the queues. -/
inductive IfaceAct
  | post (e : LinkEvt)
  | serve
  deriving DecidableEq, Repr

namespace IfaceSys

/-- One step. -/
def run (query : ℕ → Option ℕ) (s : IfaceSys) : IfaceAct → IfaceSys
  | .post e => { s with external := s.external ++ [e] }
  | .serve => s.serve query

/-- The link-up that is served next, if any, makes a new instance. -/
def Creates (query : ℕ → Option ℕ) (s : IfaceSys) (i : ℕ) : Prop :=
  s.internal = [] ∧ s.ifCat i = .unknownIf ∧
    ∃ ifIndex rest, s.external = .up ifIndex :: rest ∧ query ifIndex = some i

/-- A step, if it is not a link-up that makes a third instance. -/
def Step (query : ℕ → Option ℕ) (s : IfaceSys) (a : IfaceAct) (t : IfaceSys) : Prop :=
  t = s.run query a ∧ (a = .serve → ∀ i, s.Creates query i → s.numWlanApIface < 2)

/-- **A sound life cycle.**  Each interface has at most one registered instance, and what is
registered exists; what was made and does not exist was destroyed, once, and nothing was used behind
that; a link-up behind a link-down makes a new active instance; and an instance whose link went down
is destroyed by the next event served. -/
structure LifeCycle (query : ℕ → Option ℕ) (s : IfaceSys) : Prop where
  single : (s.instances.map Prod.fst).Nodup
  manager : ∀ i obj, (i, obj) ∈ s.instances → ∃ w, s.objs obj = some w ∧ w.ipaIfNum = i
  listener : ∀ a ∈ s.disp.nodes, ∀ obj, s.disp.owner a = some obj →
    obj = managerObj ∨ (s.objs obj).isSome
  once : s.destroyed.Nodup
  destroyed : ∀ obj, obj ∈ s.destroyed ↔
    managerObj < obj ∧ obj < s.fresh ∧ s.objs obj = none
  faults : s.faults = 0
  count : s.numWlanApIface = Set.ncard {obj | (s.objs obj).isSome}
  linkUp : ∀ i ifIndex rest t, s.internal = [] → s.external = .up ifIndex :: rest →
    query ifIndex = some i → isUp query s.served i = false → s.Step query .serve t →
    s.objs s.fresh = none ∧ t.objs s.fresh = some ⟨i, true⟩ ∧ (i, s.fresh) ∈ t.instances
  linkDown : ∀ obj w t, s.objs obj = some w → w.isActive = false → s.Step query .serve t →
    obj ∈ t.destroyed

end IfaceSys

end Ipacm
