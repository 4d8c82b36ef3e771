import Mathlib
import OcnDevice.Core.Run

/-!
# The AGPS state machines and their manager

`AgpsManager` owns up to three state machines: one for SUPL (`mAgnssNif`), one for any other
connection (`mInternetNif`) and, where an emergency PDN is configured, one that sets up its data
call through the DS client (`mDsNif`).  The modem asks for a connection with `requestATL` and
gives it back with `releaseATL`; the framework and the DS client report what became of it.

**Virtual functions.**  A machine carries its class as the index `k`, so that
`requestOrReleaseDataConn`, `notifyEventToSubscriber` and `processAgpsEvent` dispatch on it the
way the overridden functions of `DSStateMachine` do.

**What the code calls.**  Each function returns the machine afterwards and the callbacks it made
in their order (`Out`).  What those callbacks return is the `Reply` of the step: the result of
the DS client's start function, of `loc_timer_start` and of the DS client's initialisation.

**What comes back later.**  A `AgpsMsgRequestATL` that a machine posts to the adapter's queue
waits in `queue` until the message thread takes it, and a retry timer that was started counts in
`timers` until it fires; between the two any other input may be processed.
-/

namespace Gps.Agps

/-! ## Values -/

/-- `AgpsState`, without the invalid value that no machine is ever in. -/
inductive AgpsState
  | released | pending | acquired | releasing
  deriving DecidableEq, Repr

/-- `AGpsExtType`: the types that have a name, and any other value of the byte. -/
inductive AGpsExtType
  | invalid | any | supl | c2k | wwanAny | wifi | suplEs
  | other (n : ℤ)
  deriving DecidableEq, Repr

/-- `AgpsSubscriber`. -/
structure AgpsSubscriber where
  connHandle : ℤ
  waitForCloseComplete : Bool
  isInactive : Bool
  deriving DecidableEq, Repr

/-- `AgpsEvent`; the first two carry `mCurrentSubscriber`. -/
inductive AgpsEvent
  | subscribe (s : AgpsSubscriber)
  | unsubscribe (s : AgpsSubscriber)
  | granted | released | denied
  deriving DecidableEq, Repr

/-- Whether the event is a subscription. -/
def AgpsEvent.isSubscribe : AgpsEvent → Bool
  | .subscribe _ => true
  | _ => false

/-- `AgpsNotificationType`. -/
inductive AgpsNotificationType
  | forAllSubscribers | forInactiveSubscribers | forActiveSubscribers
  deriving DecidableEq, Repr

/-- Whether a notification of this type is meant for the subscriber. -/
def AgpsNotificationType.covers : AgpsNotificationType → AgpsSubscriber → Bool
  | .forAllSubscribers, _ => true
  | .forInactiveSubscribers, s => s.isInactive
  | .forActiveSubscribers, s => !s.isInactive

/-- The callbacks: the status sent to the framework, the two statuses sent to the modem, the
functions of the DS client (the start function with what it returned), a request posted to the
adapter's queue, and a retry timer that was started. -/
inductive Out
  | frameworkStatus (type : AGpsExtType) (request : Bool)
  | atlOpenStatus (handle : ℤ) (isSuccess : Bool) (apn : Option (List UInt8)) (bearer : ℤ)
      (type : AGpsExtType)
  | atlCloseStatus (handle : ℤ) (isSuccess : Bool)
  | dsInit (isDueToSSR : Bool)
  | dsStart (ret : ℤ)
  | dsStop | dsClose | dsRelease
  | sendMsg (handle : ℤ) (type : AGpsExtType)
  | timerStart
  deriving DecidableEq, Repr

/-- What the configuration file and `registerCallbacks` fixed: the capabilities, the use of an
emergency PDN, and which of the DS client functions that the code tests are registered. -/
structure Conf where
  agpsCapable : Bool
  usePdn : Bool
  initFn : Bool
  startFn : Bool
  stopFn : Bool
  deriving DecidableEq, Repr

/-- What the callbacks of one step return. -/
structure Reply where
  startRet : ℤ
  timerFails : Bool
  initRet : ℤ
  deriving DecidableEq, Repr

/-- `LOC_API_ADAPTER_ERR_UNSUPPORTED`. -/
def errUnsupported : ℤ := 2

/-- `LOC_API_ADAPTER_ERR_ENGINE_BUSY`. -/
def errEngineBusy : ℤ := 6

/-- `AGPS_APN_BEARER_INVALID`. -/
def bearerInvalid : ℤ := 0

/-- `MAX_START_DATA_CALL_RETRIES`. -/
def maxStartDataCallRetries : ℕ := 4

/-! ## One state machine -/

/-- The class of a machine: `AgpsStateMachine` itself, or `DSStateMachine`. -/
inductive Kind
  | base | ds
  deriving DecidableEq, Repr

/-- A state machine; only a `DSStateMachine` uses `retries`. -/
structure AgpsStateMachine (k : Kind) where
  agpsType : AGpsExtType
  subscribers : List AgpsSubscriber
  state : AgpsState
  apn : Option (List UInt8)
  bearer : ℤ
  retries : ℕ
  deriving DecidableEq, Repr

namespace AgpsStateMachine

variable {k : Kind}

/-- The constructor. -/
def new (k : Kind) (agpsType : AGpsExtType) : AgpsStateMachine k :=
  ⟨agpsType, [], .released, none, bearerInvalid, 0⟩

/-- `getSubscriber`: the first subscriber with the handle. -/
def getSubscriber (m : AgpsStateMachine k) (h : ℤ) : Option AgpsSubscriber :=
  m.subscribers.find? (·.connHandle == h)

/-- `getFirstSubscriber`. -/
def getFirstSubscriber (m : AgpsStateMachine k) (isInactive : Bool) : Option AgpsSubscriber :=
  m.subscribers.find? (·.isInactive == isInactive)

/-- `addSubscriber`: does nothing when the handle is in the list already. -/
def addSubscriber (m : AgpsStateMachine k) (s : AgpsSubscriber) : AgpsStateMachine k :=
  if m.subscribers.any (·.connHandle == s.connHandle) then m
  else { m with subscribers := m.subscribers ++ [s] }

/-- `deleteSubscriber`: every subscriber with the handle goes. -/
def deleteSubscriber (m : AgpsStateMachine k) (s : AgpsSubscriber) : AgpsStateMachine k :=
  { m with subscribers := m.subscribers.filter (·.connHandle != s.connHandle) }

/-- The list after `mIsInactive` was set in the first subscriber with the handle, which is where
`releaseATL` found `mCurrentSubscriber`. -/
def setInactive (h : ℤ) : List AgpsSubscriber → List AgpsSubscriber
  | [] => []
  | s :: rest =>
      if s.connHandle = h then { s with isInactive := true } :: rest else s :: setInactive h rest

/-- `anyActiveSubscribers`. -/
def anyActiveSubscribers (m : AgpsStateMachine k) : Bool :=
  m.subscribers.any (!·.isInactive)

/-- `transitionState`. -/
def transitionState (m : AgpsStateMachine k) (newState : AgpsState) : AgpsStateMachine k :=
  { m with state := newState }

/-- `setAPN`: the first `len` bytes of the name. -/
def setAPN (m : AgpsStateMachine k) (apn : Option (List UInt8)) (len : ℕ) : AgpsStateMachine k :=
  { m with apn := apn.map (List.take len) }

/-- `setBearer`. -/
def setBearer (m : AgpsStateMachine k) (bearer : ℤ) : AgpsStateMachine k :=
  { m with bearer := bearer }

/-- `dropAllSubscribers`. -/
def dropAllSubscribers (m : AgpsStateMachine k) : AgpsStateMachine k :=
  { m with subscribers := [] }

/-- What the two versions of `notifyEventToSubscriber` call for the event. -/
def notice (m : AgpsStateMachine k) (event : AgpsEvent) (h : ℤ) : List Out :=
  match k, event with
  | .base, .granted => [.atlOpenStatus h true m.apn m.bearer m.agpsType]
  | .base, .denied => [.atlOpenStatus h false m.apn m.bearer m.agpsType]
  | .base, .unsubscribe _ => [.atlCloseStatus h true]
  | .base, .released => [.atlCloseStatus h true]
  | .ds, .granted => [.atlOpenStatus h true none bearerInvalid .suplEs]
  | .ds, .denied => [.sendMsg h .supl]
  | .ds, .unsubscribe _ => [.atlCloseStatus h true]
  | .ds, .released => [.dsClose, .atlCloseStatus h true]
  | _, .subscribe _ => []

/-- The machine after a notification: the DS machine starts counting its retries anew when it
passes a subscriber on to regular SUPL. -/
def noticed (m : AgpsStateMachine k) (event : AgpsEvent) : AgpsStateMachine k :=
  match k, event with
  | .ds, .denied => { m with retries := 0 }
  | _, _ => m

/-- `notifyEventToSubscriber`. -/
def notifyEventToSubscriber (m : AgpsStateMachine k) (event : AgpsEvent) (s : AgpsSubscriber)
    (deleteSubscriberPostNotify : Bool) : AgpsStateMachine k × List Out :=
  (if deleteSubscriberPostNotify then (m.noticed event).deleteSubscriber s else m.noticed event,
    m.notice event s.connHandle)

/-- `notifyAllSubscribers`: the loop notifies the subscribers the type covers in their order and
erases each of them when asked to. -/
def notifyAllSubscribers (m : AgpsStateMachine k) (event : AgpsEvent)
    (deleteSubscriberPostNotify : Bool) (type : AgpsNotificationType) :
    AgpsStateMachine k × List Out :=
  ({ (if m.subscribers.any type.covers then m.noticed event else m) with
      subscribers := if deleteSubscriberPostNotify then m.subscribers.filter (!type.covers ·)
        else m.subscribers },
    (m.subscribers.filter type.covers).flatMap (m.notice event ·.connHandle))

/-- The part of the DS machine's `requestOrReleaseDataConn` from the call of the start function
on, for the first active subscriber `s`. -/
def startDataCall (r : Reply) (m : AgpsStateMachine .ds) (s : AgpsSubscriber) :
    AgpsStateMachine .ds × ℤ × List Out :=
  if r.startRet = errEngineBusy then
    let m₁ : AgpsStateMachine .ds := { m with retries := m.retries + 1 }
    if maxStartDataCallRetries < m₁.retries then
      (m₁.noticed .denied, r.startRet, .dsStart r.startRet :: m₁.notice .denied s.connHandle)
    else if r.timerFails then (m₁, -1, [.dsStart r.startRet])
    else (m₁, r.startRet, [.dsStart r.startRet, .timerStart])
  else if r.startRet = errUnsupported then
    (m.noticed .denied, r.startRet, .dsStart r.startRet :: m.notice .denied s.connHandle)
  else (m, r.startRet, [.dsStart r.startRet])

/-- `requestOrReleaseDataConn`.  The DS machine calls the stop function where one is registered
and goes on to the set-up of a call where none is. -/
def requestOrReleaseDataConn (c : Conf) (r : Reply) (m : AgpsStateMachine k) (request : Bool) :
    AgpsStateMachine k × ℤ × List Out :=
  match k, m with
  | .base, m => (m, 0, [.frameworkStatus m.agpsType request])
  | .ds, m =>
      if !request && c.stopFn then (m, 0, [.dsStop])
      else
        match m.getFirstSubscriber false with
        | none => (m, -1, [])
        | some s =>
            if c.startFn then m.startDataCall r s
            else (m.noticed .denied, -1, m.notice .denied s.connHandle)

/-- `processAgpsEventSubscribe`. -/
def processAgpsEventSubscribe (c : Conf) (r : Reply) (m : AgpsStateMachine k)
    (s : AgpsSubscriber) : AgpsStateMachine k × List Out :=
  match m.state with
  | .released =>
      let (m₁, ret, outs) := (m.addSubscriber s).requestOrReleaseDataConn c r true
      (if ret = 0 then m₁.transitionState .pending else m₁, outs)
  | .pending => (m.addSubscriber s, [])
  | .acquired =>
      let (m₁, outs) := m.notifyEventToSubscriber .granted s false
      (m₁.addSubscriber s, outs)
  | .releasing => (m.addSubscriber s, [])

/-- The first part of `processAgpsEventUnsubscribe` outside the RELEASED state: a subscriber that
waits for the close becomes inactive, any other is notified and deleted. -/
def retire (m : AgpsStateMachine k) (s : AgpsSubscriber) : AgpsStateMachine k × List Out :=
  if s.waitForCloseComplete then
    ({ m with subscribers := setInactive s.connHandle m.subscribers }, [])
  else m.notifyEventToSubscriber (.unsubscribe s) s true

/-- `processAgpsEventUnsubscribe`. -/
def processAgpsEventUnsubscribe (c : Conf) (r : Reply) (m : AgpsStateMachine k)
    (s : AgpsSubscriber) : AgpsStateMachine k × List Out :=
  match m.state with
  | .released => m.notifyEventToSubscriber (.unsubscribe s) s false
  | .pending | .acquired =>
      let (m₁, outs) := m.retire s
      if m₁.subscribers.isEmpty then
        let (m₂, _, outs') := (m₁.transitionState .released).requestOrReleaseDataConn c r false
        (m₂, outs ++ outs')
      else if !m₁.anyActiveSubscribers then
        let (m₂, _, outs') := (m₁.transitionState .releasing).requestOrReleaseDataConn c r false
        (m₂, outs ++ outs')
      else (m₁, outs)
  | .releasing =>
      let (m₁, outs) := m.retire s
      (if m₁.subscribers.isEmpty then m₁.transitionState .released else m₁, outs)

/-- `processAgpsEventGranted`. -/
def processAgpsEventGranted (m : AgpsStateMachine k) : AgpsStateMachine k × List Out :=
  match m.state with
  | .pending =>
      (m.transitionState .acquired).notifyAllSubscribers .granted false .forActiveSubscribers
  | _ => (m, [])

/-- What RELEASED and DENIED do alike in the RELEASING state: the subscribers that waited for the
close go, and those that came meanwhile get a connection of their own. -/
def finishRelease (c : Conf) (r : Reply) (m : AgpsStateMachine k) :
    AgpsStateMachine k × List Out :=
  let (m₁, outs) := m.notifyAllSubscribers .released true .forInactiveSubscribers
  if m₁.anyActiveSubscribers then
    let (m₂, _, outs') := (m₁.transitionState .pending).requestOrReleaseDataConn c r true
    (m₂, outs ++ outs')
  else (m₁.transitionState .released, outs)

/-- `processAgpsEventReleased`. -/
def processAgpsEventReleased (c : Conf) (r : Reply) (m : AgpsStateMachine k) :
    AgpsStateMachine k × List Out :=
  match m.state with
  | .released => (m, [])
  | .acquired => (m.transitionState .released).notifyAllSubscribers .released true .forAllSubscribers
  | .releasing => m.finishRelease c r
  | .pending => (m, [])

/-- `processAgpsEventDenied`. -/
def processAgpsEventDenied (c : Conf) (r : Reply) (m : AgpsStateMachine k) :
    AgpsStateMachine k × List Out :=
  match m.state with
  | .released => (m, [])
  | .acquired => (m, [])
  | .releasing => m.finishRelease c r
  | .pending => (m.transitionState .released).notifyAllSubscribers .denied true .forAllSubscribers

/-- The event as the machine takes it: the DS machine reads a RELEASED event in the PENDING state
as DENIED. -/
def translate (m : AgpsStateMachine k) (event : AgpsEvent) : AgpsEvent :=
  if k = .ds ∧ event = .released ∧ m.state = .pending then .denied else event

/-- `processAgpsEvent`. -/
def processAgpsEvent (c : Conf) (r : Reply) (m : AgpsStateMachine k) (event : AgpsEvent) :
    AgpsStateMachine k × List Out :=
  match m.translate event with
  | .subscribe s => m.processAgpsEventSubscribe c r s
  | .unsubscribe s => m.processAgpsEventUnsubscribe c r s
  | .granted => m.processAgpsEventGranted
  | .released => m.processAgpsEventReleased c r
  | .denied => m.processAgpsEventDenied c r

/-- `retryCallback`: asks once more for the first active subscriber. -/
def retryCallback (m : AgpsStateMachine .ds) : List Out :=
  match m.getFirstSubscriber false with
  | none => []
  | some s => [.sendMsg s.connHandle .suplEs]

end AgpsStateMachine

/-! ## The manager -/

/-- The three places for a machine. -/
inductive Nif
  | agnss | internet | ds
  deriving DecidableEq, Repr

/-- The class of the machine in a place. -/
def Nif.kind : Nif → Kind
  | .agnss => .base
  | .internet => .base
  | .ds => .ds

/-- The type its machine is created with. -/
def Nif.agpsType : Nif → AGpsExtType
  | .agnss => .supl
  | .internet => .wwanAny
  | .ds => .suplEs

/-- `AgpsManager`, with the posted requests that wait in the adapter's queue and the number of
retry timers that run. -/
structure AgpsManager where
  nif : (n : Nif) → Option (AgpsStateMachine n.kind)
  queue : List (ℤ × AGpsExtType)
  timers : ℕ

namespace AgpsManager

/-- The constructor. -/
def init : AgpsManager := ⟨fun _ => none, [], 0⟩

/-- A machine put in its place. -/
def set (s : AgpsManager) (n : Nif) (m : AgpsStateMachine n.kind) : AgpsManager :=
  { s with nif := Function.update s.nif n (some m) }

/-- `new` for a place that is still empty. -/
def ensure (s : AgpsManager) (n : Nif) : AgpsManager :=
  if (s.nif n).isNone then s.set n (.new n.kind n.agpsType) else s

/-- `createAgpsStateMachines`. -/
def createAgpsStateMachines (c : Conf) (r : Reply) (s : AgpsManager) : AgpsManager × List Out :=
  let s₁ := s.ensure .internet
  if c.agpsCapable then
    let s₂ := s₁.ensure .agnss
    if (s₂.nif .ds).isNone && c.usePdn then
      if !c.initFn then (s₂, [])
      else if r.initRet ≠ 0 then (s₂, [.dsInit false])
      else (s₂.ensure .ds, [.dsInit false])
    else (s₂, [])
  else (s₁, [])

/-- The place whose machine serves a type. -/
def place (c : Conf) : AGpsExtType → Nif
  | .invalid | .supl => .agnss
  | .suplEs => if c.usePdn then .ds else .agnss
  | _ => .internet

/-- `getAgpsStateMachine`: creates the machines when the one of the DS client is missing. -/
def getAgpsStateMachine (c : Conf) (r : Reply) (s : AgpsManager) (agpsType : AGpsExtType) :
    AgpsManager × List Out :=
  if agpsType = .suplEs ∧ c.usePdn ∧ (s.nif .ds).isNone then s.createAgpsStateMachines c r
  else (s, [])

/-- The event processed by the machine in the place, if there is one. -/
def deliver (c : Conf) (r : Reply) (s : AgpsManager) (n : Nif) (event : AgpsEvent) :
    Option (AgpsManager × List Out) :=
  (s.nif n).map fun m => (s.set n (m.processAgpsEvent c r event).1,
    (m.processAgpsEvent c r event).2)

/-- `requestATL`. -/
def requestATL (c : Conf) (r : Reply) (s : AgpsManager) (h : ℤ) (agpsType : AGpsExtType) :
    AgpsManager × List Out :=
  let (s₁, outs) := s.getAgpsStateMachine c r agpsType
  match s₁.deliver c r (place c agpsType) (.subscribe ⟨h, agpsType = .suplEs, false⟩) with
  | none => (s₁, outs ++ [.atlOpenStatus h false none bearerInvalid agpsType])
  | some (s₂, outs') => (s₂, outs ++ outs')

/-- The subscriber with the handle in the place. -/
def subscriberIn (s : AgpsManager) (h : ℤ) (n : Nif) : Option AgpsSubscriber :=
  (s.nif n).bind (·.getSubscriber h)

/-- The search of `releaseATL` through the three machines. -/
def search (s : AgpsManager) (h : ℤ) : Option (Nif × AgpsSubscriber) :=
  [Nif.agnss, .internet, .ds].findSome? fun n => (s.subscriberIn h n).map (n, ·)

/-- `releaseATL`. -/
def releaseATL (c : Conf) (r : Reply) (s : AgpsManager) (h : ℤ) : AgpsManager × List Out :=
  match s.search h with
  | none => (s, [.atlCloseStatus h false])
  | some (n, sub) => (s.deliver c r n (.unsubscribe sub)).getD (s, [])

/-- What the adapter sets in the machine of a place before it reports an event. -/
def prepare (s : AgpsManager) (n : Nif) (f : AgpsStateMachine n.kind → AgpsStateMachine n.kind) :
    AgpsManager :=
  { s with nif := Function.update s.nif n ((s.nif n).map f) }

/-- An event reported for a type; `f` is what the caller sets in the machine before.  The machine
is not tested for NULL here, so without it there is no next state. -/
def report (c : Conf) (r : Reply) (s : AgpsManager) (agpsType : AGpsExtType)
    (f : {k : Kind} → AgpsStateMachine k → AgpsStateMachine k) (event : AgpsEvent) :
    Option (AgpsManager × List Out) :=
  let (s₁, outs) := s.getAgpsStateMachine c r agpsType
  ((s₁.prepare (place c agpsType) f).deliver c r (place c agpsType) event).map fun p =>
    (p.1, outs ++ p.2)

/-- `handleModemSSR`.  The DS client functions are called without a test here; one that is not
registered throws. -/
def handleModemSSR (c : Conf) (s : AgpsManager) : Option (AgpsManager × List Out) :=
  let s₁ : AgpsManager := { s with nif := fun n => (s.nif n).map (·.dropAllSubscribers) }
  if c.usePdn then
    if c.stopFn ∧ c.initFn then some (s₁, [.dsStop, .dsClose, .dsRelease, .dsInit true]) else none
  else some (s₁, [])

/-- `delay_callback`, which the retry timer calls with the DS machine that started it. -/
def delayCallback (s : AgpsManager) : List Out :=
  match s.nif .ds with
  | none => []
  | some m => AgpsStateMachine.retryCallback m

end AgpsManager

/-- What the manager reacts to: the calls of the adapter, the next posted request, and a retry
timer that fires. -/
inductive Input
  | createAgpsStateMachines
  | requestATL (handle : ℤ) (type : AGpsExtType)
  | releaseATL (handle : ℤ)
  | reportDataCallOpened
  | reportDataCallClosed
  | reportAtlOpenSuccess (type : AGpsExtType) (apn : Option (List UInt8)) (len : ℕ) (bearer : ℤ)
  | reportAtlOpenFailed (type : AGpsExtType)
  | reportAtlClosed (type : AGpsExtType)
  | handleModemSSR
  | postedRequest
  | retryTimer
  deriving DecidableEq, Repr

namespace AgpsManager

/-- One input processed: the manager afterwards and the callbacks made, or nothing when the
input cannot occur or the code fails on it. -/
def process (c : Conf) (r : Reply) (s : AgpsManager) : Input → Option (AgpsManager × List Out)
  | .createAgpsStateMachines => some (s.createAgpsStateMachines c r)
  | .requestATL h type => some (s.requestATL c r h type)
  | .releaseATL h => some (s.releaseATL c r h)
  | .reportDataCallOpened => some ((s.deliver c r .ds .granted).getD (s, []))
  | .reportDataCallClosed => some ((s.deliver c r .ds .released).getD (s, []))
  | .reportAtlOpenSuccess type apn len bearer =>
      s.report c r type (fun m => (m.setBearer bearer).setAPN apn len) .granted
  | .reportAtlOpenFailed type => s.report c r type id .denied
  | .reportAtlClosed type => s.report c r type id .released
  | .handleModemSSR => s.handleModemSSR c
  | .postedRequest =>
      match s.queue with
      | [] => none
      | (h, type) :: rest => some ({ s with queue := rest }.requestATL c r h type)
  | .retryTimer =>
      if 0 < s.timers then
        some ({ s with timers := s.timers - 1 }, s.delayCallback)
      else none

/-- The requests among the callbacks, which join the queue. -/
def posted (outs : List Out) : List (ℤ × AGpsExtType) :=
  outs.filterMap fun
    | .sendMsg h type => some (h, type)
    | _ => none

/-- The posted requests join the queue and the started timers run. -/
def absorb (s : AgpsManager) (outs : List Out) : AgpsManager :=
  { s with
    queue := s.queue ++ posted outs
    timers := s.timers + outs.count .timerStart }

end AgpsManager

/-- One step of a run: the input, what the callbacks returned, and the callbacks made. -/
structure Action where
  input : Input
  reply : Reply
  outs : List Out
  deriving DecidableEq, Repr

/-- The manager goes from one state to the next by processing an input. -/
def Step (c : Conf) (s : AgpsManager) (a : Action) (t : AgpsManager) : Prop :=
  ∃ s', s.process c a.reply a.input = some (s', a.outs) ∧ t = s'.absorb a.outs

end Gps.Agps
