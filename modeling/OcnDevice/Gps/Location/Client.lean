import OcnDevice.Core.Run
import OcnDevice.Gps.Location.BiDict

/-!
# The requests of the location client

A client of `LocationAPIClientBase` runs one tracking session, and any number of sessions that it
names by ids of its own.  A call makes an engine call for some session of the engine and puts a
request into a queue; the engine answers later, with no more than an error and the session, and
`getRequestBySession` has to find the request that the response is for.

There is a queue for the tracking session, one for all client sessions together and one for responses
to network-initiated requests, each with the number of a session beside it.

The engine is known by its answers only: which session a start is given is part of the input, and so
is when a response arrives and what it says.  To say which request a response *should* reach,
`unanswered` keeps the engine calls that have not been answered, each with the request that was made
for it; the responses for one session come in the order of its calls.  Requests carry the number
they were issued with, which the code does not look at.
-/

namespace Gps.Location

/-! ## Requests and queues -/

/-- The subclasses of `LocationAPIRequest` that the calls below make. -/
inductive RequestKind
  | startTracking
  | stopTracking
  | updateTrackingOptions
  | startBatching
  | stopBatching
  | updateBatchingOptions
  | getBatchedLocations
  deriving DecidableEq, Repr

/-- `LocationAPIRequest`, with a number that tells requests apart. -/
structure LocationAPIRequest where
  number : ℕ
  kind : RequestKind
  deriving DecidableEq, Repr

/-- The requests whose `onResponse` removes the session. -/
def LocationAPIRequest.stops (request : LocationAPIRequest) : Bool :=
  request.kind = .stopTracking || request.kind = .stopBatching

/-- `RequestQueue`. -/
structure RequestQueue where
  /-- `mSession`. -/
  session : ℕ
  /-- `mQueue`, the front first. -/
  requests : List LocationAPIRequest
  deriving DecidableEq, Repr

namespace RequestQueue

/-- `setSession`. -/
def setSession (q : RequestQueue) (session : ℕ) : RequestQueue := { q with session := session }

/-- `reset`, which deletes what is in the queue. -/
def reset (_ : RequestQueue) (session : ℕ) : RequestQueue := ⟨session, []⟩

/-- `push`. -/
def push (q : RequestQueue) (request : LocationAPIRequest) : RequestQueue :=
  { q with requests := q.requests ++ [request] }

/-- `pop`. -/
def pop (q : RequestQueue) : Option LocationAPIRequest × RequestQueue :=
  (q.requests.head?, { q with requests := q.requests.tail })

end RequestQueue

/-! ## Sessions -/

/-- `SESSION_MODE`; the parameter is a number, of which other values are possible. -/
inductive SessionMode
  | none
  | onFull
  | onFix
  | onTripCompleted
  | unknown (value : ℕ)
  deriving DecidableEq, Repr

namespace SessionMode

/-- The modes that batch. -/
def batches : SessionMode → Bool
  | onFull | onTripCompleted => true
  | _ => false

/-- The modes that the calls can do something with. -/
def known (mode : SessionMode) : Bool := mode = onFix || mode.batches

end SessionMode

/-- `SessionEntity`. -/
structure SessionEntity where
  id : ℕ
  trackingSession : ℕ
  batchingSession : ℕ
  sessionMode : SessionMode
  deriving DecidableEq, Repr

/-- What `memset` makes of an entity. -/
instance : Zero SessionEntity := ⟨⟨0, 0, 0, .none⟩⟩

/-- `LocationError`, as far as it is used here. -/
inductive LocationError
  | success
  | generalFailure
  | alreadyStarted
  | idUnknown
  deriving DecidableEq, Repr

/-! ## The client -/

/-- An engine call for a session, and the request that was made for it, if one was. -/
structure EngineCall where
  session : ℕ
  request : Option LocationAPIRequest
  deriving DecidableEq, Repr

/-- A response: the engine call that it answers, what it says, the request that it was delivered to,
and the sessions before and after. -/
structure Delivery where
  call : EngineCall
  error : LocationError
  request : Option LocationAPIRequest
  before : BiDict SessionEntity
  after : BiDict SessionEntity

/-- `LocationAPIClientBase`, without what belongs to geofences, and the calls and responses that are
between it and the engine. -/
structure LocationAPIClientBase where
  /-- `mLocationAPI != nullptr`. -/
  locationAPI : Bool
  /-- `mTracking`. -/
  tracking : Bool
  /-- `mRequestQueues[REQUEST_TRACKING]`. -/
  trackingQueue : RequestQueue
  /-- `mRequestQueues[REQUEST_SESSION]`. -/
  sessionQueue : RequestQueue
  /-- `mRequestQueues[REQUEST_NIRESPONSE]`. -/
  niResponseQueue : RequestQueue
  /-- `mSessionBiDict`. -/
  sessionBiDict : BiDict SessionEntity
  /-- How many requests have been made. -/
  issued : ℕ
  /-- The engine calls that have not been answered, the oldest first. -/
  unanswered : List EngineCall
  /-- The responses so far. -/
  deliveries : List Delivery

namespace LocationAPIClientBase

/-- The client as it is constructed. -/
def init : LocationAPIClientBase :=
  ⟨false, false, ⟨0, []⟩, ⟨0, []⟩, ⟨0, []⟩, .empty, 0, [], []⟩

/-- A new request. -/
def newRequest (a : LocationAPIClientBase) (kind : RequestKind) : LocationAPIRequest :=
  ⟨a.issued, kind⟩

/-- A new request goes into the queue of the tracking session. -/
def pushTracking (kind : RequestKind) (a : LocationAPIClientBase) : LocationAPIClientBase :=
  { a with trackingQueue := a.trackingQueue.push (a.newRequest kind), issued := a.issued + 1 }

/-- A new request goes into the queue of the client sessions. -/
def pushSession (kind : RequestKind) (a : LocationAPIClientBase) : LocationAPIClientBase :=
  { a with sessionQueue := a.sessionQueue.push (a.newRequest kind), issued := a.issued + 1 }

/-- `mRequestQueues[REQUEST_SESSION].setSession`. -/
def setSession (session : ℕ) (a : LocationAPIClientBase) : LocationAPIClientBase :=
  { a with sessionQueue := a.sessionQueue.setSession session }

/-- A call of `mLocationAPI` for a session. -/
def engine (session : ℕ) (request : Option LocationAPIRequest) (a : LocationAPIClientBase) :
    LocationAPIClientBase :=
  { a with unanswered := a.unanswered ++ [⟨session, request⟩] }

/-! ## The calls -/

/-- `locAPISetCallbacks`, as far as it creates the instance. -/
def locAPISetCallbacks (created : Bool) (a : LocationAPIClientBase) : LocationAPIClientBase :=
  { a with locationAPI := a.locationAPI || created }

/-- `locAPIStartTracking`, with the session that the engine gives. -/
def locAPIStartTracking (session : ℕ) (a : LocationAPIClientBase) :
    LocationError × LocationAPIClientBase :=
  if a.locationAPI then
    if a.tracking then (.success, a)
    else
      let request := a.newRequest .startTracking
      let a := a.engine session (some request)
      let a : LocationAPIClientBase := { a with trackingQueue := a.trackingQueue.reset session }
      (.success, { a.pushTracking .startTracking with tracking := true })
  else (.generalFailure, a)

/-- `locAPIStopTracking`. -/
def locAPIStopTracking (a : LocationAPIClientBase) : LocationAPIClientBase :=
  if a.locationAPI then
    let session := a.trackingQueue.session
    if session > 0 then
      let request := a.newRequest .stopTracking
      { (a.pushTracking .stopTracking).engine session (some request) with tracking := false }
    else a
  else a

/-- `locAPIUpdateTrackingOptions`. -/
def locAPIUpdateTrackingOptions (a : LocationAPIClientBase) : LocationAPIClientBase :=
  if a.locationAPI then
    let session := a.trackingQueue.session
    if session > 0 then
      let request := a.newRequest .updateTrackingOptions
      (a.pushTracking .updateTrackingOptions).engine session (some request)
    else a
  else a

/-- `locAPIStartSession`, with the session that the engine gives. -/
def locAPIStartSession (id : ℕ) (sessionMode : SessionMode) (given : ℕ)
    (a : LocationAPIClientBase) : LocationError × LocationAPIClientBase :=
  if a.locationAPI then
    if a.sessionBiDict.hasId id then (.alreadyStarted, a)
    else
      let trackingSession := if sessionMode = .onFix then given else 0
      let batchingSession := if sessionMode.batches then given else 0
      let a :=
        if sessionMode = .onFix then
          let request := a.newRequest .startTracking
          (a.engine trackingSession (some request)).pushSession .startTracking
        else if sessionMode.batches then
          let request := a.newRequest .startBatching
          ((a.engine batchingSession (some request)).setSession batchingSession).pushSession
            .startBatching
        else a
      let session := if sessionMode.batches then batchingSession else trackingSession
      let entity : SessionEntity := ⟨id, trackingSession, batchingSession, sessionMode⟩
      (.success, { a with sessionBiDict := a.sessionBiDict.set id session entity })
  else (.generalFailure, a)

/-- `locAPIStopSession`. -/
def locAPIStopSession (id : ℕ) (a : LocationAPIClientBase) :
    LocationError × LocationAPIClientBase :=
  if a.locationAPI then
    if a.sessionBiDict.hasId id then
      let (entity, dict) := a.sessionBiDict.getExtById id
      let a : LocationAPIClientBase := { a with sessionBiDict := dict }
      let a :=
        if entity.sessionMode = .onFix then
          let request := a.newRequest .stopTracking
          (a.pushSession .stopTracking).engine entity.trackingSession (some request)
        else if entity.sessionMode.batches then
          let request := a.newRequest .stopBatching
          (a.pushSession .stopBatching).engine entity.batchingSession (some request)
        else a
      (.success, a)
    else (.idUnknown, a)
  else (.generalFailure, a)

/-- The part of `locAPIUpdateSessionOptions` that depends on the modes: what it leaves, and the
tracking and the batching session afterwards.  A change between tracking and batching stops one
session and starts the other, for a single request. -/
def updateSession (sessionMode : SessionMode) (given : ℕ) (entity : SessionEntity)
    (a : LocationAPIClientBase) : LocationAPIClientBase × ℕ × ℕ :=
  if sessionMode = .onFix then
    let request := a.newRequest .updateTrackingOptions
    let a := a.pushSession .updateTrackingOptions
    if entity.sessionMode = .onFix then
      (a.engine entity.trackingSession (some request), entity.trackingSession,
        entity.batchingSession)
    else if entity.sessionMode.batches then
      (((a.engine entity.batchingSession none).setSession 0).engine given (some request), given, 0)
    else (a, entity.trackingSession, entity.batchingSession)
  else if sessionMode.batches then
    let request := a.newRequest .updateBatchingOptions
    let a := a.pushSession .updateBatchingOptions
    if entity.sessionMode = .onFix then
      (((a.engine entity.trackingSession none).engine given (some request)).setSession given, 0,
        given)
    else if entity.sessionMode.batches then
      (a.engine entity.batchingSession (some request), entity.trackingSession,
        entity.batchingSession)
    else (a, entity.trackingSession, entity.batchingSession)
  else (a, entity.trackingSession, entity.batchingSession)

/-- `locAPIUpdateSessionOptions`, with the session that the engine gives if one is started. -/
def locAPIUpdateSessionOptions (id : ℕ) (sessionMode : SessionMode) (given : ℕ)
    (a : LocationAPIClientBase) : LocationError × LocationAPIClientBase :=
  if a.locationAPI then
    if a.sessionBiDict.hasId id then
      let (entity, dict) := a.sessionBiDict.getExtById id
      let a : LocationAPIClientBase := { a with sessionBiDict := dict }
      let (a, trackingSession, batchingSession) := a.updateSession sessionMode given entity
      let session := if sessionMode.batches then batchingSession else trackingSession
      let entity : SessionEntity := ⟨entity.id, trackingSession, batchingSession, sessionMode⟩
      (.success,
        { a with sessionBiDict := (a.sessionBiDict.rmById id).set id session entity })
    else (.idUnknown, a)
  else (.generalFailure, a)

/-- `locAPIGetBatchedLocations`. -/
def locAPIGetBatchedLocations (id : ℕ) (a : LocationAPIClientBase) : LocationAPIClientBase :=
  if a.locationAPI then
    if a.sessionQueue.session > 0 then
      let (entity, dict) := a.sessionBiDict.getExtById id
      let a : LocationAPIClientBase := { a with sessionBiDict := dict }
      let request := a.newRequest .getBatchedLocations
      (a.pushSession .getBatchedLocations).engine entity.batchingSession (some request)
    else a
  else a

/-! ## Responses -/

/-- `removeSession`. -/
def removeSession (session : ℕ) (a : LocationAPIClientBase) : LocationAPIClientBase :=
  if a.sessionBiDict.hasSession session then
    { a with sessionBiDict := a.sessionBiDict.rmBySession session }
  else a

/-- The loop of `getRequestBySession` over the queues other than those of geofences and client
sessions: the first with this session gives its front. -/
def popBySession (session : ℕ) (a : LocationAPIClientBase) :
    Option LocationAPIRequest × LocationAPIClientBase :=
  if a.trackingQueue.session = session then
    (a.trackingQueue.pop.1, { a with trackingQueue := a.trackingQueue.pop.2 })
  else if a.niResponseQueue.session = session then
    (a.niResponseQueue.pop.1, { a with niResponseQueue := a.niResponseQueue.pop.2 })
  else (none, a)

/-- `getRequestBySession`. -/
def getRequestBySession (session : ℕ) (a : LocationAPIClientBase) :
    Option LocationAPIRequest × LocationAPIClientBase :=
  match a.popBySession session with
  | (some request, a) => (some request, a)
  | (none, a) =>
      if a.sessionBiDict.hasSession session then
        (a.sessionQueue.pop.1, { a with sessionQueue := a.sessionQueue.pop.2 })
      else (none, a)

/-- `onResponse` of a request, apart from the callback. -/
def onResponse (error : LocationError) (id : ℕ) (request : LocationAPIRequest)
    (a : LocationAPIClientBase) : LocationAPIClientBase :=
  if request.stops = true ∧ error = .success then a.removeSession id else a

/-- `onResponseCb`. -/
def onResponseCb (error : LocationError) (id : ℕ) (a : LocationAPIClientBase) :
    Option LocationAPIRequest × LocationAPIClientBase :=
  match a.getRequestBySession id with
  | (some request, a) => (some request, a.onResponse error id request)
  | (none, a) => (none, a)

/-- The engine call that the next response for a session answers. -/
def answered (a : LocationAPIClientBase) (session : ℕ) : Option EngineCall :=
  a.unanswered.find? fun c => c.session = session

/-- A response arrives. -/
def respond (session : ℕ) (error : LocationError) (a : LocationAPIClientBase) :
    Option LocationAPIClientBase :=
  (a.answered session).map fun call =>
    let r := a.onResponseCb error session
    { r.2 with
      unanswered := a.unanswered.eraseP fun c => c.session = session
      deliveries := a.deliveries ++ [⟨call, error, r.1, a.sessionBiDict, r.2.sessionBiDict⟩] }

end LocationAPIClientBase

/-! ## Runs -/

/-- A call, with the session that the engine gives if it starts one, or a response. -/
inductive Input
  | setCallbacks (created : Bool)
  | startTracking (given : ℕ)
  | stopTracking
  | updateTrackingOptions
  | startSession (id : ℕ) (sessionMode : SessionMode) (given : ℕ)
  | stopSession (id : ℕ)
  | updateSessionOptions (id : ℕ) (sessionMode : SessionMode) (given : ℕ)
  | getBatchedLocations (id : ℕ)
  | response (session : ℕ) (error : LocationError)
  deriving DecidableEq, Repr

namespace LocationAPIClientBase

/-- What an input does; there is no response that answers nothing. -/
def input (a : LocationAPIClientBase) : Input → Option LocationAPIClientBase
  | .setCallbacks created => some (a.locAPISetCallbacks created)
  | .startTracking given => some (a.locAPIStartTracking given).2
  | .stopTracking => some a.locAPIStopTracking
  | .updateTrackingOptions => some a.locAPIUpdateTrackingOptions
  | .startSession id sessionMode given => some (a.locAPIStartSession id sessionMode given).2
  | .stopSession id => some (a.locAPIStopSession id).2
  | .updateSessionOptions id sessionMode given =>
      some (a.locAPIUpdateSessionOptions id sessionMode given).2
  | .getBatchedLocations id => some (a.locAPIGetBatchedLocations id)
  | .response session error => a.respond session error

/-- One input. -/
def Step (a : LocationAPIClientBase) (i : Input) (a' : LocationAPIClientBase) : Prop :=
  a.input i = some a'

end LocationAPIClientBase

end Gps.Location
