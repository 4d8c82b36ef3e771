import OcnDevice.Core.Run

/-!
# Tracking sessions on one engine

The engine can be programmed with one positioning mode and one interval at a time.  `GnssAdapter`
keeps the options of every tracking session in a map ordered by session, and multiplexes: whenever a
session comes, changes or goes it derives the smallest interval of the others, and programs the
engine anew if the comparison asks for it.

Commands are posted as messages and processed one after another on the adapter thread.  Whether a
call of the engine succeeds is an oracle (`succeeds`, by the number of the call); the session ids
come from a 32-bit counter that all adapters share.
-/

namespace Gps.Tracking

/-! ## Options and modes -/

/-- `GnssSuplMode`. -/
inductive GnssSuplMode
  | standalone
  | msb
  | msa
  deriving DecidableEq, Repr

/-- The mode of a `LocPosMode`. -/
inductive LocPositionMode
  | standalone
  | msBased
  | msAssisted
  deriving DecidableEq, Repr

/-- `LocationOptions`; a size of zero means that nothing has been set. -/
structure LocationOptions where
  size : ℕ
  minInterval : ℕ
  minDistance : ℕ
  mode : GnssSuplMode
  deriving DecidableEq, Repr

/-- `LocPosMode`, as far as `convertOptions` sets it. -/
structure LocPosMode where
  mode : LocPositionMode
  share_position : Bool
  min_interval : ℕ
  deriving DecidableEq, Repr

/-- `convertOptions`. -/
def convertOptions (options : LocationOptions) : LocPosMode where
  mode :=
    match options.mode with
    | .msb => .msBased
    | .msa => .msAssisted
    | _ => .standalone
  share_position := true
  min_interval := options.minInterval

/-- `LocationError`, as far as it is used here. -/
inductive LocationError
  | success
  | generalFailure
  | callbackMissing
  | invalidParameter
  deriving DecidableEq, Repr

/-- `LocationSessionKey`. -/
structure LocationSessionKey where
  client : ℕ
  id : ℕ
  deriving DecidableEq, Repr

/-- Sessions are ordered by id, and then by client. -/
instance : Ord LocationSessionKey :=
  ⟨compareLex (compareOn LocationSessionKey.id) (compareOn LocationSessionKey.client)⟩

instance : Std.TransOrd LocationSessionKey :=
  inferInstanceAs (Std.TransCmp (compareLex (compareOn _) (compareOn _)))

instance : Std.LawfulEqOrd LocationSessionKey where
  eq_of_compare {a b} h := by
    obtain ⟨hid, hclient⟩ := Ordering.then_eq_eq.mp h
    obtain ⟨c, i⟩ := a
    obtain ⟨c', i'⟩ := b
    rw [LocationSessionKey.mk.injEq]
    exact ⟨Nat.compare_eq_eq.mp hclient, Nat.compare_eq_eq.mp hid⟩

/-- The callbacks of a client that are looked at here. -/
structure ClientCallbacks where
  trackingCb : Bool
  gnssMeasurementsCb : Bool
  deriving DecidableEq, Repr

/-- A message of the adapter. -/
inductive Msg
  | addClient (client : ℕ) (callbacks : ClientCallbacks)
  | removeClient (client : ℕ)
  | startTracking (client sessionId : ℕ) (options : LocationOptions)
  | updateTracking (client sessionId : ℕ) (options : LocationOptions)
  | stopTracking (client sessionId : ℕ)
  | restartSessions
  deriving DecidableEq, Repr

/-- `GnssAdapter`, with its messages and the engine. -/
structure GnssAdapter where
  /-- `mClientData`. -/
  clientData : Std.ExtTreeMap ℕ ClientCallbacks
  /-- `mTrackingSessions`. -/
  sessions : Std.ExtTreeMap LocationSessionKey LocationOptions
  /-- `mSessionIdCounter`. -/
  sessionIdCounter : ℕ
  /-- What the engine was last programmed with, if it is running. -/
  engine : Option LocPosMode
  /-- How many calls of the engine there have been. -/
  engineCalls : ℕ
  /-- The messages that wait, the oldest first. -/
  msgs : List Msg
  /-- The responses reported so far: client, error and session id. -/
  responses : List (ℕ × LocationError × ℕ)

/-- `generateSessionId`. -/
def generateSessionId (counter : ℕ) : ℕ := if counter + 1 = 0xFFFFFFFF then 1 else counter + 1

namespace GnssAdapter

/-- The adapter at the start. -/
def init : GnssAdapter := ⟨∅, ∅, 1, none, 0, [], []⟩

/-! ## The functions of the adapter -/

/-- The loop that looks for the `LocationOptions` with the smallest interval; two of the functions
skip the session concerned. -/
def smallestIntervalOptions (a : GnssAdapter) (skip : Option LocationSessionKey) :
    LocationOptions :=
  a.sessions.foldl (fun smallest key options =>
    if some key ≠ skip ∧ (smallest.size = 0 ∨ options.minInterval < smallest.minInterval) then
      options
    else smallest) ⟨0, 0, 0, .standalone⟩

section Engine

/- Which calls of the engine succeed. -/
variable (succeeds : ℕ → Bool)

/-- `startTracking(options)`. -/
def startTracking (options : LocationOptions) (a : GnssAdapter) : LocationError × GnssAdapter :=
  if succeeds a.engineCalls then
    (.success,
      { a with engine := some (convertOptions options), engineCalls := a.engineCalls + 1 })
  else (.generalFailure, { a with engineCalls := a.engineCalls + 1 })

/-- `stopTracking()`. -/
def stopTracking (a : GnssAdapter) : LocationError × GnssAdapter :=
  if succeeds a.engineCalls then
    (.success, { a with engine := none, engineCalls := a.engineCalls + 1 })
  else (.generalFailure, { a with engineCalls := a.engineCalls + 1 })

/-- `startTrackingMultiplex`. -/
def startTrackingMultiplex (options : LocationOptions) (a : GnssAdapter) :
    LocationError × GnssAdapter :=
  if a.sessions.isEmpty then a.startTracking succeeds options
  else if options.minInterval < (a.smallestIntervalOptions none).minInterval then
    a.startTracking succeeds options
  else (.success, a)

/-- `updateTrackingMultiplex`. -/
def updateTrackingMultiplex (key : LocationSessionKey) (options : LocationOptions)
    (a : GnssAdapter) : LocationError × GnssAdapter :=
  if a.sessions.size = 1 then a.startTracking succeeds options
  else
    match a.sessions[key]? with
    | some current =>
        let smallest := a.smallestIntervalOptions (some key)
        if options.minInterval < smallest.minInterval then a.startTracking succeeds options
        else if current.minInterval < smallest.minInterval then a.startTracking succeeds smallest
        else (.success, a)
    | none => (.success, a)

/-- `stopTrackingMultiplex`. -/
def stopTrackingMultiplex (key : LocationSessionKey) (a : GnssAdapter) :
    LocationError × GnssAdapter :=
  if a.sessions.size = 1 then a.stopTracking succeeds
  else
    match a.sessions[key]? with
    | some current =>
        let smallest := a.smallestIntervalOptions (some key)
        if current.minInterval < smallest.minInterval then a.startTracking succeeds smallest
        else (.success, a)
    | none => (.success, a)

/-- `hasTrackingCallback` or `hasMeasurementsCallback`. -/
def hasCallback (a : GnssAdapter) (client : ℕ) : Bool :=
  a.clientData[client]?.any fun cb => cb.trackingCb || cb.gnssMeasurementsCb

/-- `saveTrackingSession`. -/
def saveTrackingSession (key : LocationSessionKey) (options : LocationOptions) (a : GnssAdapter) :
    GnssAdapter :=
  { a with sessions := a.sessions.insert key options }

/-- `eraseTrackingSession`. -/
def eraseTrackingSession (key : LocationSessionKey) (a : GnssAdapter) : GnssAdapter :=
  { a with sessions := a.sessions.erase key }

/-- `reportResponse`. -/
def reportResponse (client : ℕ) (err : LocationError) (sessionId : ℕ) (a : GnssAdapter) :
    GnssAdapter :=
  { a with responses := a.responses ++ [(client, err, sessionId)] }

/-- `MsgStartTracking::proc`. -/
def procStartTracking (client sessionId : ℕ) (options : LocationOptions) (a : GnssAdapter) :
    GnssAdapter :=
  if !a.hasCallback client then a.reportResponse client .callbackMissing sessionId
  else if options.size = 0 then a.reportResponse client .invalidParameter sessionId
  else
    match a.startTrackingMultiplex succeeds options with
    | (.success, a) =>
        (a.saveTrackingSession ⟨client, sessionId⟩ options).reportResponse client .success sessionId
    | (err, a) => a.reportResponse client err sessionId

/-- `MsgUpdateTracking::proc`. -/
def procUpdateTracking (client sessionId : ℕ) (options : LocationOptions) (a : GnssAdapter) :
    GnssAdapter :=
  if a.sessions.contains ⟨client, sessionId⟩ then
    if options.size = 0 then a.reportResponse client .invalidParameter sessionId
    else
      match a.updateTrackingMultiplex succeeds ⟨client, sessionId⟩ options with
      | (.success, a) =>
          (a.saveTrackingSession ⟨client, sessionId⟩ options).reportResponse client .success
            sessionId
      | (err, a) => a.reportResponse client err sessionId
  else a

/-- A session is stopped and, if that has succeeded, erased. -/
def stopSession (key : LocationSessionKey) (a : GnssAdapter) : LocationError × GnssAdapter :=
  match a.stopTrackingMultiplex succeeds key with
  | (.success, a) => (.success, a.eraseTrackingSession key)
  | (err, a) => (err, a)

/-- `MsgStopTracking::proc`. -/
def procStopTracking (client sessionId : ℕ) (a : GnssAdapter) : GnssAdapter :=
  if a.sessions.contains ⟨client, sessionId⟩ then
    let r := a.stopSession succeeds ⟨client, sessionId⟩
    r.2.reportResponse client r.1 sessionId
  else a

/-- `stopClientSessions`, over the keys in the order of the map. -/
def stopClientSessions (client : ℕ) (a : GnssAdapter) : GnssAdapter :=
  (a.sessions.keys.filter fun key => key.client = client).foldl
    (fun a key => (a.stopSession succeeds key).2) a

/-- `eraseClient`. -/
def eraseClient (client : ℕ) (a : GnssAdapter) : GnssAdapter :=
  { a with clientData := a.clientData.erase client }

/-- `restartSessions`. -/
def restartSessions (a : GnssAdapter) : GnssAdapter :=
  if a.sessions.isEmpty then a
  else (a.startTracking succeeds (a.smallestIntervalOptions none)).2

/-- The processing of a message. -/
def procMsg (a : GnssAdapter) : Msg → GnssAdapter
  | .addClient client callbacks =>
      { a with clientData := a.clientData.insert client callbacks }
  | .removeClient client => (a.stopClientSessions succeeds client).eraseClient client
  | .startTracking client sessionId options =>
      a.procStartTracking succeeds client sessionId options
  | .updateTracking client sessionId options =>
      a.procUpdateTracking succeeds client sessionId options
  | .stopTracking client sessionId => a.procStopTracking succeeds client sessionId
  | .restartSessions => a.restartSessions succeeds

end Engine

end GnssAdapter

/-! ## Runs -/

/-- A command that a client posts, an event, or the next message of the adapter thread. -/
inductive Input
  | addClientCommand (client : ℕ) (callbacks : ClientCallbacks)
  | removeClientCommand (client : ℕ)
  | startTrackingCommand (client : ℕ) (options : LocationOptions)
  | updateTrackingOptionsCommand (client id : ℕ) (options : LocationOptions)
  | stopTrackingCommand (client id : ℕ)
  | handleEngineUpEvent
  /-- A command of any adapter that takes a session id for something else. -/
  | generateSessionId
  /-- The oldest message is processed. -/
  | proc
  deriving DecidableEq, Repr

namespace GnssAdapter

/-- `sendMsg`. -/
def sendMsg (a : GnssAdapter) (m : Msg) : GnssAdapter := { a with msgs := a.msgs ++ [m] }

/-- A session id is taken. -/
def takeSessionId (a : GnssAdapter) : GnssAdapter :=
  { a with sessionIdCounter := generateSessionId a.sessionIdCounter }

variable (succeeds : ℕ → Bool)

/-- What an input does. -/
def input (a : GnssAdapter) : Input → GnssAdapter
  | .addClientCommand client callbacks => a.sendMsg (.addClient client callbacks)
  | .removeClientCommand client => a.sendMsg (.removeClient client)
  | .startTrackingCommand client options =>
      a.takeSessionId.sendMsg (.startTracking client a.takeSessionId.sessionIdCounter options)
  | .updateTrackingOptionsCommand client id options => a.sendMsg (.updateTracking client id options)
  | .stopTrackingCommand client id => a.sendMsg (.stopTracking client id)
  | .handleEngineUpEvent => a.sendMsg .restartSessions
  | .generateSessionId => a.takeSessionId
  | .proc =>
      match a.msgs with
      | [] => a
      | m :: msgs => ({ a with msgs := msgs } : GnssAdapter).procMsg succeeds m

/-- One input. -/
def Step (a : GnssAdapter) (i : Input) (a' : GnssAdapter) : Prop := a' = a.input succeeds i

end GnssAdapter

end Gps.Tracking
