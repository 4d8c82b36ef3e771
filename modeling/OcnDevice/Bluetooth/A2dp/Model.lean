import OcnDevice.Core.Thread

/-!
# The audio side of the Bluetooth host interface

The audio HAL starts, suspends and stops an A2DP stream by asking the Bluetooth stack, which answers
from its own thread: a request is a call of `stack_cb`, and the answer comes as one of the callbacks
`bt_stack_on_*`.  A request has no name; all of them share `ack_status`, `ack_recvd` and
`resp_received`.  A call resets these, makes its request, waits unless it has been answered already,
and acts on `ack_status`.

The calls are threads over the shared state, one step for each access that is not inside a critical
section of `ack_lock`, and one for each critical section.  The calls exclude each other by
`audio_stream.lock`.

For what is to be said of them the state keeps a history: the requests made, what has been answered to
the request that is open, and what the calls have acted on.
-/

namespace Bluetooth.A2dp

/-! ## The shared state -/

/-- `tA2DP_CTRL_ACK`. -/
inductive Ack
  | success
  | failure
  | incallFailure
  | unsupported
  | pending
  | disconnectInProgress
  | previousCommandPending
  | sktDisconnected
  | unknown
  deriving DecidableEq, Repr

/-- The number of an acknowledgement. -/
def Ack.toInt : Ack → ℤ
  | success => 0
  | failure => 1
  | incallFailure => 2
  | unsupported => 3
  | pending => 4
  | disconnectInProgress => 5
  | previousCommandPending => 6
  | sktDisconnected => 7
  | unknown => 8

/-- `tA2DP_STATE`. -/
inductive StreamState
  | starting
  | started
  | stopping
  | stopped
  | suspended
  | standby
  deriving DecidableEq, Repr

/-- The requests: which function of `stack_cb` is called. -/
inductive RequestKind
  | start
  | suspend
  | getConnectionStatus
  | checkA2dpReady
  | getCodecCfg
  | getMcastStatus
  | getConnectedDevice
  deriving DecidableEq, Repr

/-- The requests that are not answered by an acknowledgement. -/
def RequestKind.isQuery : RequestKind → Bool
  | .getMcastStatus | .getConnectedDevice => true
  | _ => false

/-- Who uses the flags: nobody; a call that is about to make a request; the request with this number;
or a call that reads the codec configuration, between its requests. -/
inductive Phase
  | free
  | preparing
  | waiting (number : ℕ)
  | reading
  deriving DecidableEq, Repr

/-- What a call has come to: it acts on a status, or gives up; `answers` are those given to its
request that it has not acted on, `ackRet` how often it has waited.  Or it finds the stack shut
down. -/
inductive Event
  | acted (kind : RequestKind) (status : Ack) (answers : List Ack) (ackRet : ℕ)
  | gaveUp (kind : RequestKind) (answers : List Ack) (ackRet : ℕ)
  | shutdown
  deriving DecidableEq, Repr

/-- `audio_stream`, `ack_recvd`, `resp_received` and `stack_cb`, with the history. -/
structure Shared where
  state : StreamState
  ackStatus : Ack
  ackRecvd : Bool
  respReceived : Bool
  /-- `stack_cb != NULL`. -/
  stackCb : Bool
  multicast : ℕ
  /-- The kinds of the requests made, by number. -/
  requests : List RequestKind
  phase : Phase
  /-- The answers to the open request that no call has acted on. -/
  answers : List Ack
  events : List Event
  deriving DecidableEq, Repr

/-- The state at the start. -/
def Shared.init : Shared := ⟨.starting, .success, false, false, false, 0, [], .free, [], []⟩

/-! ## The stack -/

namespace Shared

/-- What the callbacks with a status have in common. -/
def acknowledge (number : ℕ) (status : Ack) (s : Shared) : Shared :=
  { s with
    ackStatus := status
    respReceived := true
    ackRecvd := true
    answers := if s.phase = .waiting number then s.answers ++ [status] else s.answers }

/-- The callback for a request: `bt_stack_on_stream_started`, `bt_stack_on_stream_suspended`,
`bt_stack_on_get_connection_status`, `bt_stack_on_check_a2dp_ready`, and `bt_stack_on_get_codec_cfg`,
which only logs that the status is pending. -/
def answer (number : ℕ) (status : Ack) (s : Shared) : Option Shared :=
  s.requests[number]?.bind fun kind =>
    if kind.isQuery then none
    else if kind = .getCodecCfg ∧ status = .pending then some s
    else some (s.acknowledge number status)

/-- `bt_stack_on_get_mcast_status` and `bt_stack_on_get_num_connected_devices`. -/
def report (number value : ℕ) (s : Shared) : Option Shared :=
  s.requests[number]?.bind fun kind =>
    if kind.isQuery then
      some { s with
        multicast := if kind = .getMcastStatus then value else s.multicast
        respReceived := true
        ackRecvd := true }
    else none

/-- `bt_stack_deinit`. -/
def deinit (status : Ack) (s : Shared) : Shared :=
  { s with stackCb := false, ackStatus := status, ackRecvd := true }

end Shared

/-- What the stack does. -/
inductive StackAct
  | answer (number : ℕ) (status : Ack)
  | report (number value : ℕ)
  | deinit (status : Ack)
  | init
  deriving DecidableEq, Repr

/-- The state after it. -/
def Shared.stack (s : Shared) : StackAct → Option Shared
  | .answer number status => s.answer number status
  | .report number value => s.report number value
  | .deinit status => some (s.deinit status)
  | .init => some { s with stackCb := true }

/-! ## Steps of the calls -/

open Thread

/-- The state of the stream is read. -/
def streamState : Thread Shared StreamState := read Shared.state

/-- The state of the stream is set. -/
def setState (state : StreamState) : Thread Shared Unit := modify fun s => { s with state := state }

/-- `ack_status = A2DP_CTRL_ACK_UNKNOWN`. -/
def clearStatus : Thread Shared Unit := modify fun s => { s with ackStatus := .unknown }

/-- The same, with which a call begins to use the flags. -/
def prepareStatus : Thread Shared Unit :=
  modify fun s => { s with ackStatus := .unknown, phase := .preparing }

/-- `ack_recvd = 0`. -/
def clearRecvd : Thread Shared Unit := modify fun s => { s with ackRecvd := false }

/-- The same, with which a call begins to use the flags. -/
def prepareRecvd : Thread Shared Unit :=
  modify fun s => { s with ackRecvd := false, phase := .preparing }

/-- `resp_received = false`. -/
def clearResp : Thread Shared Unit := modify fun s => { s with respReceived := false }

/-- The same, with which a call begins to use the flags. -/
def prepareResp : Thread Shared Unit :=
  modify fun s => { s with respReceived := false, phase := .preparing }

/-- A request is noted. -/
def Shared.ask (kind : RequestKind) (s : Shared) : Shared :=
  { s with
    requests := s.requests ++ [kind]
    phase := .waiting s.requests.length
    answers := [] }

/-- A function of `stack_cb` is called, through a null pointer if the stack is gone. -/
def request (kind : RequestKind) : Thread Shared Unit :=
  step (fun s => if s.stackCb then s.ask kind else s) fun s => if s.stackCb then pure () else halt

/-- A call acts on the status. -/
def Shared.act (kind : RequestKind) (ackRet : ℕ) (phase : Phase) (s : Shared) : Shared :=
  { s with
    events := s.events ++ [.acted kind s.ackStatus s.answers ackRet]
    answers := []
    phase := phase }

/-- The status is read, to act on it. -/
def readStatus (kind : RequestKind) (ackRet : ℕ) (phase : Phase) : Thread Shared Ack :=
  atomic fun s => (s.ackStatus, s.act kind ackRet phase)

/-- The critical section in which the status is read and cleared.  If it is pending, the request stays
open. -/
def takeStatus (kind : RequestKind) (ackRet : ℕ) : Thread Shared Ack :=
  atomic fun s => (s.ackStatus,
    if s.ackStatus = .pending then
      { s.act kind ackRet s.phase with ackStatus := .unknown, ackRecvd := false }
    else { s.act kind ackRet .free with ackStatus := .unknown })

/-- `CTRL_CHAN_RETRY_COUNT`. -/
def CTRL_CHAN_RETRY_COUNT : ℕ := 3

/-- `STREAM_START_MAX_RETRY_COUNT`. -/
def STREAM_START_MAX_RETRY_COUNT : ℕ := 5

/-- `STREAM_START_MAX_RETRY_LOOPER`. -/
def STREAM_START_MAX_RETRY_LOOPER : ℕ := 6

/-- `CHECK_A2DP_READY_MAX_COUNT`. -/
def CHECK_A2DP_READY_MAX_COUNT : ℕ := 5

/-- The loop of `wait_for_stack_response` after a wait, with the waits that may follow: a wait ends
when it is signalled, when its time is over, or for no reason. -/
def waitLoop : ℕ → ℕ → Thread Shared ℕ
  | 0, retry => pure retry
  | n + 1, retry => step id fun s => if s.ackRecvd then pure retry else waitLoop n (retry + 1)

/-- `wait_for_stack_response`; the time to wait does not matter here. -/
def wait_for_stack_response : Thread Shared ℕ :=
  step id fun s =>
    if s.stackCb then
      if s.ackRecvd then pure 0 else waitLoop (CTRL_CHAN_RETRY_COUNT - 1) 1
    else pure 0

/-- `ack_ret == CTRL_CHAN_RETRY_COUNT && !ack_recvd`: no acknowledgement has come. -/
def missing (kind : RequestKind) (ackRet : ℕ) : Thread Shared Bool :=
  atomic fun s =>
    if ackRet = CTRL_CHAN_RETRY_COUNT ∧ s.ackRecvd = false then
      (true, { s with
        events := s.events ++ [.gaveUp kind s.answers ackRet]
        answers := []
        phase := .free })
    else (false, s)

/-- The wait after a request, unless it has been answered already; nothing if no acknowledgement has
come. -/
def awaitAck (kind : RequestKind) : Thread Shared (Option ℕ) := do
  if ← read Shared.respReceived then pure (some 0)
  else
    let ackRet ← wait_for_stack_response
    if ← missing kind ackRet then pure none else pure (some ackRet)

/-! ## Starting a stream -/

/-- The second wait of `audio_start_stream`, when the first answer was pending.  With the property set,
no answer counts as success. -/
def startPending (hal : Bool) : Thread Shared Ack := do
  let ackRet ← wait_for_stack_response
  if hal then
    let silent ← atomic fun s =>
      if s.ackStatus = .unknown then (true, s.act .start ackRet .free) else (false, s)
    if silent then
      clearStatus
      pure .success
    else
      let status ← readStatus .start ackRet .free
      clearStatus
      pure status
  else
    let status ← readStatus .start ackRet .free
    clearStatus
    pure status

/-- What `audio_start_stream` makes of a status; nothing if it goes on to try again. -/
def startVerdict (hal : Bool) (status : Ack) : Thread Shared (Option ℤ) :=
  if status = .success then do
    setState .started
    pure (some status.toInt)
  else if status = .incallFailure ∨ status = .unsupported ∨ status = .disconnectInProgress ∨
      status = .unknown then do
    setState .stopped
    pure (some status.toInt)
  else if hal = true ∧ status = .previousCommandPending then do
    setState .started
    pure (some status.toInt)
  else pure none

/-- The inner loop body of `audio_start_stream`, with the stack there. -/
def startRequest (hal : Bool) : Thread Shared (Option ℤ) := do
  clearStatus
  prepareResp
  request .start
  clearRecvd
  match ← awaitAck .start with
  | none => pure (some (-1))
  | some ackRet => do
      let status ← takeStatus .start ackRet
      if status = .pending then
        let status ← startPending hal
        startVerdict hal status
      else startVerdict hal status

/-- The inner loop body of `audio_start_stream`. -/
def startOnce (hal : Bool) : Thread Shared (Option ℤ) := do
  let up ← atomic fun s =>
    (s.stackCb, if s.stackCb then s else { s with events := s.events ++ [.shutdown] })
  if up then startRequest hal else pure (some Ack.sktDisconnected.toInt)

/-- The inner loop. -/
def startLoop (hal : Bool) : ℕ → Thread Shared (Option ℤ)
  | 0 => pure none
  | n + 1 => do
      match ← startOnce hal with
      | some r => pure (some r)
      | none => startLoop hal n

/-- The check of the connection after the inner loop; nothing if it is still up. -/
def checkConnection : Thread Shared (Option ℤ) := do
  clearStatus
  prepareResp
  request .getConnectionStatus
  clearRecvd
  match ← awaitAck .getConnectionStatus with
  | none => pure (some (-1))
  | some ackRet => do
      let status ← readStatus .getConnectionStatus ackRet .free
      clearStatus
      if status = .success then pure none else pure (some (-1))

/-- The outer loop.  When it is over the status is that of the last check. -/
def startLooper (hal : Bool) : ℕ → Thread Shared ℤ
  | 0 => pure Ack.success.toInt
  | n + 1 => do
      match ← startLoop hal STREAM_START_MAX_RETRY_COUNT with
      | some r => pure r
      | none => do
          match ← checkConnection with
          | some r => pure r
          | none => startLooper hal n

/-- `audio_start_stream`; `hal` is the property `persist.bt.a2dp.hal.implementation`. -/
def audio_start_stream (hal : Bool) : Thread Shared ℤ := do
  let state ← streamState
  if state = .suspended then pure (-1)
  else if hal = true ∧ state = .started then pure 0
  else startLooper hal STREAM_START_MAX_RETRY_LOOPER

/-! ## Stopping and suspending -/

/-- The request that `audio_stop_stream` and `audio_suspend_stream` make; nothing if no acknowledgement
has come. -/
def suspendRequest : Thread Shared (Option Ack) := do
  prepareRecvd
  clearResp
  clearStatus
  request .suspend
  match ← awaitAck .suspend with
  | none => pure none
  | some ackRet => do
      let status ← takeStatus .suspend ackRet
      if status = .pending then
        let ackRet ← wait_for_stack_response
        let status ← readStatus .suspend ackRet .free
        clearStatus
        pure (some status)
      else pure (some status)

/-- The status counts as success. -/
def succeeds (hal : Bool) (status : Ack) : Bool :=
  status = .success || (hal && status = .previousCommandPending)

/-- `audio_stop_stream`. -/
def audio_stop_stream (hal : Bool) : Thread Shared ℤ := do
  if ← read Shared.stackCb then
    let state ← streamState
    if state = .suspended then
      setState .stopped
      pure (-1)
    else
      match ← suspendRequest with
      | none => pure (-1)
      | some status =>
          if succeeds hal status then do
            setState .standby
            pure 0
          else do
            setState .stopped
            pure (-1)
  else
    setState .stopped
    pure (-1)

/-- `audio_suspend_stream`. -/
def audio_suspend_stream (hal : Bool) : Thread Shared ℤ := do
  if ← read Shared.stackCb then
    let state ← streamState
    if state = .suspended then pure (-1)
    else
      match ← suspendRequest with
      | none => pure (-1)
      | some status =>
          if succeeds hal status then do
            setState .suspended
            pure 0
          else pure (-1)
  else pure (-1)

/-! ## The other calls -/

/-- `audio_stream_open`. -/
def audio_stream_open : Thread Shared ℤ := do
  setState .stopped
  if ← read Shared.stackCb then pure 0 else pure (-1)

/-- The test at the end of `audio_stream_close`: the status is looked at when the waits are used up. -/
def closeFailed (ackRet : ℕ) : Thread Shared Bool :=
  atomic fun s =>
    if ackRet = CTRL_CHAN_RETRY_COUNT then
      (decide (s.ackStatus = .unknown), s.act .suspend ackRet .free)
    else (false, { s with answers := [], phase := .free })

/-- `audio_stream_close`. -/
def audio_stream_close : Thread Shared ℤ := do
  let state ← streamState
  if state = .started ∨ state = .stopping then
    if ← read Shared.stackCb then
      prepareStatus
      clearResp
      request .suspend
      clearRecvd
      if ← read Shared.respReceived then
        modify fun s => { s with answers := [], phase := .free }
        pure 0
      else
        let ackRet ← wait_for_stack_response
        if ← closeFailed ackRet then pure (-1) else pure 0
    else pure 0
  else pure 0

/-- `audio_handoff_triggered`, whose condition always holds. -/
def audio_handoff_triggered : Thread Shared ℤ := do
  setState .stopped
  pure 0

/-- `clear_a2dpsuspend_flag`. -/
def clear_a2dpsuspend_flag : Thread Shared ℤ := do
  let state ← streamState
  if state = .suspended then
    setState .stopped
    pure 0
  else pure 0

/-- The critical section of `audio_check_a2dp_ready` that makes the request, if the stack is there. -/
def readyRequest : Thread Shared Bool :=
  atomic fun s => (s.stackCb,
    if s.stackCb then { s with ackStatus := .unknown, ackRecvd := false }.ask .checkA2dpReady else s)

/-- The loop of `audio_check_a2dp_ready`. -/
def readyLoop : ℕ → Thread Shared ℤ
  | 0 => do
      clearStatus
      pure 0
  | n + 1 => do
      if ← readyRequest then
        let ackRet ← wait_for_stack_response
        let status ← readStatus .checkA2dpReady ackRet .free
        if status = .success then pure 1
        else
          let ackRecvd ← read Shared.ackRecvd
          if ackRet = CTRL_CHAN_RETRY_COUNT ∧ ackRecvd = false then pure 0 else readyLoop n
      else pure 0

/-- `audio_check_a2dp_ready`. -/
def audio_check_a2dp_ready (hal : Bool) : Thread Shared ℤ := do
  let state ← streamState
  if hal = true ∧ state = .suspended then pure 0 else readyLoop CHECK_A2DP_READY_MAX_COUNT

/-- A request that is not answered by an acknowledgement, as in `a2dp_get_multicast_status` and
`a2dp_get_num_connected_devices`. -/
def queryStack (kind : RequestKind) : Thread Shared Unit := do
  clearResp
  request kind
  clearRecvd
  if ← read Shared.respReceived then modify fun s => { s with phase := .reading }
  else
    let _ ← wait_for_stack_response
    modify fun s => { s with phase := .reading }

/-- `a2dp_get_multicast_status`. -/
def a2dp_get_multicast_status : Thread Shared ℕ := do
  if ← read Shared.stackCb then
    queryStack .getMcastStatus
    read Shared.multicast
  else pure 0

/-- `a2dp_get_num_connected_devices`, which always gives one. -/
def a2dp_get_num_connected_devices : Thread Shared Unit := do
  if ← read Shared.stackCb then queryStack .getConnectedDevice else pure ()

/-- `a2dp_read_codec_config`.  Unlike the other requests, it does not clear the status first. -/
def a2dp_read_codec_config : Thread Shared Ack := do
  if ← read Shared.stackCb then
    clearResp
    request .getCodecCfg
    clearRecvd
    if ← read Shared.respReceived then
      let status ← readStatus .getCodecCfg 0 .reading
      clearStatus
      pure status
    else
      let ackRet ← wait_for_stack_response
      let status ← readStatus .getCodecCfg ackRet .reading
      clearStatus
      pure status
  else pure .failure

/-- The call that reads the codec configuration begins. -/
def beginReading : Thread Shared Unit := modify fun s => { s with phase := .reading }

/-- It ends. -/
def endReading : Thread Shared Unit := modify fun s => { s with phase := .free }

/-- The loop of `audio_get_codec_config`: whether a configuration has been read. -/
def codecLoop : ℕ → Thread Shared Bool
  | 0 => pure false
  | n + 1 => do
      let status ← a2dp_read_codec_config
      if status = .success then pure true else codecLoop n

/-- `audio_get_codec_config`: one if it goes on to parse a configuration. -/
def audio_get_codec_config : Thread Shared ℤ := do
  beginReading
  let multicast ← a2dp_get_multicast_status
  if multicast ≠ 0 then a2dp_get_num_connected_devices
  let found ← codecLoop STREAM_START_MAX_RETRY_COUNT
  endReading
  if found then
    if ← read Shared.stackCb then pure 1 else pure 0
  else pure 0

/-- `audio_get_next_codec_config`. -/
def audio_get_next_codec_config : Thread Shared ℤ := do
  beginReading
  let found ← codecLoop STREAM_START_MAX_RETRY_COUNT
  endReading
  if found then pure 1 else pure 0

/-- A call of the audio thread, with the property as it finds it. -/
inductive Call
  | open
  | start (hal : Bool)
  | stop (hal : Bool)
  | suspend (hal : Bool)
  | close
  | handoffTriggered
  | clearSuspendFlag
  | checkReady (hal : Bool)
  | getCodecConfig
  | getNextCodecConfig
  deriving DecidableEq, Repr

/-- The program of a call. -/
def Call.thread : Call → Thread Shared ℤ
  | .open => audio_stream_open
  | .start hal => audio_start_stream hal
  | .stop hal => audio_stop_stream hal
  | .suspend hal => audio_suspend_stream hal
  | .close => audio_stream_close
  | .handoffTriggered => audio_handoff_triggered
  | .clearSuspendFlag => clear_a2dpsuspend_flag
  | .checkReady hal => audio_check_a2dp_ready hal
  | .getCodecConfig => audio_get_codec_config
  | .getNextCodecConfig => audio_get_next_codec_config

/-- The audio thread: calls one after another. -/
def audioThread : List Call → Thread Shared (List ℤ)
  | [] => pure []
  | call :: calls => do
      let r ← call.thread
      let rs ← audioThread calls
      pure (r :: rs)

end Bluetooth.A2dp
