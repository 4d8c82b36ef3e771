import OcnDevice.Bluetooth.A2dp.Model

/-!
# The locks of the audio side

A call of the audio HAL holds `audio_stream.lock` from its beginning to its end, and
`audio_stream.ack_lock` where it looks at the answer of the stack.  Here the calls are the same threads
as in the model of the acknowledgements, with each `pthread_mutex_lock` and `pthread_mutex_unlock` a
step of its own; what is left out is the history of the requests.

The state says what the call holds: `lock` is a recursive mutex, of which it counts how often it is
locked.  What a mutex protects the others leave alone while the call holds it.  What goes against the
discipline is noted in `faults`, and the call goes on.
-/

namespace Bluetooth.A2dp.Locks

/-! ## The shared state -/

/-- What goes against the discipline: a mutex is unlocked that the call does not hold, the state of the
stream is changed without `lock`, a function is called through `stack_cb` when it is null, or the call
returns and holds a mutex. -/
inductive Fault
  | unlock
  | unlockAck
  | stateChange
  | nullCall
  | leak
  deriving DecidableEq, Repr

/-- Where the discipline depends on what a call finds: it calls through `stack_cb`, after the stack has
been shut down since it looked or not; or it takes the status first, in `audio_stop_stream` or in
`audio_suspend_stream`. -/
inductive Juncture
  | request (shutdown : Bool)
  | stopStatus (status : Ack)
  | suspendStatus (hal : Bool) (status : Ack)
  deriving DecidableEq, Repr

/-- `audio_stream`, `ack_recvd`, `resp_received` and `stack_cb`, and what the call holds. -/
structure Shared where
  state : StreamState
  ackStatus : Ack
  ackRecvd : Bool
  respReceived : Bool
  /-- `stack_cb != NULL`. -/
  stackCb : Bool
  /-- How often the call has locked `audio_stream.lock`. -/
  lock : ℕ
  /-- It holds `audio_stream.ack_lock`. -/
  ackLock : Bool
  /-- The stack has been shut down since the call found `stack_cb` set. -/
  shutdown : Bool
  junctures : List Juncture
  faults : List Fault
  deriving DecidableEq, Repr

/-- A state in which no call is running, and none has gone against the discipline. -/
def Shared.Idle (s : Shared) : Prop := s.lock = 0 ∧ s.ackLock = false ∧ s.faults = []

instance (s : Shared) : Decidable s.Idle := inferInstanceAs (Decidable (_ ∧ _ ∧ _))

/-! ## The others -/

/-- What the others do: the stack, from its callbacks, and the calls of other audio threads. -/
inductive Other
  | acknowledge (status : Ack)
  | report
  | deinit (status : Ack)
  | init
  | audio (state : StreamState) (ackStatus : Ack) (ackRecvd respReceived : Bool)
  deriving DecidableEq, Repr

/-- The state after it.  The callbacks lock `ack_lock`, `bt_stack_init` does not; and the other calls
lock `lock`. -/
def Shared.other (s : Shared) : Other → Option Shared
  | .acknowledge status =>
      if s.ackLock then none
      else some { s with ackStatus := status, respReceived := true, ackRecvd := true }
  | .report => if s.ackLock then none else some { s with respReceived := true, ackRecvd := true }
  | .deinit status =>
      if s.ackLock then none
      else some { s with stackCb := false, ackStatus := status, ackRecvd := true, shutdown := true }
  | .init => some { s with stackCb := true }
  | .audio state ackStatus ackRecvd respReceived =>
      if s.lock = 0 then some { s with state, ackStatus, ackRecvd, respReceived } else none

/-! ## Steps of the calls -/

open Thread

/-- A fault is noted. -/
def Shared.fault (f : Fault) (s : Shared) : Shared := { s with faults := s.faults ++ [f] }

/-- A juncture is noted. -/
def Shared.note (j : Juncture) (s : Shared) : Shared := { s with junctures := s.junctures ++ [j] }

/-- `pthread_mutex_lock(&audio_stream.lock)`. -/
def lock : Thread Shared Unit := modify fun s => { s with lock := s.lock + 1 }

/-- `pthread_mutex_unlock(&audio_stream.lock)`. -/
def unlock : Thread Shared Unit :=
  modify fun s => if s.lock = 0 then s.fault .unlock else { s with lock := s.lock - 1 }

/-- `pthread_mutex_lock(&audio_stream.ack_lock)`, which does not return to a call that holds it. -/
def lockAck : Thread Shared Unit :=
  step (fun s => { s with ackLock := true }) fun s => if s.ackLock then halt else pure ()

/-- `pthread_mutex_unlock(&audio_stream.ack_lock)`. -/
def unlockAck : Thread Shared Unit :=
  modify fun s => if s.ackLock then { s with ackLock := false } else s.fault .unlockAck

/-- The state of the stream is set. -/
def setState (state : StreamState) : Thread Shared Unit :=
  modify fun s => if s.lock = 0 then { s with state }.fault .stateChange else { s with state }

/-- `ack_status = A2DP_CTRL_ACK_UNKNOWN`. -/
def clearStatus : Thread Shared Unit := modify fun s => { s with ackStatus := .unknown }

/-- `ack_recvd = 0`. -/
def clearRecvd : Thread Shared Unit := modify fun s => { s with ackRecvd := false }

/-- `resp_received = false`. -/
def clearResp : Thread Shared Unit := modify fun s => { s with respReceived := false }

/-- `stack_cb` is tested. -/
def testStack : Thread Shared Bool :=
  atomic fun s => (s.stackCb, if s.stackCb then { s with shutdown := false } else s)

/-- A function of `stack_cb` is called. -/
def request : Thread Shared Unit :=
  step
    (fun s =>
      if s.stackCb then s.note (.request s.shutdown)
      else (s.note (.request s.shutdown)).fault .nullCall)
    fun s => if s.stackCb then pure () else halt

/-- The status is taken first, in `audio_stop_stream` or in `audio_suspend_stream`. -/
def takeStatus (juncture : Ack → Juncture) : Thread Shared Ack :=
  atomic fun s => (s.ackStatus, { s.note (juncture s.ackStatus) with ackStatus := .unknown })

/-- The loop of `wait_for_stack_response`; `pthread_cond_timedwait` gives `ack_lock` away and gets it
back. -/
def waitLoop : ℕ → ℕ → Thread Shared ℕ
  | 0, retry => pure retry
  | n + 1, retry => do
      if ← read Shared.ackRecvd then pure retry
      else
        unlockAck
        lockAck
        waitLoop n (retry + 1)

/-- `wait_for_stack_response`. -/
def wait_for_stack_response : Thread Shared ℕ := do
  lockAck
  if ← read Shared.stackCb then
    let retry ← waitLoop CTRL_CHAN_RETRY_COUNT 0
    unlockAck
    pure retry
  else
    unlockAck
    pure 0

/-- The wait after a request, unless it has been answered already: whether an acknowledgement has
come. -/
def awaitAck : Thread Shared Bool := do
  if ← read Shared.respReceived then pure true
  else
    let ackRet ← wait_for_stack_response
    let ackRecvd ← read Shared.ackRecvd
    pure !(ackRet = CTRL_CHAN_RETRY_COUNT && !ackRecvd)

/-! ## Starting a stream -/

/-- How `audio_start_stream` is left: by `goto end`, with a status, or by `return`. -/
inductive Exit
  | goto (status : ℤ)
  | ret (value : ℤ)
  deriving DecidableEq, Repr

/-- The second wait of `audio_start_stream`, when the first answer was pending. -/
def startPending (hal : Bool) : Thread Shared Ack := do
  let _ ← wait_for_stack_response
  let first ← read Shared.ackStatus
  -- with the property set, no answer counts as success
  if hal = true ∧ first = .unknown then
    clearStatus
    pure .success
  else
    let status ← read Shared.ackStatus
    clearStatus
    pure status

/-- What `audio_start_stream` makes of a status; nothing if it goes on to try again. -/
def startVerdict (hal : Bool) (status : Ack) : Thread Shared (Option Exit) :=
  if status = .success then do
    setState .started
    pure (some (.goto status.toInt))
  else if status = .incallFailure ∨ status = .unsupported ∨ status = .disconnectInProgress ∨
      status = .unknown then do
    setState .stopped
    pure (some (.goto status.toInt))
  else if hal = true ∧ status = .previousCommandPending then do
    setState .started
    pure (some (.goto status.toInt))
  else pure none

/-- The inner loop body of `audio_start_stream`, with the stack there. -/
def startRequest (hal : Bool) : Thread Shared (Option Exit) := do
  clearStatus
  clearResp
  request
  clearRecvd
  if ← awaitAck then
    lockAck
    let status ← read Shared.ackStatus
    clearStatus
    if status = .pending then
      clearRecvd
      unlockAck
      let status ← startPending hal
      startVerdict hal status
    else
      unlockAck
      startVerdict hal status
  else pure (some (.goto (-1)))

/-- The inner loop. -/
def startLoop (hal : Bool) : ℕ → Thread Shared (Option Exit)
  | 0 => pure none
  | n + 1 => do
      if ← testStack then
        match ← startRequest hal with
        | some exit => pure (some exit)
        | none => startLoop hal n
      else pure (some (.ret Ack.sktDisconnected.toInt))

/-- The check of the connection after the inner loop; nothing if it is still up. -/
def checkConnection : Thread Shared (Option Exit) := do
  clearStatus
  clearResp
  request
  clearRecvd
  if ← awaitAck then
    let status ← read Shared.ackStatus
    clearStatus
    if status = .success then pure none else pure (some (.ret (-1)))
  else pure (some (.goto (-1)))

/-- The outer loop.  When it is over the status is that of the last check. -/
def startLooper (hal : Bool) : ℕ → Thread Shared Exit
  | 0 => pure (.goto Ack.success.toInt)
  | n + 1 => do
      match ← startLoop hal STREAM_START_MAX_RETRY_COUNT with
      | some exit => pure exit
      | none => do
          match ← checkConnection with
          | some exit => pure exit
          | none => startLooper hal n

/-- `audio_start_stream`; `hal` is the property `persist.bt.a2dp.hal.implementation`. -/
def audio_start_stream (hal : Bool) : Thread Shared ℤ := do
  lock
  let state ← read Shared.state
  if state = .suspended then
    unlock
    pure (-1)
  else if hal = true ∧ state = .started then
    unlock
    pure 0
  else
    match ← startLooper hal STREAM_START_MAX_RETRY_LOOPER with
    | .goto status => do
        unlock
        pure status
    | .ret value => do
        unlock
        pure value

/-! ## Stopping and suspending -/

/-- What `audio_stop_stream` and `audio_suspend_stream` do until they have a status; nothing if no
acknowledgement has come.  If the first status is pending, `ack_lock` is unlocked. -/
def suspendRequest (juncture : Ack → Juncture) : Thread Shared (Option Ack) := do
  clearRecvd
  clearResp
  clearStatus
  request
  if ← awaitAck then
    lockAck
    let status ← takeStatus juncture
    if status = .pending then
      clearRecvd
      unlockAck
      let _ ← wait_for_stack_response
      let status ← read Shared.ackStatus
      clearStatus
      pure (some status)
    else pure (some status)
  else pure none

/-- `audio_stop_stream`. -/
def audio_stop_stream (hal : Bool) : Thread Shared ℤ := do
  lock
  if ← testStack then
    let state ← read Shared.state
    if state = .suspended then
      setState .stopped
      unlock
      pure (-1)
    else
      match ← suspendRequest .stopStatus with
      | none => do
          unlock
          pure (-1)
      | some status =>
          if succeeds hal status then do
            setState .standby
            unlock
            unlockAck
            pure 0
          else do
            setState .stopped
            unlock
            unlockAck
            pure (-1)
  else
    setState .stopped
    unlock
    pure (-1)

/-- `audio_suspend_stream`. -/
def audio_suspend_stream (hal : Bool) : Thread Shared ℤ := do
  lock
  if ← testStack then
    let state ← read Shared.state
    if state = .suspended then
      unlock
      pure (-1)
    else
      match ← suspendRequest (.suspendStatus hal) with
      | none => do
          unlock
          pure (-1)
      | some status =>
          if succeeds hal status then do
            unlock
            setState .suspended
            unlockAck
            pure 0
          else do
            unlock
            unlockAck
            pure (-1)
  else
    unlock
    pure (-1)

/-! ## The other calls -/

/-- `audio_stream_close`. -/
def audio_stream_close : Thread Shared ℤ := do
  lock
  let state ← read Shared.state
  if state = .started ∨ state = .stopping then
    if ← testStack then
      clearStatus
      clearResp
      request
      clearRecvd
      if ← read Shared.respReceived then
        unlock
        pure 0
      else
        let ackRet ← wait_for_stack_response
        let status ← read Shared.ackStatus
        unlock
        pure (if ackRet = CTRL_CHAN_RETRY_COUNT ∧ status = .unknown then -1 else 0)
    else
      unlock
      pure 0
  else
    unlock
    pure 0

/-- The loop of `audio_check_a2dp_ready`, in which the stack is asked with `ack_lock` held. -/
def readyLoop : ℕ → Thread Shared ℤ
  | 0 => do
      clearStatus
      unlock
      pure 0
  | n + 1 => do
      lockAck
      if ← testStack then
        clearStatus
        clearRecvd
        request
        unlockAck
        let ackRet ← wait_for_stack_response
        let status ← read Shared.ackStatus
        if status = .success then
          unlock
          pure 1
        else
          let ackRecvd ← read Shared.ackRecvd
          if ackRet = CTRL_CHAN_RETRY_COUNT ∧ ackRecvd = false then
            unlock
            pure 0
          else readyLoop n
      else
        unlockAck
        unlock
        pure 0

/-- `audio_check_a2dp_ready`. -/
def audio_check_a2dp_ready (hal : Bool) : Thread Shared ℤ := do
  lock
  let state ← read Shared.state
  if hal = true ∧ state = .suspended then
    unlock
    pure 0
  else readyLoop CHECK_A2DP_READY_MAX_COUNT

/-- A call of the control path, with the property as it finds it. -/
inductive Call
  | start (hal : Bool)
  | stop (hal : Bool)
  | suspend (hal : Bool)
  | close
  | checkReady (hal : Bool)
  deriving DecidableEq, Repr

/-- The program of a call. -/
def Call.thread : Call → Thread Shared ℤ
  | .start hal => audio_start_stream hal
  | .stop hal => audio_stop_stream hal
  | .suspend hal => audio_suspend_stream hal
  | .close => audio_stream_close
  | .checkReady hal => audio_check_a2dp_ready hal

/-- A call returns. -/
def returns : Thread Shared Unit :=
  modify fun s => if s.lock = 0 ∧ s.ackLock = false then s else s.fault .leak

/-- The audio thread: calls one after another. -/
def audioThread : List Call → Thread Shared (List ℤ)
  | [] => pure []
  | call :: calls => do
      let r ← call.thread
      returns
      let rs ← audioThread calls
      pure (r :: rs)

end Bluetooth.A2dp.Locks
