import OcnDevice.Gps.LocHeap

/-!
# The timers of the GPS utilities

Three kinds of threads share the timers.  Clients call `LocTimer::start` and `stop`, which post
to one message queue.  The poll thread waits for the timer fd of a container, and when it has
expired disarms it, takes it off the poll and posts a message.  The message thread owns the heap
of each container, sets the fd to the time of the heap's top, and calls the clients back.

A step here is what no other thread can see half done.  A client operation is one step, since it
holds the lock of the timer, and so is the `stop` that the message thread makes for an expired
timer.  System calls on the fd are steps of their own: between any two of them the other threads
go on.  `pc` is where the message thread is inside the message it processes, and `events` and
`phase` are where the poll thread is among the events that `epoll_wait` has returned.

The two containers are that of the timers (`false`) and that of the alarms (`true`).  An fd is
armed by a time and disarmed by time zero; it is ready from that time on until it is set again.
-/

namespace Gps.Timer

/-! ## Time -/

/-- `struct timespec`, normalized. -/
structure Timespec where
  tv_sec : ℕ
  tv_nsec : ℕ
  tv_nsec_lt : tv_nsec < 1000000000
  deriving DecidableEq

namespace Timespec

/-- The nanoseconds. -/
def ns (t : Timespec) : ℕ := t.tv_sec * 1000000000 + t.tv_nsec

/-- Time zero, which disarms. -/
def zero : Timespec := ⟨0, 0, by decide⟩

/-- The time some milliseconds later, as `LocTimer::start` computes it. -/
def later (t : Timespec) (timeOutInMs : ℕ) : Timespec :=
  let sec := t.tv_sec + timeOutInMs / 1000
  let nsec := t.tv_nsec + timeOutInMs % 1000 * 1000000
  if h : 1000000000 ≤ nsec then
    ⟨sec + nsec / 1000000000, nsec % 1000000000, Nat.mod_lt _ (by decide)⟩
  else ⟨sec, nsec, not_le.mp h⟩

lemma ns_later (t : Timespec) (timeOutInMs : ℕ) :
    (t.later timeOutInMs).ns = t.ns + timeOutInMs * 1000000 := by
  simp only [later, ns]
  split_ifs <;> dsimp only <;> omega

/-- `LocTimerDelegate::ranks` for two times: an earlier time ranks higher.  The difference of two
times since the same boot fits the `int` of the source. -/
def ranks (t u : Timespec) : ℤ :=
  let rank : ℤ := u.tv_sec - t.tv_sec
  if rank = 0 then u.tv_nsec - t.tv_nsec else rank

lemma ranks_pos {t u : Timespec} : 0 < t.ranks u ↔ t.ns < u.ns := by
  have ht := t.tv_nsec_lt
  have hu := u.tv_nsec_lt
  simp only [ranks, ns]
  split_ifs <;> omega

end Timespec

/-! ## Timers and containers -/

/-- What the constructor of `LocTimerDelegate` sets and nobody changes: the object, the client and
the container it was made for, and its time. -/
structure LocTimerDelegate where
  addr : ℕ
  client : ℕ
  wakeOnExpire : Bool
  mFutureTime : Timespec
  deriving DecidableEq

instance : LocRankable LocTimerDelegate := ⟨fun a b => a.mFutureTime.ranks b.mFutureTime⟩

lemma outRanks_iff {a b : LocTimerDelegate} :
    outRanks a b = true ↔ a.mFutureTime.ns < b.mFutureTime.ns := by
  rw [outRanks, decide_eq_true_eq]
  exact Timespec.ranks_pos

lemma outRanks_iff_not {a b : LocTimerDelegate} :
    outRanks a b = false ↔ b.mFutureTime.ns ≤ a.mFutureTime.ns := by
  rw [← Bool.not_eq_true, outRanks_iff, not_lt]

instance : RankOrder LocTimerDelegate where
  asymm := by
    intro a b h
    rw [outRanks_iff] at h
    exact outRanks_iff_not.mpr h.le
  trans := by
    intro a b c h h'
    rw [outRanks_iff_not] at h h' ⊢
    exact h'.trans h

/-- A container: its heap, the time that its fd is set to, and whether the fd is polled. -/
structure LocTimerContainer where
  heap : LocHeapNode LocTimerDelegate
  fd : Timespec
  polled : Bool

/-- The messages, under the names of their structures. -/
inductive LocMsg
  | timerPush (timer : LocTimerDelegate)
  | timerRemove (timer : LocTimerDelegate)
  | timerExpire (container : Bool)
  deriving DecidableEq

/-- Where the message thread is.  `del` is the timer that is deleted when the fd has been set, in
`MsgTimerRemove`; `now` is the clock that `MsgTimerExpire` has read. -/
inductive Pc
  /-- at the next message -/
  | idle
  /-- in `updateSoonestTime`, before `addPoll` -/
  | addPoll (container : Bool) (time : Timespec) (del : Option LocTimerDelegate)
  /-- in `updateSoonestTime`, before `removePoll` -/
  | removePoll (container : Bool) (del : Option LocTimerDelegate)
  /-- in `updateSoonestTime`, before `timerfd_settime` -/
  | setTime (container : Bool) (time : Timespec) (del : Option LocTimerDelegate)
  /-- in `MsgTimerRemove`, before `delete` -/
  | delete (timer : LocTimerDelegate)
  /-- in `LocTimerDelegate::expire`, before `mClient` is read -/
  | expire (container : Bool) (now : Timespec) (timer : LocTimerDelegate)
  /-- there, before `client->stop ()` -/
  | stopClient (container : Bool) (now : Timespec) (timer : LocTimerDelegate)
  /-- there, before `client->timeOutCallback ()`, for the timer that was stopped -/
  | timeOutCallback (container : Bool) (now : Timespec) (timer : LocTimerDelegate)
  /-- in `MsgTimerExpire`, before `popIfOutRanks` -/
  | popIfOutRanks (container : Bool) (now : Timespec)
  deriving DecidableEq

/-- What the poll thread has done for the first of its events. -/
inductive Phase
  | woken
  | disarmed
  | removed
  deriving DecidableEq

/-- All that the threads share, and where they are. -/
structure TimerSys where
  clock : Timespec
  container : Bool → LocTimerContainer
  /-- `LocTimer::mTimer` of each client -/
  mTimer : ℕ → Option LocTimerDelegate
  /-- whether `mClient` of a delegate is still set -/
  mClient : ℕ → Bool
  /-- whether `mContainer` of a delegate is still set -/
  mContainer : ℕ → Bool
  fresh : ℕ
  msgs : List LocMsg
  pc : Pc
  events : List Bool
  phase : Phase

/-- What happens, as far as it is of interest. -/
inductive Action
  | tick
  | start (client : ℕ) (timer : Option LocTimerDelegate)
  | stop (client : ℕ) (timer : Option LocTimerDelegate)
  | epollWait (events : List Bool)
  | poll
  | proc (msg : LocMsg)
  | msg
  | stopClient (timer : Option LocTimerDelegate)
  | timeOutCallback (timer : LocTimerDelegate) (now : Timespec)
  | delete (timer : LocTimerDelegate)
  deriving DecidableEq

namespace TimerSys

/-- Nothing was started yet. -/
def init : TimerSys where
  clock := .zero
  container := fun _ => ⟨.null, .zero, false⟩
  mTimer := fun _ => none
  mClient := fun _ => false
  mContainer := fun _ => false
  fresh := 0
  msgs := []
  pc := .idle
  events := []
  phase := .woken

variable (s : TimerSys)

/-! ## Clients -/

/-- `sendMsg`. -/
def sendMsg (msg : LocMsg) : TimerSys := { s with msgs := s.msgs ++ [msg] }

/-- `LocTimer::start`, which has read the clock: the delegate that was made, if any. -/
def start (client : ℕ) (read : Timespec) (timeOutInMs : ℕ) (wakeOnExpire : Bool) :
    TimerSys × Option LocTimerDelegate :=
  match s.mTimer client with
  | some _ => (s, none)
  | none =>
      let timer := ⟨s.fresh, client, wakeOnExpire, read.later timeOutInMs⟩
      ({ s with
          mTimer := Function.update s.mTimer client (some timer)
          mClient := Function.update s.mClient timer.addr true
          mContainer := Function.update s.mContainer timer.addr true
          fresh := s.fresh + 1 }.sendMsg (.timerPush timer), some timer)

/-- `destroyLocked`. -/
def destroyLocked (timer : LocTimerDelegate) : TimerSys :=
  let s' := { s with mClient := Function.update s.mClient timer.addr false }
  if s.mContainer timer.addr then
    { s' with
      mContainer := Function.update s.mContainer timer.addr false }.sendMsg (.timerRemove timer)
  else s'

/-- `LocTimer::stop`: the delegate that was stopped, if any. -/
def stop (client : ℕ) : TimerSys × Option LocTimerDelegate :=
  match s.mTimer client with
  | none => (s, none)
  | some timer =>
      ({ s with mTimer := Function.update s.mTimer client none }.destroyLocked timer, some timer)

/-! ## The message thread -/

/-- Change a container. -/
def setContainer (c : Bool) (x : LocTimerContainer) : TimerSys :=
  { s with container := Function.update s.container c x }

end TimerSys

/-- The end of `updateSoonestTime`: the message is done, but for the timer to be deleted. -/
def Pc.after : Option LocTimerDelegate → Pc
  | none => .idle
  | some timer => .delete timer

/-- `updateSoonestTime`, up to its first system call. -/
def LocTimerContainer.updateSoonestTime (x : LocTimerContainer) (c : Bool)
    (priorTop del : Option LocTimerDelegate) : Pc :=
  let curTop := x.heap.peek
  if curTop = priorTop then .after del
  else
    match curTop with
    | none => .removePoll c del
    | some top =>
        if priorTop.all fun prior => outRanks top prior then .addPoll c top.mFutureTime del
        else .after del

namespace TimerSys

variable (s : TimerSys)

/-- `proc` of a message, up to its first system call or its first timer that is expired. -/
def proc : LocMsg → TimerSys
  | .timerPush timer =>
      let c := timer.wakeOnExpire
      let x := { s.container c with heap := (s.container c).heap.push timer }
      { s.setContainer c x with pc := x.updateSoonestTime c (s.container c).heap.peek none }
  | .timerRemove timer =>
      let c := timer.wakeOnExpire
      let removed := (s.container c).heap.remove timer
      let x := { s.container c with heap := removed.1 }
      { s.setContainer c x with
        pc := if (s.container c).heap.peek = removed.2 then x.updateSoonestTime c none (some timer)
          else .delete timer }
  | .timerExpire c =>
      let popped := (s.container c).heap.pop
      let x := { s.container c with heap := popped.1 }
      { s.setContainer c x with
        pc := match popped.2 with
          | some timer => .expire c s.clock timer
          | none => x.updateSoonestTime c none none }

/-- `popIfOutRanks`: the top is popped unless now outranks it. -/
def popIfOutRanks (c : Bool) (now : Timespec) :
    LocHeapNode LocTimerDelegate × Option LocTimerDelegate :=
  match (s.container c).heap.peek with
  | none => ((s.container c).heap, none)
  | some top =>
      if 0 < now.ranks top.mFutureTime then ((s.container c).heap, none)
      else (s.container c).heap.pop

/-- The next step of the message thread. -/
def msgThread : Option (TimerSys × Action) :=
  match s.pc with
  | .idle =>
      match s.msgs with
      | [] => none
      | msg :: rest => some ({ s with msgs := rest }.proc msg, .proc msg)
  | .addPoll c time del =>
      some ({ s.setContainer c { s.container c with polled := true } with
        pc := .setTime c time del }, .msg)
  | .removePoll c del =>
      some ({ s.setContainer c { s.container c with polled := false } with
        pc := .setTime c .zero del }, .msg)
  | .setTime c time del =>
      some ({ s.setContainer c { s.container c with fd := time } with pc := .after del }, .msg)
  | .delete timer => some ({ s with pc := .idle }, .delete timer)
  | .expire c now timer =>
      some ({ s with pc := if s.mClient timer.addr then .stopClient c now timer
        else .popIfOutRanks c now }, .msg)
  | .stopClient c now timer =>
      let stopped := s.stop timer.client
      some ({ stopped.1 with pc := match stopped.2 with
        | some timer' => .timeOutCallback c now timer'
        | none => .popIfOutRanks c now }, .stopClient stopped.2)
  | .timeOutCallback c now timer =>
      some ({ s with pc := .popIfOutRanks c now }, .timeOutCallback timer now)
  | .popIfOutRanks c now =>
      let popped := s.popIfOutRanks c now
      let x := { s.container c with heap := popped.1 }
      some ({ s.setContainer c x with pc := match popped.2 with
        | some timer => .expire c now timer
        | none => x.updateSoonestTime c none none }, .msg)

/-! ## The poll thread -/

/-- The fd is reported by `epoll_wait`. -/
def Ready (c : Bool) : Prop :=
  (s.container c).polled = true ∧ (s.container c).fd.ns ≠ 0 ∧ (s.container c).fd.ns ≤ s.clock.ns

instance (c : Bool) : Decidable (s.Ready c) :=
  inferInstanceAs (Decidable (_ ∧ _ ∧ _))

/-- The next step of `LocTimerContainer::expire`, for the first event. -/
def pollThread : Option (TimerSys × Action) :=
  match s.events with
  | [] => none
  | c :: rest =>
      match s.phase with
      | .woken =>
          some ({ s.setContainer c { s.container c with fd := .zero } with phase := .disarmed },
            .poll)
      | .disarmed =>
          some ({ s.setContainer c { s.container c with polled := false } with phase := .removed },
            .poll)
      | .removed =>
          some ({ s.sendMsg (.timerExpire c) with events := rest, phase := .woken }, .poll)

end TimerSys

/-! ## Steps -/

/-- The choices: which thread goes on, and with what. -/
inductive Input
  | tick (clock : Timespec)
  | start (client : ℕ) (read : Timespec) (timeOutInMs : ℕ) (wakeOnExpire : Bool)
  | stop (client : ℕ)
  | epollWait (events : List Bool)
  | poll
  | msg

/-- The next state, if the input is possible.  The clock does not go back and is not zero when it is
read, and `epoll_wait` returns some of the fds that are ready. -/
def TimerSys.next (s : TimerSys) : Input → Option (TimerSys × Action)
  | .tick clock => if s.clock.ns ≤ clock.ns then some ({ s with clock := clock }, .tick) else none
  | .start client read timeOutInMs wakeOnExpire =>
      if 0 < read.ns ∧ read.ns ≤ s.clock.ns then
        let started := s.start client read timeOutInMs wakeOnExpire
        some (started.1, .start client started.2)
      else none
  | .stop client =>
      let stopped := s.stop client
      some (stopped.1, .stop client stopped.2)
  | .epollWait events =>
      if s.events = [] ∧ events ≠ [] ∧ events.Nodup ∧ ∀ c ∈ events, s.Ready c then
        some ({ s with events := events }, .epollWait events)
      else none
  | .poll => s.pollThread
  | .msg => s.msgThread

/-- One step of the timers. -/
def TimerSys.Step (s : TimerSys) (a : Action) (t : TimerSys) : Prop :=
  ∃ i, s.next i = some (t, a)

end Gps.Timer
