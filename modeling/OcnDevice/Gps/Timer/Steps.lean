import OcnDevice.Core.Run
import OcnDevice.Gps.Timer.Model

/-!
# What a step of the timers can do
-/

namespace Gps.Timer

open LocHeapNode

variable {s t : TimerSys} {a : Action} {c : Bool} {timer : LocTimerDelegate}

/-- The steps, each with the state it leads to. -/
inductive StepCase (s : TimerSys) : Action → TimerSys → Prop
  | tick {clock : Timespec} (h : s.clock.ns ≤ clock.ns) :
      StepCase s .tick { s with clock := clock }
  | start {client ms : ℕ} {read : Timespec} {wake : Bool} (h0 : 0 < read.ns)
      (hle : read.ns ≤ s.clock.ns) :
      StepCase s (.start client (s.start client read ms wake).2) (s.start client read ms wake).1
  | stop {client : ℕ} : StepCase s (.stop client (s.stop client).2) (s.stop client).1
  | epollWait {events : List Bool} (hidle : s.events = []) (hready : ∀ c ∈ events, s.Ready c) :
      StepCase s (.epollWait events) { s with events := events }
  | disarm {c : Bool} {rest : List Bool} (h : s.events = c :: rest) (hphase : s.phase = .woken) :
      StepCase s .poll
        { s.setContainer c { s.container c with fd := .zero } with phase := .disarmed }
  | unpoll {c : Bool} {rest : List Bool} (h : s.events = c :: rest)
      (hphase : s.phase = .disarmed) :
      StepCase s .poll
        { s.setContainer c { s.container c with polled := false } with phase := .removed }
  | post {c : Bool} {rest : List Bool} (h : s.events = c :: rest) (hphase : s.phase = .removed) :
      StepCase s .poll { s.sendMsg (.timerExpire c) with events := rest, phase := .woken }
  | proc {msg : LocMsg} {rest : List LocMsg} (hpc : s.pc = .idle) (h : s.msgs = msg :: rest) :
      StepCase s (.proc msg) ({ s with msgs := rest }.proc msg)
  | addPoll {c : Bool} {time : Timespec} {del : Option LocTimerDelegate}
      (hpc : s.pc = .addPoll c time del) :
      StepCase s .msg { s.setContainer c { s.container c with polled := true } with
        pc := .setTime c time del }
  | removePoll {c : Bool} {del : Option LocTimerDelegate} (hpc : s.pc = .removePoll c del) :
      StepCase s .msg { s.setContainer c { s.container c with polled := false } with
        pc := .setTime c .zero del }
  | setTime {c : Bool} {time : Timespec} {del : Option LocTimerDelegate}
      (hpc : s.pc = .setTime c time del) :
      StepCase s .msg { s.setContainer c { s.container c with fd := time } with pc := .after del }
  | delete {timer : LocTimerDelegate} (hpc : s.pc = .delete timer) :
      StepCase s (.delete timer) { s with pc := .idle }
  | attached {c : Bool} {now : Timespec} {timer : LocTimerDelegate}
      (hpc : s.pc = .expire c now timer) (h : s.mClient timer.addr = true) :
      StepCase s .msg { s with pc := .stopClient c now timer }
  | detached {c : Bool} {now : Timespec} {timer : LocTimerDelegate}
      (hpc : s.pc = .expire c now timer) (h : s.mClient timer.addr = false) :
      StepCase s .msg { s with pc := .popIfOutRanks c now }
  | stopNone {c : Bool} {now : Timespec} {timer : LocTimerDelegate}
      (hpc : s.pc = .stopClient c now timer) (h : s.mTimer timer.client = none) :
      StepCase s (.stopClient none) { s with pc := .popIfOutRanks c now }
  | stopSome {c : Bool} {now : Timespec} {timer timer' : LocTimerDelegate}
      (hpc : s.pc = .stopClient c now timer) (h : s.mTimer timer.client = some timer') :
      StepCase s (.stopClient (some timer'))
        { (s.stop timer.client).1 with pc := .timeOutCallback c now timer' }
  | timeOutCallback {c : Bool} {now : Timespec} {timer : LocTimerDelegate}
      (hpc : s.pc = .timeOutCallback c now timer) :
      StepCase s (.timeOutCallback timer now) { s with pc := .popIfOutRanks c now }
  | popSome {c : Bool} {now : Timespec} {top : LocTimerDelegate}
      (hpc : s.pc = .popIfOutRanks c now) (htop : (s.container c).heap.peek = some top)
      (hdue : top.mFutureTime.ns ≤ now.ns) :
      StepCase s .msg
        { s.setContainer c { s.container c with heap := (s.container c).heap.pop.1 } with
          pc := .expire c now top }
  | popNone {c : Bool} {now : Timespec} (hpc : s.pc = .popIfOutRanks c now) :
      StepCase s .msg { s with pc := (s.container c).updateSoonestTime c none none }

lemma TimerSys.container_setContainer {x : LocTimerContainer} :
    (s.setContainer c x).container c = x :=
  Function.update_self ..

lemma TimerSys.container_setContainer_of_ne {c' : Bool} {x : LocTimerContainer} (h : c' ≠ c) :
    (s.setContainer c x).container c' = s.container c' :=
  Function.update_of_ne h ..

lemma TimerSys.setContainer_self : s.setContainer c (s.container c) = s := by
  rw [setContainer, Function.update_eq_self]

lemma TimerSys.proc_timerExpire_none (h : (s.container c).heap.pop.2 = none) :
    (s.proc (.timerExpire c)).pc = LocTimerContainer.updateSoonestTime
      { s.container c with heap := (s.container c).heap.pop.1 } c none none := by
  simp only [proc, h]

lemma TimerSys.proc_timerExpire_some (h : (s.container c).heap.pop.2 = some timer) :
    (s.proc (.timerExpire c)).pc = .expire c s.clock timer := by
  simp only [proc, h]

/-- **Every step is one of these.** -/
lemma TimerSys.Step.cases (h : s.Step a t) : StepCase s a t := by
  obtain ⟨i, h⟩ := h
  cases i with
  | tick clock =>
      simp only [next] at h
      split_ifs at h with hle
      cases h
      exact .tick hle
  | start client read ms wake =>
      simp only [next] at h
      split_ifs at h with hread
      cases h
      exact .start hread.1 hread.2
  | stop client =>
      cases h
      exact .stop
  | epollWait events =>
      simp only [next] at h
      split_ifs at h with hevents
      cases h
      exact .epollWait hevents.1 hevents.2.2.2
  | poll =>
      simp only [next, pollThread] at h
      cases hevents : s.events with
      | nil => simp [hevents] at h
      | cons c rest =>
          simp only [hevents] at h
          cases hphase : s.phase with
          | woken =>
              simp only [hphase] at h
              cases h
              exact .disarm hevents hphase
          | disarmed =>
              simp only [hphase] at h
              cases h
              exact .unpoll hevents hphase
          | removed =>
              simp only [hphase] at h
              cases h
              exact .post hevents hphase
  | msg =>
      simp only [next, msgThread] at h
      cases hpc : s.pc with
      | idle =>
          simp only [hpc] at h
          cases hmsgs : s.msgs with
          | nil => simp [hmsgs] at h
          | cons msg rest =>
              simp only [hmsgs] at h
              cases h
              exact .proc hpc hmsgs
      | addPoll c time del =>
          simp only [hpc] at h
          cases h
          exact .addPoll hpc
      | removePoll c del =>
          simp only [hpc] at h
          cases h
          exact .removePoll hpc
      | setTime c time del =>
          simp only [hpc] at h
          cases h
          exact .setTime hpc
      | delete timer =>
          simp only [hpc] at h
          cases h
          exact .delete hpc
      | expire c now timer =>
          simp only [hpc] at h
          cases hclient : s.mClient timer.addr with
          | true =>
              simp only [hclient, if_true] at h
              cases h
              exact .attached hpc hclient
          | false =>
              simp only [hclient] at h
              cases h
              exact .detached hpc hclient
      | stopClient c now timer =>
          simp only [hpc] at h
          cases htimer : s.mTimer timer.client with
          | none =>
              have hstop : s.stop timer.client = (s, none) := by rw [stop, htimer]
              simp only [hstop] at h
              cases h
              exact .stopNone hpc htimer
          | some timer' =>
              have hstop : (s.stop timer.client).2 = some timer' := by rw [stop, htimer]
              simp only [hstop] at h
              cases h
              exact .stopSome hpc htimer
      | timeOutCallback c now timer =>
          simp only [hpc] at h
          cases h
          exact .timeOutCallback hpc
      | popIfOutRanks c now =>
          have hsame : s.setContainer c { s.container c with heap := (s.container c).heap } = s :=
            setContainer_self
          simp only [hpc, popIfOutRanks] at h
          cases htop : (s.container c).heap.peek with
          | none =>
              simp only [htop] at h
              cases h
              rw [hsame]
              exact .popNone hpc
          | some top =>
              simp only [htop] at h
              split_ifs at h with hdue
              · cases h
                rw [hsame]
                exact .popNone hpc
              · have hpop : (s.container c).heap.pop.2 = some top := pop_snd.trans htop
                simp only [hpop] at h
                cases h
                exact .popSome hpc htop (not_lt.mp fun hlt => hdue (Timespec.ranks_pos.mpr hlt))

end Gps.Timer
