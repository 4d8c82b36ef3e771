import OcnDevice.Gps.Timer.Kept

/-!
# Timers that expire early

`MsgTimerExpire` pops the first timer whatever its time, and only the following ones if they are due.
But the timer for which the poll thread woke may be gone by then: a client has stopped it, and its
removal was queued before.  So the first timer is the next one, which is not due
(`next_timer_is_early`).

A second way is a client that stops its expired timer and starts it again between the read of
`mClient` and `client->stop ()`: that stops the new timer and calls back for it.

Where neither happens (`TimelyStep`), no callback is early (`no_callback_is_early`).
-/

namespace Gps.Timer

open LocHeapNode

/-- The first timer of a message is due or was stopped, and a client that is stopped for an expired
timer has not started another one, unless that is due too. -/
def Action.timely (s : TimerSys) : Action → Bool
  | .proc (.timerExpire c) => (s.container c).heap.peek.all fun timer =>
      timer.mFutureTime.ns ≤ s.clock.ns ∨ s.mClient timer.addr = false
  | .stopClient _ =>
      match s.pc with
      | .stopClient _ now timer => (s.mTimer timer.client).all fun timer' =>
          timer' = timer ∨ timer'.mFutureTime.ns ≤ now.ns
      | _ => true
  | _ => true

/-- A timely step. -/
def TimelyStep (s : TimerSys) (a : Action) (t : TimerSys) : Prop := s.Step a t ∧ a.timely s = true

/-! ## The invariant -/

/-- What the message thread is about to call back is due. -/
def Pc.Due (mClient : ℕ → Bool) (fresh : ℕ) : Pc → Prop
  | .expire _ now timer => timer.addr < fresh ∧
      (timer.mFutureTime.ns ≤ now.ns ∨ mClient timer.addr = false)
  | .stopClient _ now timer => timer.mFutureTime.ns ≤ now.ns
  | .timeOutCallback _ now timer => timer.mFutureTime.ns ≤ now.ns
  | _ => True

section Step

variable {s t : TimerSys} {a : Action} {as : List Action} {c : Bool} {p : Pc}
  {mClient mClient' : ℕ → Bool} {fresh fresh' : ℕ}

/-- A client that is not set stays so. -/
lemma Pc.Due.mono (h : p.Due mClient fresh) (hfresh : fresh ≤ fresh')
    (hclient : ∀ addr < fresh, mClient addr = false → mClient' addr = false) :
    p.Due mClient' fresh' := by
  cases p with
  | expire c now d =>
      obtain ⟨hlt, hdue⟩ := h
      exact ⟨hlt.trans_le hfresh, hdue.imp_right (hclient _ hlt)⟩
  | stopClient c now d => exact h
  | timeOutCallback c now d => exact h
  | _ => trivial

lemma due_after {del : Option LocTimerDelegate} : (Pc.after del).Due mClient fresh := by
  cases del <;> trivial

lemma due_update {x : LocTimerContainer} {prior del : Option LocTimerDelegate} :
    (x.updateSoonestTime c prior del).Due mClient fresh := by
  rcases updateSoonestTime_cases x c prior del with
    ⟨h, _⟩ | ⟨h, _⟩ | ⟨top, h, _⟩ <;> rw [h]
  · exact due_after
  · trivial
  · trivial

/-- What is at the top of a heap was started. -/
lemma Kept.addr_lt (h : Kept as s) {top : LocTimerDelegate}
    (htop : (s.container c).heap.peek = some top) : top.addr < s.fresh :=
  h.owned.fresh top (h.placed.held_started c top (peek_mem htop))

/-- What a timely message pops first. -/
lemma timely_top {top : LocTimerDelegate} (htop : (s.container c).heap.peek = some top)
    (h : (Action.proc (.timerExpire c)).timely s = true) :
    top.mFutureTime.ns ≤ s.clock.ns ∨ s.mClient top.addr = false := by
  rw [Action.timely, htop, Option.all_some, decide_eq_true_eq] at h
  exact h

/-- What is popped for a message is due, or was stopped. -/
lemma due_proc (hk : Kept as s) {msg : LocMsg} (rest : List LocMsg)
    (htimely : (Action.proc msg).timely s = true) :
    ({ s with msgs := rest }.proc msg).pc.Due s.mClient s.fresh := by
  set s' := { s with msgs := rest }
  cases msg with
  | timerPush d => exact due_update
  | timerRemove d =>
      rcases eq_or_ne (s'.container d.wakeOnExpire).heap.peek
          ((s'.container d.wakeOnExpire).heap.remove d).2 with heq | hne
      · have hp : (s'.proc (.timerRemove d)).pc = _ := if_pos heq
        rw [hp]
        exact due_update
      · have hp : (s'.proc (.timerRemove d)).pc = _ := if_neg hne
        rw [hp]
        trivial
  | timerExpire c =>
      cases hpop : (s'.container c).heap.pop.2 with
      | none =>
          rw [TimerSys.proc_timerExpire_none hpop]
          exact due_update
      | some d =>
          have htop : (s.container c).heap.peek = some d := pop_snd.symm.trans hpop
          rw [TimerSys.proc_timerExpire_some hpop]
          exact ⟨hk.addr_lt htop, timely_top htop htimely⟩

/-- **Timely steps keep due what the message thread is about to call back.** -/
lemma due_step (hk : Kept as s) (h : s.pc.Due s.mClient s.fresh) (hst : s.Step a t)
    (htimely : a.timely s = true) : t.pc.Due t.mClient t.fresh := by
  cases hst.cases with
  | tick hle => exact h
  | @start k ms read wake h0 hle =>
      cases hT : s.mTimer k with
      | some d =>
          rw [TimerSys.start_some hT]
          exact h
      | none =>
          rw [TimerSys.start_none hT]
          refine h.mono (Nat.le_succ _) fun addr hlt hfalse => ?_
          exact (Function.update_of_ne hlt.ne ..).trans hfalse
  | @stop k =>
      cases hT : s.mTimer k with
      | none =>
          rw [TimerSys.stop_none hT]
          exact h
      | some d =>
          rw [TimerSys.stop_some hT (hk.owned.contained k d hT)]
          refine h.mono le_rfl fun addr _ hfalse => ?_
          rcases eq_or_ne addr d.addr with rfl | hne
          · exact Function.update_self ..
          · exact (Function.update_of_ne hne ..).trans hfalse
  | epollWait hidle hready => exact h
  | disarm hev => exact h
  | unpoll hev => exact h
  | post hev => exact h
  | @proc msg rest hpc hmsgs =>
      have hdue := due_proc hk rest htimely
      cases msg <;> exact hdue
  | addPoll hpc => trivial
  | removePoll hpc => trivial
  | setTime hpc => exact due_after
  | delete hpc => trivial
  | attached hpc hclient =>
      rw [hpc] at h
      exact h.2.resolve_right (by rw [hclient]; exact Bool.noConfusion)
  | detached hpc hclient => trivial
  | stopNone hpc hT => trivial
  | @stopSome c now d d' hpc hT =>
      rw [hpc] at h
      simp only [Action.timely, hpc, hT, Option.all_some] at htimely
      rcases of_decide_eq_true htimely with rfl | hdue
      · exact h
      · exact hdue
  | timeOutCallback hpc => trivial
  | @popSome c now top hpc htop hdue => exact ⟨hk.addr_lt htop, Or.inl hdue⟩
  | popNone hpc => exact due_update

/-- A callback is that of the timer that the message thread was about to call back. -/
lemma callback_due (h : s.pc.Due s.mClient s.fresh) {timer : LocTimerDelegate} {now : Timespec}
    (hst : s.Step (.timeOutCallback timer now) t) : timer.mFutureTime.ns ≤ now.ns := by
  cases hst.cases with
  | timeOutCallback hpc =>
      rw [hpc] at h
      exact h

/-- What holds behind every run of timely steps. -/
structure OnTime (as : List Action) (s : TimerSys) : Prop where
  kept : Kept as s
  due : s.pc.Due s.mClient s.fresh
  called : ∀ timer now, .timeOutCallback timer now ∈ as → timer.mFutureTime.ns ≤ now.ns

lemma OnTime.step (h : OnTime as s) (hst : TimelyStep s a t) : OnTime (as ++ [a]) t := by
  refine ⟨h.kept.step hst.1, due_step h.kept h.due hst.1 hst.2, fun timer now hmem => ?_⟩
  rcases List.mem_append.mp hmem with hmem | hmem
  · exact h.called timer now hmem
  · cases List.mem_singleton.mp hmem
    exact callback_due h.due hst.1

end Step

/-! ## The result -/

/-- **No callback is early**, in every run of timely steps: the clock that was read in the message has
reached the time of the timer that is called back. -/
theorem no_callback_is_early {as : List Action} {s : TimerSys} (hr : Run TimelyStep .init as s) :
    ∀ timer now, .timeOutCallback timer now ∈ as → timer.mFutureTime.ns ≤ now.ns :=
  (hr.history (P := OnTime) (fun _ _ _ _ h hst => h.step hst)
    ⟨kept_init, trivial, fun _ _ h => by cases h⟩).called

/-- The next state, if the step is timely. -/
def TimerSys.nextTimely (s : TimerSys) (i : Input) : Option (TimerSys × Action) :=
  (s.next i).filter fun q => q.2.timely s

lemma timelyStep_of_next {s : TimerSys} {i : Input} {q : TimerSys × Action}
    (h : s.nextTimely i = some q) : TimelyStep s q.2 q.1 := by
  obtain ⟨hq, htimely⟩ := Option.filter_eq_some_iff.mp h
  exact ⟨⟨i, hq⟩, htimely⟩

/-- **A timer is called back nine seconds early**, since the one before it was stopped when the poll
thread had woken for it. -/
theorem next_timer_is_early :
    ¬∀ (s : TimerSys) (as : List Action), Run TimerSys.Step .init as s →
      ∀ timer now, .timeOutCallback timer now ∈ as → timer.mFutureTime.ns ≤ now.ns := by
  intro hall
  have hrun : ((execBy TimerSys.next .init
      [.tick ⟨1, 0, by decide⟩, .start 1 ⟨1, 0, by decide⟩ 1000 false,
        .start 2 ⟨1, 0, by decide⟩ 10000 false, .msg, .msg, .msg, .msg, .tick ⟨2, 0, by decide⟩,
        .epollWait [false], .stop 1, .poll, .poll, .poll, .msg, .msg, .msg, .msg, .msg, .msg, .msg,
        .msg]).map fun p => decide (.timeOutCallback ⟨1, 2, false, ⟨11, 0, by decide⟩⟩
          ⟨2, 0, by decide⟩ ∈ p.2)) = some true := by
    decide +kernel
  obtain ⟨p, hp, hdec⟩ := Option.map_eq_some_iff.mp hrun
  have hr : Run TimerSys.Step .init p.2 p.1 := Run.of_execBy (fun _ i _ h => ⟨i, h⟩) hp
  exact absurd (hall p.1 p.2 hr _ _ (of_decide_eq_true hdec)) (by decide)

/-- A timer expires and is called back. -/
theorem no_callback_is_early_one :
    ∃ p, execBy TimerSys.nextTimely .init
      [.tick ⟨1, 0, by decide⟩, .start 1 ⟨1, 0, by decide⟩ 1000 false, .msg, .msg, .msg,
        .tick ⟨3, 5, by decide⟩, .epollWait [false], .poll, .poll, .poll, .msg, .msg, .msg,
        .msg] = some p ∧
      ∀ timer now, .timeOutCallback timer now ∈ p.2 → timer.mFutureTime.ns ≤ now.ns := by
  have hrun : (execBy TimerSys.nextTimely .init
      [.tick ⟨1, 0, by decide⟩, .start 1 ⟨1, 0, by decide⟩ 1000 false, .msg, .msg, .msg,
        .tick ⟨3, 5, by decide⟩, .epollWait [false], .poll, .poll, .poll, .msg, .msg, .msg,
        .msg]).isSome = true := by
    decide +kernel
  obtain ⟨p, hp⟩ := Option.isSome_iff_exists.mp hrun
  have hr : Run TimelyStep .init p.2 p.1 :=
    Run.of_execBy (fun _ _ _ h => timelyStep_of_next h) hp
  exact ⟨p, hp, no_callback_is_early hr⟩

end Gps.Timer
