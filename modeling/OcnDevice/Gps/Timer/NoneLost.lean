import OcnDevice.Gps.Timer.Armed

/-!
# No timer is lost

The message thread alone gets to the end of its queue (`drains`): each of its steps decreases
`TimerSys.work`, where a timer in the heap is worth the steps of its expiration and of the removal
that follows.  At the end of the queue the fd is armed for the heap (`Wakes`), and every timer that
was given up is deleted (`Kept`).
-/

namespace Gps.Timer

open LocHeapNode

/-! ## The message thread gets to the end -/

/-- The message thread has nothing to do. -/
def TimerSys.Drained (s : TimerSys) : Prop := s.msgs = [] ∧ s.pc = .idle

/-- A step of the message thread. -/
def Action.ofMsgThread : Action → Bool
  | .proc _ => true
  | .msg => true
  | .stopClient _ => true
  | .timeOutCallback _ _ => true
  | .delete _ => true
  | _ => false

/-- The steps that a message is worth, but for those of the timer that it pushes. -/
def LocMsg.work : LocMsg → ℕ
  | .timerPush _ => 11
  | .timerRemove _ => 4
  | .timerExpire _ => 3

/-- The steps to the end of the message, if no further timer is expired. -/
def Pc.work : Pc → ℕ
  | .idle => 0
  | .addPoll _ _ del => 2 + del.toList.length
  | .removePoll _ del => 2 + del.toList.length
  | .setTime _ _ del => 1 + del.toList.length
  | .delete _ => 1
  | .expire _ _ _ => 10
  | .stopClient _ _ _ => 9
  | .timeOutCallback _ _ _ => 4
  | .popIfOutRanks _ _ => 3

/-- The number of timers in the heaps. -/
def holds (held : Bool → Multiset LocTimerDelegate) : ℕ := (held false).card + (held true).card

/-- What is left to do for the message thread. -/
def TimerSys.work (s : TimerSys) : ℕ :=
  (s.msgs.map LocMsg.work).sum + s.pc.work + 8 * holds s.held

section Work

variable {s t : TimerSys} {a : Action} {as : List Action} {x : LocTimerContainer} {c : Bool}
  {prior del : Option LocTimerDelegate}

lemma work_after : (Pc.after del).work = del.toList.length := by
  cases del <;> rfl

lemma work_update : (x.updateSoonestTime c prior del).work ≤ 2 + del.toList.length := by
  rcases updateSoonestTime_cases x c prior del with
    ⟨h, _⟩ | ⟨h, _⟩ | ⟨top, h, _⟩ <;> rw [h]
  · rw [work_after]
    omega
  · exact le_refl _
  · exact le_refl _

/-- The number of timers when a heap has changed. -/
lemma holds_set (x : LocTimerContainer) :
    holds (s.setContainer c x).held + (s.held c).card = holds s.held + x.heap.elems.card := by
  rw [TimerSys.held_setContainer]
  cases c <;> simp [holds] <;> omega

/-- A pop takes one timer. -/
lemma card_pop {h : LocHeapNode LocTimerDelegate} {top : LocTimerDelegate}
    (htop : h.peek = some top) : h.elems.card = h.pop.1.elems.card + 1 := by
  rw [elems_pop htop, Multiset.card_add, Multiset.card_singleton]

lemma card_remove {h : LocHeapNode LocTimerDelegate} {d : LocTimerDelegate} :
    (h.remove d).1.elems.card ≤ h.elems.card := by
  rcases remove_cases (t := h) (x := d) with hc | ⟨_, hc⟩
  · rw [hc]
  · rw [hc, Multiset.card_add]
    omega

lemma work_pc {pc : Pc} (hpc : s.pc = pc) :
    s.work = (s.msgs.map LocMsg.work).sum + pc.work + 8 * holds s.held := by
  rw [TimerSys.work, hpc]

lemma work_goto (s : TimerSys) (pc : Pc) :
    TimerSys.work { s with pc := pc } =
      (s.msgs.map LocMsg.work).sum + pc.work + 8 * holds s.held :=
  rfl

/-- The fd of a container is not counted. -/
lemma work_fd {pc : Pc} (hx : x.heap = (s.container c).heap) :
    TimerSys.work { s.setContainer c x with pc := pc } =
      (s.msgs.map LocMsg.work).sum + pc.work + 8 * holds s.held := by
  rw [← TimerSys.held_setContainer_self hx]
  rfl

/-- **Each message is worth its steps.** -/
lemma work_proc {msg : LocMsg} (hpc : s.pc = .idle) : (s.proc msg).work < s.work + msg.work := by
  have hs := work_pc hpc
  have ht := work_pc (s := s.proc msg) rfl
  rw [TimerSys.proc_msgs] at ht
  rw [hs, ht]
  cases msg with
  | timerPush d =>
      have hheld : holds (s.proc (.timerPush d)).held + (s.held d.wakeOnExpire).card =
          holds s.held + ((s.container d.wakeOnExpire).heap.push d).elems.card :=
        holds_set { s.container d.wakeOnExpire with
          heap := (s.container d.wakeOnExpire).heap.push d }
      have hcard : ((s.container d.wakeOnExpire).heap.push d).elems.card =
          (s.held d.wakeOnExpire).card + 1 := by
        rw [elems_push, Multiset.card_add, Multiset.card_singleton]
        rfl
      have hpc' : (s.proc (.timerPush d)).pc.work ≤ 2 := work_update
      show _ < _ + 0 + _ + 11
      omega
  | timerRemove d =>
      have hheld : holds (s.proc (.timerRemove d)).held + (s.held d.wakeOnExpire).card =
          holds s.held + ((s.container d.wakeOnExpire).heap.remove d).1.elems.card :=
        holds_set { s.container d.wakeOnExpire with
          heap := ((s.container d.wakeOnExpire).heap.remove d).1 }
      have hcard : ((s.container d.wakeOnExpire).heap.remove d).1.elems.card ≤
          (s.held d.wakeOnExpire).card := card_remove
      have hpc' : (s.proc (.timerRemove d)).pc.work ≤ 3 := by
        simp only [TimerSys.proc]
        split_ifs
        · exact work_update
        · exact Nat.le_of_ble_eq_true rfl
      show _ < _ + 0 + _ + 4
      omega
  | timerExpire c =>
      have hheld : holds (s.proc (.timerExpire c)).held + (s.held c).card =
          holds s.held + (s.container c).heap.pop.1.elems.card :=
        holds_set { s.container c with heap := (s.container c).heap.pop.1 }
      show _ < _ + 0 + _ + 3
      cases hpop : (s.container c).heap.pop.2 with
      | none =>
          have hcard : (s.container c).heap.pop.1.elems.card ≤ (s.held c).card :=
            Multiset.card_le_card elems_pop_le
          have hpc' : (s.proc (.timerExpire c)).pc.work ≤ 2 := by
            rw [TimerSys.proc_timerExpire_none hpop]
            exact work_update
          omega
      | some timer =>
          have hcard : (s.held c).card = (s.container c).heap.pop.1.elems.card + 1 :=
            card_pop (pop_snd.symm.trans hpop)
          have hpc' : (s.proc (.timerExpire c)).pc.work = 10 := by
            rw [TimerSys.proc_timerExpire_some hpop]
            rfl
          omega

/-- **Every step of the message thread leaves less to do.** -/
lemma work_lt (hk : Kept as s) (hst : s.Step a t) (ha : a.ofMsgThread = true) :
    t.work < s.work := by
  cases hst.cases with
  | tick hle => cases ha
  | start h0 hle => cases ha
  | stop => cases ha
  | epollWait hidle hready => cases ha
  | disarm hev => cases ha
  | unpoll hev => cases ha
  | post hev => cases ha
  | @proc msg rest hpc hmsgs =>
      refine (work_proc (s := { s with msgs := rest }) hpc).trans_eq ?_
      rw [work_pc hpc, hmsgs, List.map_cons, List.sum_cons, TimerSys.work]
      simp only [hpc]
      show _ + _ + 8 * holds s.held + _ = _
      omega
  | @addPoll c time del hpc =>
      refine (work_fd (x := { s.container c with polled := true }) rfl).trans_lt ?_
      rw [work_pc hpc]
      simp only [Pc.work]
      omega
  | @removePoll c del hpc =>
      refine (work_fd (x := { s.container c with polled := false }) rfl).trans_lt ?_
      rw [work_pc hpc]
      simp only [Pc.work]
      omega
  | @setTime c time del hpc =>
      refine (work_fd (x := { s.container c with fd := time }) rfl).trans_lt ?_
      rw [work_pc hpc, work_after]
      simp only [Pc.work]
      omega
  | delete hpc =>
      refine (work_goto s .idle).trans_lt ?_
      rw [work_pc hpc]
      simp only [Pc.work]
      omega
  | @attached c now d hpc hclient =>
      refine (work_goto s (.stopClient c now d)).trans_lt ?_
      rw [work_pc hpc]
      simp only [Pc.work]
      omega
  | @detached c now d hpc hclient =>
      refine (work_goto s (.popIfOutRanks c now)).trans_lt ?_
      rw [work_pc hpc]
      simp only [Pc.work]
      omega
  | @stopNone c now d hpc hT =>
      refine (work_goto s (.popIfOutRanks c now)).trans_lt ?_
      rw [work_pc hpc]
      simp only [Pc.work]
      omega
  | @stopSome c now d d' hpc hT =>
      rw [TimerSys.stop_some hT (hk.owned.contained _ d' hT)]
      refine (work_goto { s with msgs := s.msgs ++ [LocMsg.timerRemove d'] }
        (.timeOutCallback c now d')).trans_lt ?_
      rw [work_pc hpc, List.map_append, List.sum_append]
      show _ + (4 + 0) + 4 + 8 * holds s.held < _ + 9 + _
      omega
  | @timeOutCallback c now d hpc =>
      refine (work_goto s (.popIfOutRanks c now)).trans_lt ?_
      rw [work_pc hpc]
      simp only [Pc.work]
      omega
  | @popSome c now top hpc htop hdue =>
      have hheld : holds (s.setContainer c { s.container c with
          heap := (s.container c).heap.pop.1 }).held + (s.held c).card =
          holds s.held + (s.container c).heap.pop.1.elems.card := holds_set _
      have hcard : (s.held c).card = (s.container c).heap.pop.1.elems.card + 1 := card_pop htop
      refine (work_goto (s.setContainer c { s.container c with heap := (s.container c).heap.pop.1 })
        (.expire c now top)).trans_lt ?_
      rw [work_pc hpc]
      show (s.msgs.map LocMsg.work).sum + 10 + 8 * holds _ < _ + 3 + _
      omega
  | @popNone c now hpc =>
      have hupdate : ((s.container c).updateSoonestTime c none none).work ≤ 2 := work_update
      refine (work_goto s ((s.container c).updateSoonestTime c none none)).trans_lt ?_
      rw [work_pc hpc]
      simp only [Pc.work] at hupdate ⊢
      omega

/-- The message thread can go on while it has something to do. -/
lemma msgThread_ready (h : ¬ s.Drained) : ∃ a t, s.Step a t ∧ a.ofMsgThread = true := by
  have hstep : ∀ p : TimerSys × Action, s.msgThread = some p → p.2.ofMsgThread = true →
      ∃ a t, s.Step a t ∧ a.ofMsgThread = true :=
    fun p hp ha => ⟨p.2, p.1, ⟨.msg, hp⟩, ha⟩
  cases hpc : s.pc with
  | idle =>
      cases hmsgs : s.msgs with
      | nil => exact absurd ⟨hmsgs, hpc⟩ h
      | cons msg rest =>
          have hp : s.msgThread = some ({ s with msgs := rest }.proc msg, .proc msg) := by
            simp only [TimerSys.msgThread, hpc, hmsgs]
          exact hstep _ hp rfl
  | _ => exact hstep _ (by rw [TimerSys.msgThread, hpc]) rfl

/-- **The message thread, going on alone, gets to the end of the queue.** -/
lemma drains (hr : Run TimerSys.Step .init as s) :
    ∃ bs t, Run TimerSys.Step s bs t ∧ (∀ b ∈ bs, b.ofMsgThread = true) ∧ t.Drained := by
  induction hn : s.work using Nat.strong_induction_on generalizing as s with
  | _ n ih =>
      by_cases hd : s.Drained
      · exact ⟨[], s, .nil s, List.forall_mem_nil _, hd⟩
      · obtain ⟨a, t, hst, ha⟩ := msgThread_ready hd
        have hlt := work_lt (Kept.of_run hr) hst ha
        obtain ⟨bs, u, hrun, hbs, hu⟩ := ih t.work (hn ▸ hlt) (hr.snoc hst) rfl
        exact ⟨a :: bs, u, hrun.cons hst, List.forall_mem_cons.mpr ⟨ha, hbs⟩, hu⟩

end Work

/-! ## The result -/

section Result

variable {s : TimerSys} {as : List Action}

/-- A timer is called back when it has expired, at most. -/
lemma Kept.calledBack_le (h : Kept as s) (timer : LocTimerDelegate) :
    (marks as).count (.calledBack timer) ≤ (marks as).count (.expired timer) := by
  have hcalled := h.called timer
  omega

/-- What happens once for a start at most. -/
lemma Kept.given_le_started (h : Kept as s) (timer : LocTimerDelegate) :
    given (marks as) timer ≤ (marks as).count (.started timer) := by
  have hle := h.owned.given_le timer
  rcases Nat.eq_zero_or_pos (given (marks as) timer) with h0 | hpos
  · omega
  · have hmem := List.count_pos_iff.mpr (h.owned.given_started timer hpos.ne')
    omega

/-- **No timer is lost and none fires twice.**  Whenever the message thread has nothing to do and the
poll thread is not busy with a container whose heap is not empty, its fd is polled and armed for a
time that is not after the top's.  Every start is called back at most once, and not when it was
stopped; its delegate is deleted at most once, not before it was given up, and it is not in the heap
then.  When the message thread has nothing to do, which it gets to by itself, each delegate that was
given up is deleted exactly once. -/
theorem no_timer_is_lost (hr : Run TimerSys.Step .init as s) :
    (∀ c, (s.container c).heap ≠ null → s.Drained → c ∉ s.events →
      (s.container c).polled = true ∧ (s.container c).fd.ns ≠ 0 ∧
        ∀ top, (s.container c).heap.peek = some top →
          (s.container c).fd.ns ≤ top.mFutureTime.ns) ∧
    (∀ timer,
      ((marks as).count (.calledBack timer) ≤ (marks as).count (.started timer) ∧
        (marks as).count (.deleted timer) ≤ (marks as).count (.started timer) ∧
        (marks as).count (.started timer) ≤ 1) ∧
      (.stopped timer ∈ marks as → .calledBack timer ∉ marks as) ∧
      (.deleted timer ∈ marks as →
        (.stopped timer ∈ marks as ∨ .expired timer ∈ marks as) ∧
          ∀ c, timer ∉ (s.container c).heap.elems) ∧
      (s.Drained → .stopped timer ∈ marks as ∨ .expired timer ∈ marks as →
        (marks as).count (.deleted timer) = 1)) ∧
    ∃ bs t, Run TimerSys.Step s bs t ∧ (∀ b ∈ bs, b.ofMsgThread = true) ∧ t.Drained := by
  have hk := Kept.of_run hr
  have hw := Wakes.of_run hr
  refine ⟨?_, fun timer => ⟨⟨?_, ?_, hk.owned.started_le timer⟩, ?_, ?_, ?_⟩, drains hr⟩
  · rintro c hheap ⟨hmsgs, hpc⟩ hev
    rcases hw.covered c with h | h | h | h | h
    · exact absurd h hheap
    · exact ⟨h.1, h.2.1, h.2.2⟩
    · rw [hmsgs] at h
      cases h
    · exact absurd h hev
    · rw [hpc] at h
      exact h.elim
  · have hgiven := hk.given_le_started timer
    have hcalled := hk.calledBack_le timer
    rw [given] at hgiven
    omega
  · have hgiven := hk.given_le_started timer
    have hremoves := hk.placed.removes timer
    omega
  · intro hstopped hcalled
    have hle := hk.owned.given_le timer
    have hexpired := hk.calledBack_le timer
    have hs := List.count_pos_iff.mpr hstopped
    have hc := List.count_pos_iff.mpr hcalled
    rw [given] at hle
    omega
  · intro hdeleted
    refine ⟨?_, (hk.placed.gone timer (Or.inr hdeleted)).2⟩
    have hpos := hk.placed.given_pos (Or.inr (Or.inr hdeleted))
    rcases Nat.add_pos_iff_pos_or_pos.mp hpos with hpos | hpos
    · exact Or.inl (List.count_pos_iff.mp hpos)
    · exact Or.inr (List.count_pos_iff.mp hpos)
  · rintro ⟨hmsgs, hpc⟩ hgiven
    have hremoves := hk.placed.removes timer
    have hle := hk.owned.given_le timer
    have hpos : 0 < given (marks as) timer :=
      Nat.add_pos_iff_pos_or_pos.mpr
        (hgiven.imp List.count_pos_iff.mpr List.count_pos_iff.mpr)
    rw [hmsgs, hpc] at hremoves
    simp only [List.count_nil, Pc.del, Option.toList_none] at hremoves
    omega

/-- One of two timers expires; the fd is then armed for the other one. -/
theorem no_timer_is_lost_two :
    ∃ p, execBy TimerSys.next .init
      [.tick ⟨1, 0, by decide⟩, .start 1 ⟨1, 0, by decide⟩ 1000 false,
        .start 2 ⟨1, 0, by decide⟩ 5000 false, .msg, .msg, .msg, .msg, .tick ⟨2, 0, by decide⟩,
        .epollWait [false], .poll, .poll, .poll, .msg, .msg, .msg, .msg, .msg, .msg, .msg, .msg,
        .msg] = some p ∧
      (marks p.2).count (.deleted ⟨0, 1, false, ⟨2, 0, by decide⟩⟩) = 1 ∧
      (p.1.container false).polled = true := by
  have hrun : ((execBy TimerSys.next .init
      [.tick ⟨1, 0, by decide⟩, .start 1 ⟨1, 0, by decide⟩ 1000 false,
        .start 2 ⟨1, 0, by decide⟩ 5000 false, .msg, .msg, .msg, .msg, .tick ⟨2, 0, by decide⟩,
        .epollWait [false], .poll, .poll, .poll, .msg, .msg, .msg, .msg, .msg, .msg, .msg, .msg,
        .msg]).map fun p => decide ((p.1.container false).heap ≠ null ∧ p.1.msgs = [] ∧
          p.1.pc = .idle ∧ p.1.events = [] ∧
          .expired ⟨0, 1, false, ⟨2, 0, by decide⟩⟩ ∈ marks p.2)) = some true := by
    decide +kernel
  obtain ⟨p, hp, hdec⟩ := Option.map_eq_some_iff.mp hrun
  obtain ⟨hheap, hmsgs, hpc, hev, hexpired⟩ := of_decide_eq_true hdec
  have hr : Run TimerSys.Step .init p.2 p.1 := Run.of_execBy (fun _ i _ h => ⟨i, h⟩) hp
  have hno := no_timer_is_lost hr
  exact ⟨p, hp, (hno.2.1 _).2.2.2 ⟨hmsgs, hpc⟩ (Or.inr hexpired),
    (hno.1 false hheap ⟨hmsgs, hpc⟩ (by rw [hev]; exact List.not_mem_nil)).1⟩

end Result

end Gps.Timer
