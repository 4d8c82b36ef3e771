import OcnDevice.Gps.Timer.Owned

/-!
# Every timer is kept, given up, and deleted

`Kept` is the invariant of a run: `Owned` and `Placed` of the state, sound heaps, and that each
timer that has expired is called back.  `Kept.step` goes over the steps; what a message does to the
heaps comes from the specifications of `LocHeap`.
-/

namespace Gps.Timer

open LocHeapNode

/-! ## Where the message thread is -/

/-- The timer that is deleted when the message is done. -/
def Pc.del : Pc → Option LocTimerDelegate
  | .addPoll _ _ del => del
  | .removePoll _ del => del
  | .setTime _ _ del => del
  | .delete timer => some timer
  | _ => none

/-- The timer whose client is about to be called back. -/
def Pc.called : Pc → Option LocTimerDelegate
  | .timeOutCallback _ _ timer => some timer
  | _ => none

section Pc

variable {x : LocTimerContainer} {c : Bool} {prior del : Option LocTimerDelegate}

@[simp] lemma Pc.del_after : (Pc.after del).del = del := by
  cases del <;> rfl

@[simp] lemma Pc.called_after : (Pc.after del).called = none := by
  cases del <;> rfl

variable (x c prior del) in
/-- `updateSoonestTime` is done, or goes on with a system call. -/
lemma updateSoonestTime_cases :
    (x.updateSoonestTime c prior del = .after del ∧ (x.heap.peek = prior ∨
      ∃ top p, x.heap.peek = some top ∧ prior = some p ∧ outRanks top p = false)) ∨
    (x.updateSoonestTime c prior del = .removePoll c del ∧ x.heap.peek = none ∧ prior ≠ none) ∨
    ∃ top, x.updateSoonestTime c prior del = .addPoll c top.mFutureTime del ∧
      x.heap.peek = some top := by
  simp only [LocTimerContainer.updateSoonestTime]
  split_ifs with heq
  · exact Or.inl ⟨rfl, Or.inl heq⟩
  · cases htop : x.heap.peek with
    | none =>
        refine Or.inr (Or.inl ⟨rfl, rfl, ?_⟩)
        rintro rfl
        exact heq htop
    | some top =>
        dsimp only
        split_ifs with hout
        · exact Or.inr (Or.inr ⟨top, rfl, rfl⟩)
        · cases prior with
          | none => exact absurd rfl hout
          | some p => exact Or.inl ⟨rfl, Or.inr ⟨top, p, rfl, rfl, by simpa using hout⟩⟩

@[simp] lemma del_updateSoonestTime : (x.updateSoonestTime c prior del).del = del := by
  rcases updateSoonestTime_cases x c prior del with
    ⟨h, _⟩ | ⟨h, _⟩ | ⟨top, h, _⟩
  · rw [h, Pc.del_after]
  · rw [h]
    rfl
  · rw [h]
    rfl

@[simp] lemma called_updateSoonestTime : (x.updateSoonestTime c prior del).called = none := by
  rcases updateSoonestTime_cases x c prior del with
    ⟨h, _⟩ | ⟨h, _⟩ | ⟨top, h, _⟩
  · rw [h, Pc.called_after]
  · rw [h]
    rfl
  · rw [h]
    rfl

end Pc

/-! ## The invariant -/

/-- The timers in a heap. -/
def TimerSys.held (s : TimerSys) (c : Bool) : Multiset LocTimerDelegate :=
  (s.container c).heap.elems

lemma TimerSys.held_setContainer {s : TimerSys} {c : Bool} {x : LocTimerContainer} :
    (s.setContainer c x).held = Function.update s.held c x.heap.elems := by
  funext c'
  rcases eq_or_ne c' c with rfl | hne
  · simp [held, setContainer]
  · simp [held, setContainer, hne]

/-- A heap that is not changed. -/
lemma TimerSys.held_setContainer_self {s : TimerSys} {c : Bool} {x : LocTimerContainer}
    (h : x.heap = (s.container c).heap) : (s.setContainer c x).held = s.held := by
  rw [held_setContainer, h]
  exact Function.update_eq_self c s.held

/-- What holds behind every run. -/
structure Kept (as : List Action) (s : TimerSys) : Prop where
  owned : Owned (marks as) s.mTimer s.mContainer s.fresh
  placed : Placed (marks as) s.msgs s.held s.pc.del
  sound : ∀ c, (s.container c).heap.Sound
  called : ∀ d, (marks as).count (.expired d) =
    (marks as).count (.calledBack d) + s.pc.called.toList.count d

lemma kept_init : Kept [] .init where
  owned := ⟨by simp [marks], by simp [marks], by simp [marks], by simp [marks],
    by simp [TimerSys.init],
    by simp [TimerSys.init], by simp [TimerSys.init], by simp [TimerSys.init],
    by simp [marks, given], by simp [marks, given]⟩
  placed := ⟨by simp [marks, given, TimerSys.init, Pc.del], by simp [TimerSys.init],
    by simp [TimerSys.held, TimerSys.init, elems], by simp [TimerSys.held, TimerSys.init, elems],
    by simp [TimerSys.held, TimerSys.init, elems], List.Pairwise.nil,
    by simp [TimerSys.init, marks, Pc.del]⟩
  sound := fun _ => ⟨trivial, trivial⟩
  called := by simp [marks, TimerSys.init, Pc.called]

section Step

variable {as : List Action} {a : Action} {s t : TimerSys} {c : Bool} {d : LocTimerDelegate} {k : ℕ}

/-- The heap after a removal. -/
lemma elems_remove_erase {h : LocHeapNode LocTimerDelegate} (hs : h.Sound) :
    (h.remove d).1.elems = h.elems.erase d := by
  rcases remove_cases (t := h) (x := d) with hc | ⟨_, hc⟩
  · rw [hc, Multiset.erase_of_notMem]
    intro hmem
    have hret := remove_of_mem hs.ordered hmem
    rw [hc] at hret
    cases hret
  · rw [hc, erase_add_singleton]

lemma elems_pop_le {h : LocHeapNode LocTimerDelegate} : h.pop.1.elems ≤ h.elems := by
  cases hp : h.peek with
  | none => rw [peek_eq_none.mp hp, pop]
  | some x =>
      rw [elems_pop hp]
      exact Multiset.le_add_right _ _

lemma TimerSys.stop_none (h : s.mTimer k = none) : s.stop k = (s, none) := by
  rw [stop, h]

lemma TimerSys.stop_some (h : s.mTimer k = some d) (hc : s.mContainer d.addr = true) :
    s.stop k = ({ s with
      mTimer := Function.update s.mTimer k none
      mClient := Function.update s.mClient d.addr false
      mContainer := Function.update s.mContainer d.addr false
      msgs := s.msgs ++ [LocMsg.timerRemove d] }, some d) := by
  simp only [stop, h, destroyLocked, hc, if_true, sendMsg]

lemma TimerSys.start_none {read : Timespec} {ms : ℕ} {wake : Bool} (h : s.mTimer k = none) :
    s.start k read ms wake = ({ s with
      mTimer := Function.update s.mTimer k (some ⟨s.fresh, k, wake, read.later ms⟩)
      mClient := Function.update s.mClient s.fresh true
      mContainer := Function.update s.mContainer s.fresh true
      fresh := s.fresh + 1
      msgs := s.msgs ++ [LocMsg.timerPush ⟨s.fresh, k, wake, read.later ms⟩] },
        some ⟨s.fresh, k, wake, read.later ms⟩) := by
  simp only [start, h, sendMsg]

lemma TimerSys.start_some {read : Timespec} {ms : ℕ} {wake : Bool} (h : s.mTimer k = some d) :
    s.start k read ms wake = (s, none) := by
  simp only [start, h]

/-- A step that does nothing to the timers. -/
lemma Kept.same (h : Kept as s) (ha : a.mark = none) (hT : t.mTimer = s.mTimer)
    (hC : t.mContainer = s.mContainer) (hF : t.fresh = s.fresh)
    (hplaced : Placed (marks as) t.msgs t.held t.pc.del)
    (hsound : ∀ c, (t.container c).heap.Sound) (hcalled : t.pc.called = s.pc.called) :
    Kept (as ++ [a]) t := by
  have hmarks : marks (as ++ [a]) = marks as := by rw [marks_concat, ha]; exact List.append_nil _
  refine ⟨?_, ?_, hsound, ?_⟩
  · rw [hmarks, hT, hC, hF]
    exact h.owned
  · rw [hmarks]
    exact hplaced
  · rw [hmarks, hcalled]
    exact h.called

/-- Where only the fd or the poll of a container changes. -/
lemma Kept.placed_fd (h : Kept as s) {x : LocTimerContainer}
    (hx : x.heap = (s.container c).heap) :
    Placed (marks as) s.msgs (s.setContainer c x).held s.pc.del := by
  rw [TimerSys.held_setContainer_self hx]
  exact h.placed

/-- A step of the message thread that only goes on. -/
lemma Kept.goto (h : Kept as s) (ha : a.mark = none) {pc : Pc} (hdel : pc.del = s.pc.del)
    (hcalled : pc.called = s.pc.called) : Kept (as ++ [a]) { s with pc := pc } := by
  refine h.same ha rfl rfl rfl ?_ h.sound hcalled
  rw [hdel]
  exact h.placed

/-- Where a heap changes. -/
lemma Kept.sound_set (h : Kept as s) {x : LocTimerContainer} (hx : x.heap.Sound) :
    ∀ c', ((s.setContainer c x).container c').heap.Sound := by
  intro c'
  rcases eq_or_ne c' c with rfl | hne
  · rw [TimerSys.container_setContainer]
    exact hx
  · rw [TimerSys.container_setContainer_of_ne hne]
    exact h.sound c'

/-- A system call of the message thread. -/
lemma Kept.syscall (h : Kept as s) (ha : a.mark = none) {x : LocTimerContainer} {pc : Pc}
    (hx : x.heap = (s.container c).heap) (hdel : pc.del = s.pc.del)
    (hcalled : pc.called = s.pc.called) : Kept (as ++ [a]) { s.setContainer c x with pc := pc } := by
  refine h.same ha rfl rfl rfl ?_ (h.sound_set (hx ▸ h.sound c)) hcalled
  rw [hdel]
  exact h.placed_fd hx

/-- A step of the message thread that does no more than change a heap, maybe for a message. -/
lemma Kept.heap (h : Kept as s) (ha : a.mark = none) {x : LocTimerContainer} {pc : Pc}
    {rest : List LocMsg}
    (hplaced : Placed (marks as) rest (Function.update s.held c x.heap.elems) pc.del)
    (hx : x.heap.Sound) (hcalled : pc.called = s.pc.called) :
    Kept (as ++ [a]) { s.setContainer c x with msgs := rest, pc := pc } := by
  refine h.same ha rfl rfl rfl ?_ (h.sound_set hx) hcalled
  rw [← TimerSys.held_setContainer] at hplaced
  exact hplaced

lemma Kept.start (h : Kept as s) {read : Timespec} {timeOutInMs : ℕ} {wake : Bool}
    (h0 : 0 < read.ns) :
    Kept (as ++ [Action.start k (s.start k read timeOutInMs wake).2])
      (s.start k read timeOutInMs wake).1 := by
  cases hk : s.mTimer k with
  | some d =>
      rw [TimerSys.start_some hk]
      exact h.same rfl rfl rfl rfl h.placed h.sound rfl
  | none =>
      rw [TimerSys.start_none hk]
      set d : LocTimerDelegate := ⟨s.fresh, k, wake, read.later timeOutInMs⟩ with hd
      have hmarks : marks (as ++ [Action.start k (some d)]) = marks as ++ [Mark.started d] :=
        marks_concat
      have hnot : .started d ∉ marks as := h.owned.not_started rfl
      have hgiven : given (marks as) d = 0 := by
        by_contra hne
        exact hnot (h.owned.given_started d hne)
      have htime : 0 < d.mFutureTime.ns := by
        rw [hd, Timespec.ns_later]
        omega
      refine ⟨?_, ?_, h.sound, ?_⟩ <;> rw [hmarks]
      · exact h.owned.start rfl rfl htime
      · exact h.placed.start hnot hgiven
      · intro d'
        simpa [count_concat] using h.called d'

/-- A client gives up its timer, by itself or since it has expired. -/
lemma Kept.stop (h : Kept as s) (hk : s.mTimer k = some d) {m : Mark} {pc : Pc}
    (ha : a.mark = some m) (hdel : pc.del = s.pc.del)
    (hm : (m = .stopped d ∧ pc.called = s.pc.called) ∨
      (m = .expired d ∧ s.pc.called = none ∧ pc.called = some d)) :
    Kept (as ++ [a]) { (s.stop k).1 with pc := pc } := by
  have hmarks : marks (as ++ [a]) = marks as ++ [m] := by rw [marks_concat, ha]; rfl
  have hm' : m = .stopped d ∨ m = .expired d := hm.imp And.left And.left
  rw [TimerSys.stop_some hk (h.owned.contained k d hk)]
  refine ⟨?_, ?_, h.sound, ?_⟩ <;> rw [hmarks]
  · exact h.owned.stop hk hm'
  · rw [hdel]
    exact h.placed.stop hm'
  · intro d'
    have hcount := h.called d'
    rcases hm with ⟨rfl, hpc⟩ | ⟨rfl, hs, hpc⟩
    · rw [hpc]
      simpa [count_concat] using hcount
    · rw [hs] at hcount
      simp only [count_concat, hcount, hpc, Option.toList_some, Option.toList_none,
        List.count_singleton, Mark.expired.injEq, beq_iff_eq]
      simp

/-- **Every step keeps the invariant.** -/
lemma Kept.step (h : Kept as s) (hst : s.Step a t) : Kept (as ++ [a]) t := by
  have hp := h.placed
  cases hst.cases with
  | tick hle => exact h.same rfl rfl rfl rfl hp h.sound rfl
  | start h0 hle => exact h.start h0
  | @stop k =>
      cases hk : s.mTimer k with
      | none =>
          rw [TimerSys.stop_none hk]
          exact h.same rfl rfl rfl rfl hp h.sound rfl
      | some d =>
          have hret := TimerSys.stop_some hk (h.owned.contained k d hk)
          have hstop := h.stop (a := .stop k (some d)) hk rfl rfl (Or.inl ⟨rfl, rfl⟩)
          rw [hret] at hstop ⊢
          exact hstop
  | epollWait hidle hready => exact h.same rfl rfl rfl rfl hp h.sound rfl
  | disarm hev => exact h.same rfl rfl rfl rfl (h.placed_fd rfl) (h.sound_set (h.sound _)) rfl
  | unpoll hev => exact h.same rfl rfl rfl rfl (h.placed_fd rfl) (h.sound_set (h.sound _)) rfl
  | post hev => exact h.same rfl rfl rfl rfl hp.post h.sound rfl
  | @proc msg rest hpc hmsgs =>
      rw [hpc, hmsgs] at hp
      cases msg with
      | timerPush d =>
          refine h.heap (a := .proc (.timerPush d)) (c := d.wakeOnExpire) rfl ?_
            (h.sound d.wakeOnExpire).push ?_
          · rw [del_updateSoonestTime, elems_push]
            exact hp.push
          · rw [called_updateSoonestTime, hpc]
            rfl
      | timerRemove d =>
          refine h.heap (a := .proc (.timerRemove d)) (c := d.wakeOnExpire) rfl ?_
            (h.sound d.wakeOnExpire).remove ?_
          · rw [elems_remove_erase (h.sound d.wakeOnExpire)]
            split_ifs
            · rw [del_updateSoonestTime]
              exact hp.remove
            · exact hp.remove
          · rw [hpc]
            split_ifs
            · rw [called_updateSoonestTime]
              rfl
            · rfl
      | timerExpire c =>
          refine h.heap (a := .proc (.timerExpire c)) (c := c) rfl ?_ (h.sound c).pop ?_
          · have hshrink := hp.expire.shrink (c := c) (elems_pop_le (h := (s.container c).heap))
            split
            · exact hshrink
            · rw [del_updateSoonestTime]
              exact hshrink
          · rw [hpc]
            split
            · rfl
            · rw [called_updateSoonestTime]
              rfl
  | @addPoll c time del hpc =>
      exact h.syscall (x := { s.container c with polled := true }) rfl rfl (by rw [hpc]; rfl)
        (by rw [hpc]; rfl)
  | @removePoll c del hpc =>
      exact h.syscall (x := { s.container c with polled := false }) rfl rfl (by rw [hpc]; rfl)
        (by rw [hpc]; rfl)
  | @setTime c time del hpc =>
      exact h.syscall (x := { s.container c with fd := time }) rfl rfl
        (by rw [hpc]; exact Pc.del_after) (by rw [hpc]; exact Pc.called_after)
  | @delete d hpc =>
      have hmarks : marks (as ++ [Action.delete d]) = marks as ++ [Mark.deleted d] := marks_concat
      rw [hpc] at hp
      refine ⟨?_, ?_, h.sound, ?_⟩ <;> rw [hmarks]
      · exact h.owned.mark (Or.inr rfl)
      · exact hp.delete
      · intro d'
        have hcount := h.called d'
        rw [hpc] at hcount
        simpa [count_concat, Pc.called] using hcount
  | attached hpc hclient => exact h.goto rfl (by rw [hpc]; rfl) (by rw [hpc]; rfl)
  | detached hpc hclient => exact h.goto rfl (by rw [hpc]; rfl) (by rw [hpc]; rfl)
  | stopNone hpc hk => exact h.goto rfl (by rw [hpc]; rfl) (by rw [hpc]; rfl)
  | @stopSome c now d d' hpc hk =>
      exact h.stop hk rfl (by rw [hpc]; rfl) (Or.inr ⟨rfl, by rw [hpc]; rfl, rfl⟩)
  | @timeOutCallback c now d hpc =>
      have hmarks : marks (as ++ [Action.timeOutCallback d now]) =
          marks as ++ [Mark.calledBack d] := marks_concat
      rw [hpc] at hp
      refine ⟨?_, ?_, h.sound, ?_⟩ <;> rw [hmarks]
      · exact h.owned.mark (Or.inl rfl)
      · exact hp.call
      · intro d'
        have hcount := h.called d'
        rw [hpc] at hcount
        simp only [count_concat, hcount, Pc.called, Option.toList_some, Option.toList_none,
          List.count_singleton, Mark.calledBack.injEq, beq_iff_eq]
        simp
  | @popSome c now top hpc htop hdue =>
      rw [hpc] at hp
      exact h.heap rfl (hp.shrink elems_pop_le) (h.sound c).pop (by rw [hpc]; rfl)
  | popNone hpc =>
      exact h.goto rfl (by rw [hpc]; exact del_updateSoonestTime)
        (by rw [hpc]; exact called_updateSoonestTime)

end Step

/-- **The invariant holds behind every run.** -/
lemma Kept.of_run {as : List Action} {s : TimerSys} (hr : Run TimerSys.Step .init as s) :
    Kept as s :=
  hr.history (P := Kept) (fun _ _ _ _ h hst => h.step hst) kept_init

end Gps.Timer
