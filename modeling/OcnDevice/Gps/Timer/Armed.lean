import OcnDevice.Gps.Timer.Kept

/-!
# Something will wake up for the timers

As long as a heap is not empty, one of these sees to its top (`Covered`): the fd is polled and armed
for a time that is early enough; or the poll thread has woken for it and not yet posted; or its
message is in the queue; or the message thread is inside that message, or before a system call that
sets the fd.  The poll thread takes the fd off the poll at a bad moment only when it has woken, and
then its message comes after what the message thread does now.

For that the time that the message thread is about to set has to be that of the heap's top or
earlier, which is what `Pc.Settles` keeps.
-/

namespace Gps.Timer

open LocHeapNode

/-! ## The invariant -/

/-- The time is not after any timer of the heap. -/
def Soonest (h : LocHeapNode LocTimerDelegate) (time : Timespec) : Prop :=
  time.ns ≠ 0 ∧ ∀ top, h.peek = some top → time.ns ≤ top.mFutureTime.ns

/-- The fd is polled and armed for the heap. -/
def LocTimerContainer.Armed (x : LocTimerContainer) : Prop :=
  x.polled = true ∧ Soonest x.heap x.fd

/-- The message thread will update the fd, if it is polled by then. -/
def Pc.Arms (polled : Bool) (c : Bool) : Pc → Prop
  | .addPoll c' _ _ => c' = c
  | .setTime c' _ _ => c' = c ∧ polled = true
  | .expire c' _ _ => c' = c
  | .stopClient c' _ _ => c' = c
  | .timeOutCallback c' _ _ => c' = c
  | .popIfOutRanks c' _ => c' = c
  | _ => False

/-- The time about to be set fits the heap. -/
def Pc.Settles (heap : Bool → LocHeapNode LocTimerDelegate) : Pc → Prop
  | .addPoll c time _ => Soonest (heap c) time
  | .removePoll c _ => heap c = null
  | .setTime c time _ => heap c = null ∨ Soonest (heap c) time
  | _ => True

/-- Something sees to the heap. -/
def Covered (s : TimerSys) (c : Bool) : Prop :=
  (s.container c).heap = null ∨ (s.container c).Armed ∨ .timerExpire c ∈ s.msgs ∨ c ∈ s.events ∨
    s.pc.Arms (s.container c).polled c

/-- The heap of a container. -/
def TimerSys.heap (s : TimerSys) (c : Bool) : LocHeapNode LocTimerDelegate := (s.container c).heap

/-- What holds behind every run. -/
structure Wakes (s : TimerSys) : Prop where
  covered : ∀ c, Covered s c
  settles : s.pc.Settles s.heap

section Step

variable {s t : TimerSys} {a : Action} {c c' : Bool} {x : LocTimerContainer}
  {del prior : Option LocTimerDelegate}

lemma Covered.of_msg (h : .timerExpire c ∈ s.msgs) : Covered s c := Or.inr (Or.inr (Or.inl h))

lemma Covered.of_event (h : c ∈ s.events) : Covered s c := Or.inr (Or.inr (Or.inr (Or.inl h)))

lemma Covered.of_arms (h : s.pc.Arms (s.container c).polled c) : Covered s c :=
  Or.inr (Or.inr (Or.inr (Or.inr h)))

/-- Another container, for which nothing is lost. -/
lemma Covered.mono (h : Covered s c) (hx : t.container c = s.container c)
    (hmsg : .timerExpire c ∈ s.msgs → .timerExpire c ∈ t.msgs)
    (hev : c ∈ s.events → c ∈ t.events ∨ .timerExpire c ∈ t.msgs)
    (hpc : s.pc.Arms (s.container c).polled c → t.pc.Arms (s.container c).polled c) :
    Covered t c := by
  rcases h with h | h | h | h | h
  · exact Or.inl (by rwa [hx])
  · exact Or.inr (Or.inl (by rwa [hx]))
  · exact .of_msg (hmsg h)
  · exact (hev h).elim .of_event .of_msg
  · exact .of_arms (by rw [hx]; exact hpc h)

lemma Soonest.congr {h h' : LocHeapNode LocTimerDelegate} {time : Timespec}
    (hs : Soonest h time) (hpeek : h'.peek = h.peek) : Soonest h' time :=
  ⟨hs.1, fun top htop => hs.2 top (hpeek ▸ htop)⟩

/-- The time of the top. -/
lemma soonest_top {h : LocHeapNode LocTimerDelegate} {top : LocTimerDelegate}
    (htop : h.peek = some top) (hpos : 0 < top.mFutureTime.ns) : Soonest h top.mFutureTime := by
  refine ⟨hpos.ne', fun top' htop' => ?_⟩
  cases htop.symm.trans htop'
  exact le_refl _

/-- Without a prior top the container is covered when `updateSoonestTime` goes on or is done. -/
lemma covered_update (hx : t.container c = x) (hpc : t.pc = x.updateSoonestTime c none del) :
    Covered t c := by
  rcases updateSoonestTime_cases x c none del with
    ⟨_, hpeek | ⟨_, _, _, hp, _⟩⟩ | ⟨_, _, hne⟩ | ⟨top, hp, _⟩
  · refine Or.inl ?_
    rw [hx]
    exact peek_eq_none.mp hpeek
  · cases hp
  · exact absurd rfl hne
  · refine .of_arms ?_
    rw [hpc, hp]
    rfl

/-- `updateSoonestTime` sets the time of the top. -/
lemma settles_update {heap : Bool → LocHeapNode LocTimerDelegate} (hheap : heap c = x.heap)
    (hpos : ∀ top, x.heap.peek = some top → 0 < top.mFutureTime.ns) :
    (x.updateSoonestTime c prior del).Settles heap := by
  rcases updateSoonestTime_cases x c prior del with
    ⟨hp, _⟩ | ⟨hp, hpeek, _⟩ | ⟨top, hp, htop⟩ <;> rw [hp]
  · cases del <;> trivial
  · show heap c = null
    rw [hheap]
    exact peek_eq_none.mp hpeek
  · show Soonest (heap c) top.mFutureTime
    rw [hheap]
    exact soonest_top htop (hpos top htop)

/-- A message that leaves the top of the heap where it is. -/
lemma covered_sameTop {h' : LocHeapNode LocTimerDelegate} (h : Covered s c) (hidle : s.pc = .idle)
    (ht : t.container c = { s.container c with heap := h' })
    (hmsg : .timerExpire c ∈ s.msgs → .timerExpire c ∈ t.msgs) (hev : t.events = s.events)
    (hsame : h'.peek = (s.container c).heap.peek) : Covered t c := by
  rcases h with h | h | h | h | h
  · refine Or.inl ?_
    rw [h] at hsame
    rw [ht]
    exact peek_eq_none.mp hsame
  · refine Or.inr (Or.inl ?_)
    rw [ht]
    exact ⟨h.1, h.2.congr hsame⟩
  · exact .of_msg (hmsg h)
  · exact .of_event (hev ▸ h)
  · rw [hidle] at h
    exact h.elim

/-- A push, behind which the fd is armed for the new top if there is one. -/
lemma covered_push {d : LocTimerDelegate} (h : Covered s c) (hidle : s.pc = .idle)
    (hx : x = { s.container c with heap := (s.container c).heap.push d })
    (ht : t.container c = x) (hmsg : .timerExpire c ∈ s.msgs → .timerExpire c ∈ t.msgs)
    (hev : t.events = s.events)
    (hpc : t.pc = x.updateSoonestTime c (s.container c).heap.peek none) :
    Covered t c := by
  rcases push_peek (t := (s.container c).heap) (x := d) with ⟨y, hy, hpeek⟩ | ⟨hpeek, hout⟩
  · exact covered_sameTop h hidle (ht.trans hx) hmsg hev (hpeek.trans hy.symm)
  · refine .of_arms ?_
    have htop : x.heap.peek = some d := by rw [hx, hpeek]
    rw [hpc]
    rcases updateSoonestTime_cases x c (s.container c).heap.peek none with
      ⟨_, heq | ⟨_, p, hd, hp, hnot⟩⟩ | ⟨_, hnone, _⟩ | ⟨_, hadd, _⟩
    · exact absurd (hout d (heq.symm.trans htop)) (by rw [outRanks_self]; exact Bool.false_ne_true)
    · cases htop.symm.trans hd
      rw [hout p hp] at hnot
      cases hnot
    · rw [htop] at hnone
      cases hnone
    · rw [hadd]
      rfl

lemma TimerSys.heap_setContainer (h : x.heap = (s.container c).heap) :
    (s.setContainer c x).heap = s.heap := by
  funext c'
  rcases eq_or_ne c' c with rfl | hne
  · rw [heap, container_setContainer, h, heap]
  · rw [heap, container_setContainer_of_ne hne, heap]

variable {as : List Action}

/-- The top of a heap has a time. -/
lemma Kept.time_pos (h : Kept as s) {top : LocTimerDelegate}
    (htop : (s.container c).heap.peek = some top) : 0 < top.mFutureTime.ns :=
  h.owned.time top (h.placed.held_started c top (peek_mem htop))

/-- The container of a message. -/
def LocMsg.container : LocMsg → Bool
  | .timerPush timer => timer.wakeOnExpire
  | .timerRemove timer => timer.wakeOnExpire
  | .timerExpire c => c

lemma TimerSys.proc_msgs {msg : LocMsg} : (s.proc msg).msgs = s.msgs := by
  cases msg <;> rfl

lemma TimerSys.proc_events {msg : LocMsg} : (s.proc msg).events = s.events := by
  cases msg <;> rfl

lemma TimerSys.proc_container_of_ne {msg : LocMsg} (h : c ≠ msg.container) :
    (s.proc msg).container c = s.container c := by
  cases msg <;> exact container_setContainer_of_ne h

/-- A message leaves the other container covered. -/
lemma Covered.proc_of_ne (h : Covered s c) {msg : LocMsg} {rest : List LocMsg}
    (hpc : s.pc = .idle) (hmsgs : s.msgs = msg :: rest) (hne : c ≠ msg.container) :
    Covered ({ s with msgs := rest }.proc msg) c := by
  refine h.mono (TimerSys.proc_container_of_ne hne) ?_ ?_ ?_
  · intro hmem
    rw [hmsgs] at hmem
    rw [TimerSys.proc_msgs]
    refine (List.mem_cons.mp hmem).resolve_left ?_
    rintro rfl
    exact hne rfl
  · rw [TimerSys.proc_events]
    exact Or.inl
  · rw [hpc]
    exact False.elim

/-- A message leaves its own container covered. -/
lemma Covered.proc_self {msg : LocMsg} (h : Covered s msg.container) {rest : List LocMsg}
    (hpc : s.pc = .idle) (hmsgs : s.msgs = msg :: rest) :
    Covered ({ s with msgs := rest }.proc msg) msg.container := by
  have hrest : msg ≠ .timerExpire msg.container → .timerExpire msg.container ∈ s.msgs →
      .timerExpire msg.container ∈ rest := by
    intro hne hmem
    rw [hmsgs] at hmem
    exact (List.mem_cons.mp hmem).resolve_left hne.symm
  cases msg with
  | timerPush d =>
      exact covered_push h hpc rfl TimerSys.container_setContainer (hrest LocMsg.noConfusion) rfl rfl
  | timerRemove d =>
      rcases eq_or_ne (s.container d.wakeOnExpire).heap.peek
          ((s.container d.wakeOnExpire).heap.remove d).2 with heq | hne
      · exact covered_update TimerSys.container_setContainer (if_pos heq)
      · exact covered_sameTop h hpc TimerSys.container_setContainer (hrest LocMsg.noConfusion) rfl
          (remove_peek.resolve_left hne.symm)
  | timerExpire c =>
      set s' := { s with msgs := rest }
      cases hpop : (s'.container c).heap.pop.2 with
      | none =>
          exact covered_update TimerSys.container_setContainer (TimerSys.proc_timerExpire_none hpop)
      | some timer =>
          refine .of_arms ?_
          rw [TimerSys.proc_timerExpire_some hpop]
          rfl

/-- **What the message thread takes from the queue leaves the containers covered.** -/
lemma Wakes.proc (h : Wakes s) {msg : LocMsg} {rest : List LocMsg} (hpc : s.pc = .idle)
    (hmsgs : s.msgs = msg :: rest) (hk : Kept as ({ s with msgs := rest }.proc msg)) :
    Wakes ({ s with msgs := rest }.proc msg) := by
  refine ⟨fun c => ?_, ?_⟩
  · rcases eq_or_ne c msg.container with rfl | hne
    · exact (h.covered _).proc_self hpc hmsgs
    · exact (h.covered c).proc_of_ne hpc hmsgs hne
  · set s' := { s with msgs := rest }
    -- `updateSoonestTime` of the changed container
    have hupdate : ∀ {c : Bool} {x : LocTimerContainer} {prior del : Option LocTimerDelegate},
        (s'.proc msg).container c = x →
        (x.updateSoonestTime c prior del).Settles (s'.proc msg).heap := by
      intro c x prior del hx
      refine settles_update (congrArg LocTimerContainer.heap hx) fun top htop => ?_
      exact hk.time_pos (hx ▸ htop)
    cases msg with
    | timerPush d => exact hupdate TimerSys.container_setContainer
    | timerRemove d =>
        rcases eq_or_ne (s'.container d.wakeOnExpire).heap.peek
            ((s'.container d.wakeOnExpire).heap.remove d).2 with heq | hne
        · have hp : (s'.proc (.timerRemove d)).pc = _ := if_pos heq
          rw [hp]
          exact hupdate TimerSys.container_setContainer
        · have hp : (s'.proc (.timerRemove d)).pc = _ := if_neg hne
          rw [hp]
          trivial
    | timerExpire c =>
        cases hpop : (s'.container c).heap.pop.2 with
        | none =>
            rw [TimerSys.proc_timerExpire_none hpop]
            exact hupdate TimerSys.container_setContainer
        | some timer =>
            rw [TimerSys.proc_timerExpire_some hpop]
            trivial

/-- A step that concerns one container only. -/
lemma Wakes.change (h : Wakes s) (hx : ∀ c', c' ≠ c → t.container c' = s.container c')
    (hmsg : ∀ c', .timerExpire c' ∈ s.msgs → .timerExpire c' ∈ t.msgs)
    (hev : ∀ c', c' ≠ c → c' ∈ s.events → c' ∈ t.events)
    (hpc : ∀ c' p, c' ≠ c → s.pc.Arms p c' → t.pc.Arms p c') (hc : Covered t c)
    (hsettles : t.pc.Settles t.heap) : Wakes t := by
  refine ⟨fun c' => ?_, hsettles⟩
  rcases eq_or_ne c' c with rfl | hne
  · exact hc
  · exact (h.covered c').mono (hx c' hne) (hmsg c') (fun hc' => Or.inl (hev c' hne hc'))
      (hpc c' _ hne)

/-- A step that changes no container, and at most ends a message. -/
lemma Wakes.same (h : Wakes s) (hx : t.container = s.container)
    (hp : t.pc = s.pc ∨ (t.pc = .idle ∧ ∀ p c, ¬ s.pc.Arms p c))
    (hmsg : ∀ c, .timerExpire c ∈ s.msgs → .timerExpire c ∈ t.msgs)
    (hev : ∀ c ∈ s.events, c ∈ t.events) : Wakes t := by
  have hheap : t.heap = s.heap := by
    funext c
    rw [TimerSys.heap, hx, TimerSys.heap]
  refine ⟨fun c => (h.covered c).mono (congrFun hx c) (hmsg c) (fun hc => Or.inl (hev c hc)) ?_, ?_⟩
  · rcases hp with hp | ⟨_, hnot⟩
    · rw [hp]
      exact id
    · exact fun harms => absurd harms (hnot _ _)
  · rcases hp with hp | ⟨hp, _⟩
    · rw [hp, hheap]
      exact h.settles
    · rw [hp]
      trivial

/-- The poll thread changes the fd of its event, and is going to post. -/
lemma Wakes.poll (h : Wakes s) {rest : List Bool} (hev : s.events = c :: rest)
    (hx : x.heap = (s.container c).heap) {phase : Phase} :
    Wakes { s.setContainer c x with phase := phase } := by
  refine h.change (c := c) (fun c' hne => TimerSys.container_setContainer_of_ne hne) (fun _ => id)
    (fun _ _ => id) (fun _ _ _ => id) ?_ ?_
  · refine .of_event ?_
    show c ∈ s.events
    rw [hev]
    exact List.mem_cons_self
  · show s.pc.Settles (s.setContainer c x).heap
    rw [TimerSys.heap_setContainer hx]
    exact h.settles

/-- The message thread goes on inside a message for the container. -/
lemma Wakes.goOn (h : Wakes s) (harms : ∀ c' p, s.pc.Arms p c' → c = c')
    (hx : ∀ c', c' ≠ c → t.container c' = s.container c')
    (hmsg : ∀ c', .timerExpire c' ∈ s.msgs → .timerExpire c' ∈ t.msgs)
    (hev : t.events = s.events) (hc : Covered t c) (hsettles : t.pc.Settles t.heap) : Wakes t := by
  refine h.change hx hmsg (fun c' _ hc' => hev ▸ hc') ?_ hc hsettles
  intro c' p hne hp
  exact absurd (harms c' p hp).symm hne

/-- **Every step leaves the containers covered.** -/
lemma Wakes.step (h : Wakes s) (hk : Kept as s) (hst : s.Step a t) : Wakes t := by
  have hk' := hk.step hst
  have hsettles := h.settles
  have hcovered := h.covered
  cases hst.cases with
  | tick hle => exact h.same rfl (Or.inl rfl) (fun _ => id) (fun _ => id)
  | @start k ms read wake h0 hle =>
      cases hT : s.mTimer k with
      | some d =>
          rw [TimerSys.start_some hT]
          exact h
      | none =>
          rw [TimerSys.start_none hT]
          exact h.same rfl (Or.inl rfl) (fun _ => List.mem_append_left _) (fun _ => id)
  | @stop k =>
      cases hT : s.mTimer k with
      | none =>
          rw [TimerSys.stop_none hT]
          exact h
      | some d =>
          rw [TimerSys.stop_some hT (hk.owned.contained k d hT)]
          exact h.same rfl (Or.inl rfl) (fun _ => List.mem_append_left _) (fun _ => id)
  | epollWait hidle hready =>
      refine h.same rfl (Or.inl rfl) (fun _ => id) fun c hc => ?_
      rw [hidle] at hc
      cases hc
  | @disarm c rest hev => exact h.poll (x := { s.container c with fd := .zero }) hev rfl
  | @unpoll c rest hev => exact h.poll (x := { s.container c with polled := false }) hev rfl
  | @post c rest hev =>
      refine h.change (c := c) (fun _ _ => rfl) (fun _ => List.mem_append_left _) ?_
        (fun _ _ _ => id) ?_ hsettles
      · intro c' hne hc'
        rw [hev] at hc'
        exact (List.mem_cons.mp hc').resolve_left hne
      · exact .of_msg (List.mem_append_right _ List.mem_cons_self)
  | proc hpc hmsgs => exact h.proc hpc hmsgs hk'
  | @addPoll c time del hpc =>
      rw [hpc] at hsettles
      refine h.goOn (by rw [hpc]; exact fun _ _ hp => hp)
        (fun c' hne => TimerSys.container_setContainer_of_ne hne) (fun _ => id) rfl ?_ ?_
      · exact .of_arms ⟨rfl, congrArg LocTimerContainer.polled TimerSys.container_setContainer⟩
      · have hheap : (s.setContainer c { s.container c with polled := true }).heap = s.heap :=
          TimerSys.heap_setContainer rfl
        rw [← hheap] at hsettles
        exact Or.inr hsettles
  | @removePoll c del hpc =>
      rw [hpc] at hsettles
      refine h.goOn (by rw [hpc]; exact fun _ _ hp => hp.elim)
        (fun c' hne => TimerSys.container_setContainer_of_ne hne) (fun _ => id) rfl ?_ ?_
      · exact Or.inl ((congrArg LocTimerContainer.heap TimerSys.container_setContainer).trans hsettles)
      · have hheap : (s.setContainer c { s.container c with polled := false }).heap = s.heap :=
          TimerSys.heap_setContainer rfl
        rw [← hheap] at hsettles
        exact Or.inl hsettles
  | @setTime c time del hpc =>
      have hc := hcovered c
      rw [hpc] at hsettles
      rw [Covered, hpc] at hc
      refine h.goOn (by rw [hpc]; exact fun _ _ hp => hp.1)
        (fun c' hne => TimerSys.container_setContainer_of_ne hne) (fun _ => id) rfl ?_
        (by cases del <;> trivial)
      have hx : (s.setContainer c { s.container c with fd := time }).container c =
          { s.container c with fd := time } := TimerSys.container_setContainer
      rw [Covered]
      dsimp only
      rw [hx]
      have harmed : (s.container c).polled = true → (s.container c).heap = null ∨
          LocTimerContainer.Armed { s.container c with fd := time } :=
        fun hpolled => hsettles.imp_right fun hsoon => ⟨hpolled, hsoon⟩
      rcases hc with hc | hc | hc | hc | hc
      · exact Or.inl hc
      · exact (harmed hc.1).imp_right Or.inl
      · exact Or.inr (Or.inr (Or.inl hc))
      · exact Or.inr (Or.inr (Or.inr (Or.inl hc)))
      · exact (harmed hc.2).imp_right Or.inl
  | delete hpc =>
      exact h.same rfl (Or.inr ⟨rfl, by rw [hpc]; exact fun _ _ => id⟩) (fun _ => id) (fun _ => id)
  | attached hpc hclient =>
      exact h.goOn (by rw [hpc]; exact fun _ _ hp => hp) (fun _ _ => rfl) (fun _ => id) rfl
        (.of_arms rfl) trivial
  | detached hpc hclient =>
      exact h.goOn (by rw [hpc]; exact fun _ _ hp => hp) (fun _ _ => rfl) (fun _ => id) rfl
        (.of_arms rfl) trivial
  | stopNone hpc hT =>
      exact h.goOn (by rw [hpc]; exact fun _ _ hp => hp) (fun _ _ => rfl) (fun _ => id) rfl
        (.of_arms rfl) trivial
  | @stopSome c now d d' hpc hT =>
      rw [TimerSys.stop_some hT (hk.owned.contained _ d' hT)]
      exact h.goOn (by rw [hpc]; exact fun _ _ hp => hp) (fun _ _ => rfl)
        (fun _ => List.mem_append_left _) rfl (.of_arms rfl) trivial
  | timeOutCallback hpc =>
      exact h.goOn (by rw [hpc]; exact fun _ _ hp => hp) (fun _ _ => rfl) (fun _ => id) rfl
        (.of_arms rfl) trivial
  | @popSome c now top hpc htop hdue =>
      exact h.goOn (by rw [hpc]; exact fun _ _ hp => hp)
        (fun c' hne => TimerSys.container_setContainer_of_ne hne) (fun _ => id) rfl
        (.of_arms rfl) trivial
  | popNone hpc =>
      exact h.goOn (by rw [hpc]; exact fun _ _ hp => hp) (fun _ _ => rfl) (fun _ => id) rfl
        (covered_update rfl rfl) (settles_update rfl fun top htop => hk.time_pos htop)

end Step

lemma wakes_init : Wakes .init := ⟨fun _ => Or.inl rfl, trivial⟩

/-- **Behind every run each container is covered.** -/
lemma Wakes.of_run {as : List Action} {s : TimerSys} (hr : Run TimerSys.Step .init as s) :
    Wakes s :=
  (hr.history (P := fun as s => Kept as s ∧ Wakes s)
    (fun _ _ _ _ h hst => ⟨h.1.step hst, h.2.step h.1 hst⟩) ⟨kept_init, wakes_init⟩).2

end Gps.Timer
