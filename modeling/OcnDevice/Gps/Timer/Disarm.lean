import OcnDevice.Gps.Timer.Armed

/-!
# The fd of an empty heap

When no timer is left in a container its fd should be disarmed and off the poll.  A comment in
`updateSoonestTime` says so, and its first branch does that, where the top is null and the prior top
is not.  But the messages that take timers out of the heap pass null as the prior top, and then
nothing is done for an empty heap: the branch is never reached (`OnTop`).

What disarms the fd is the poll thread, for an expiry.  So an empty heap is off just if the last
timer was taken out when the fd was already off (`TimerSys.LeavesOff`): by the message of an expiry,
and with nobody having armed the fd in between.  A fd that was not off wakes the poll thread
up for no timer.
-/

namespace Gps.Timer

open LocHeapNode

/-! ## Statement -/

namespace TimerSys

variable (s t : TimerSys) (c : Bool)

/-- The poll thread has woken for the container and has not yet disarmed its fd. -/
def WillDisarm : Prop :=
  ∃ e rest, s.events = e :: rest ∧ (c ∈ rest ∨ (c = e ∧ s.phase = .woken))

/-- The poll thread has woken for the container and has not yet taken its fd off the poll. -/
def WillUnpoll : Prop :=
  ∃ e rest, s.events = e :: rest ∧ (c ∈ rest ∨ (c = e ∧ s.phase ≠ .removed))

/-- What the poll thread will do is known from its events. -/
lemma exists_cons_iff {l : List Bool} {p : Prop} :
    (∃ e rest, l = e :: rest ∧ (c ∈ rest ∨ (c = e ∧ p))) ↔
      c ∈ l.tail ∨ (l.head? = some c ∧ p) := by
  cases l with
  | nil => simp
  | cons e rest =>
      constructor
      · rintro ⟨e', rest', heq, hc⟩
        obtain ⟨rfl, rfl⟩ := List.cons.inj heq
        exact hc.imp_right fun h => ⟨congrArg some h.1.symm, h.2⟩
      · intro hc
        exact ⟨e, rest, rfl, hc.imp_right fun h => ⟨(Option.some.inj h.1).symm, h.2⟩⟩

instance : Decidable (s.WillDisarm c) :=
  decidable_of_iff (c ∈ s.events.tail ∨ (s.events.head? = some c ∧ s.phase = .woken))
    (exists_cons_iff c).symm

instance : Decidable (s.WillUnpoll c) :=
  decidable_of_iff (c ∈ s.events.tail ∨ (s.events.head? = some c ∧ s.phase ≠ .removed))
    (exists_cons_iff c).symm

/-- **The fd is disarmed and off the poll**, or will be when the poll thread has got through what it
has woken for. -/
structure Off : Prop where
  disarmed : (s.container c).fd = .zero ∨ s.WillDisarm c
  unpolled : (s.container c).polled = false ∨ s.WillUnpoll c

instance : Decidable (s.Off c) :=
  decidable_of_iff (((s.container c).fd = .zero ∨ s.WillDisarm c) ∧
    ((s.container c).polled = false ∨ s.WillUnpoll c)) ⟨fun h => ⟨h.1, h.2⟩, fun h => ⟨h.1, h.2⟩⟩

/-- The fd of an empty heap is off. -/
def EmptyOff : Prop := ∀ c, (s.container c).heap = null → s.Off c

/-- **A step that takes the last timer out of a heap finds its fd off.** -/
def LeavesOff : Prop := ∀ c, (s.container c).heap ≠ null → (t.container c).heap = null → s.Off c

instance : Decidable (s.LeavesOff t) :=
  decidable_of_iff (∀ c, ¬(s.container c).heap.peek = none → (t.container c).heap.peek = none →
    s.Off c) (by simp only [LeavesOff, peek_eq_none, ne_eq])

end TimerSys

/-- A step that takes the last timer out of a heap only when its fd is off. -/
def OffStep (s : TimerSys) (a : Action) (t : TimerSys) : Prop := s.Step a t ∧ s.LeavesOff t

/-! ## The fd is armed for a timer -/

/-- The message thread arms an fd only for a heap that has a timer, and takes no fd off the poll. -/
def Pc.OnTop (heap : Bool → LocHeapNode LocTimerDelegate) : Pc → Prop
  | .addPoll c _ _ => heap c ≠ null
  | .setTime c _ _ => heap c ≠ null
  | .removePoll _ _ => False
  | _ => True

section OnTop

variable {s t : TimerSys} {a : Action} {c : Bool} {x : LocTimerContainer}
  {del prior : Option LocTimerDelegate} {heap : Bool → LocHeapNode LocTimerDelegate}

lemma onTop_after : (Pc.after del).OnTop heap := by
  cases del <;> trivial

/-- `updateSoonestTime` for a prior top that has not left an empty heap. -/
lemma onTop_update (hheap : heap c = x.heap) (hprior : x.heap.peek = none → prior = none) :
    (x.updateSoonestTime c prior del).OnTop heap := by
  rcases updateSoonestTime_cases x c prior del with ⟨hp, _⟩ | ⟨_, hnone, hne⟩ | ⟨top, hp, htop⟩
  · rw [hp]
    exact onTop_after
  · exact absurd (hprior hnone) hne
  · rw [hp]
    intro hnull
    rw [← hheap, peek_eq_none.mpr hnull] at htop
    cases htop

/-- What the message thread takes from the queue. -/
lemma onTop_proc {msg : LocMsg} : (s.proc msg).pc.OnTop (s.proc msg).heap := by
  have hheap : ∀ {c : Bool} {x : LocTimerContainer}, (s.proc msg).container c = x →
      (s.proc msg).heap c = x.heap := fun hx => congrArg LocTimerContainer.heap hx
  cases msg with
  | timerPush d =>
      refine onTop_update (hheap TimerSys.container_setContainer) fun hnone => ?_
      rcases push_peek (t := (s.container d.wakeOnExpire).heap) (x := d) with
        ⟨y, _, hpeek⟩ | ⟨hpeek, _⟩
      · exact absurd (hpeek.symm.trans hnone) (Option.some_ne_none y)
      · exact absurd (hpeek.symm.trans hnone) (Option.some_ne_none d)
  | timerRemove d =>
      rcases eq_or_ne (s.container d.wakeOnExpire).heap.peek
          ((s.container d.wakeOnExpire).heap.remove d).2 with heq | hne
      · have hp : (s.proc (.timerRemove d)).pc = _ := if_pos heq
        rw [hp]
        exact onTop_update (hheap TimerSys.container_setContainer) fun _ => rfl
      · have hp : (s.proc (.timerRemove d)).pc = _ := if_neg hne
        rw [hp]
        trivial
  | timerExpire c =>
      cases hpop : (s.container c).heap.pop.2 with
      | none =>
          rw [TimerSys.proc_timerExpire_none hpop]
          exact onTop_update (hheap TimerSys.container_setContainer) fun _ => rfl
      | some timer =>
          rw [TimerSys.proc_timerExpire_some hpop]
          trivial

/-- Stopping a timer concerns no container, and no thread that polls. -/
lemma TimerSys.stop_frame {k : ℕ} : (s.stop k).1.container = s.container ∧
    (s.stop k).1.events = s.events ∧ (s.stop k).1.phase = s.phase ∧ (s.stop k).1.pc = s.pc := by
  rw [stop]
  split
  · exact ⟨rfl, rfl, rfl, rfl⟩
  · dsimp only [destroyLocked]
    split_ifs <;> exact ⟨rfl, rfl, rfl, rfl⟩

lemma TimerSys.start_frame {k ms : ℕ} {read : Timespec} {wake : Bool} :
    (s.start k read ms wake).1.container = s.container ∧
      (s.start k read ms wake).1.events = s.events ∧
      (s.start k read ms wake).1.phase = s.phase ∧ (s.start k read ms wake).1.pc = s.pc := by
  rw [start]
  split <;> exact ⟨rfl, rfl, rfl, rfl⟩

lemma TimerSys.heap_congr (h : t.container = s.container) : t.heap = s.heap := by
  funext c
  rw [heap, h, heap]

lemma Pc.OnTop.congr (h : s.pc.OnTop s.heap) (hx : t.container = s.container) (hp : t.pc = s.pc) :
    t.pc.OnTop t.heap := by
  rwa [hp, TimerSys.heap_congr hx]

/-- **The fd is only ever armed for a timer.** -/
lemma Pc.OnTop.step (h : s.pc.OnTop s.heap) (hst : s.Step a t) : t.pc.OnTop t.heap := by
  cases hst.cases with
  | tick hle => exact h
  | start h0 hle => exact h.congr TimerSys.start_frame.1 TimerSys.start_frame.2.2.2
  | stop => exact h.congr TimerSys.stop_frame.1 TimerSys.stop_frame.2.2.2
  | epollWait hidle hready => exact h
  | @disarm c rest hev =>
      have hheap : (s.setContainer c { s.container c with fd := .zero }).heap = s.heap :=
        TimerSys.heap_setContainer rfl
      rw [← hheap] at h
      exact h
  | @unpoll c rest hev =>
      have hheap : (s.setContainer c { s.container c with polled := false }).heap = s.heap :=
        TimerSys.heap_setContainer rfl
      rw [← hheap] at h
      exact h
  | post hev => exact h
  | proc hpc hmsgs => exact onTop_proc
  | @addPoll c time del hpc =>
      have hheap : (s.setContainer c { s.container c with polled := true }).heap = s.heap :=
        TimerSys.heap_setContainer rfl
      rw [hpc, ← hheap] at h
      exact h
  | removePoll hpc =>
      rw [hpc] at h
      exact h.elim
  | setTime hpc => exact onTop_after
  | delete hpc => trivial
  | attached hpc hclient => trivial
  | detached hpc hclient => trivial
  | stopNone hpc hT => trivial
  | stopSome hpc hT => trivial
  | timeOutCallback hpc => trivial
  | popSome hpc htop hdue => trivial
  | popNone hpc => exact onTop_update rfl fun _ => rfl

lemma Pc.OnTop.of_run {as : List Action} (hr : Run TimerSys.Step .init as s) :
    s.pc.OnTop s.heap :=
  hr.invariant (P := fun s => s.pc.OnTop s.heap) (fun _ _ _ h hst => h.step hst) trivial

end OnTop

/-! ## The fd of a container -/

/-- The fd of the container, and what the poll thread is at, are the same. -/
structure SameFd (s t : TimerSys) (c : Bool) : Prop where
  fd : (t.container c).fd = (s.container c).fd
  polled : (t.container c).polled = (s.container c).polled
  events : t.events = s.events
  phase : t.phase = s.phase

section Off

variable {s t : TimerSys} {a : Action} {c : Bool} {x : LocTimerContainer}

lemma SameFd.of_eq (hx : t.container = s.container) (hev : t.events = s.events)
    (hphase : t.phase = s.phase) : SameFd s t c :=
  ⟨by rw [hx], by rw [hx], hev, hphase⟩

lemma SameFd.off_iff (h : SameFd s t c) : t.Off c ↔ s.Off c := by
  have hdisarm : t.WillDisarm c ↔ s.WillDisarm c := by
    rw [TimerSys.WillDisarm, TimerSys.WillDisarm, h.events, h.phase]
  have hunpoll : t.WillUnpoll c ↔ s.WillUnpoll c := by
    rw [TimerSys.WillUnpoll, TimerSys.WillUnpoll, h.events, h.phase]
  constructor
  · rintro ⟨hd, hp⟩
    rw [h.fd, hdisarm] at hd
    rw [h.polled, hunpoll] at hp
    exact ⟨hd, hp⟩
  · rintro ⟨hd, hp⟩
    rw [← h.fd, ← hdisarm] at hd
    rw [← h.polled, ← hunpoll] at hp
    exact ⟨hd, hp⟩

/-- A container with another heap. -/
lemma sameFd_setContainer {c' : Bool} {h : LocHeapNode LocTimerDelegate} :
    SameFd s (s.setContainer c' { s.container c' with heap := h }) c := by
  rcases eq_or_ne c c' with rfl | hne
  · exact ⟨by rw [TimerSys.container_setContainer], by rw [TimerSys.container_setContainer], rfl, rfl⟩
  · exact ⟨by rw [TimerSys.container_setContainer_of_ne hne],
      by rw [TimerSys.container_setContainer_of_ne hne], rfl, rfl⟩

/-- The messages change heaps only. -/
lemma sameFd_proc {msg : LocMsg} {rest : List LocMsg} :
    SameFd s ({ s with msgs := rest }.proc msg) c := by
  have hset : ∀ {c' : Bool} {h : LocHeapNode LocTimerDelegate}, SameFd s
      (({ s with msgs := rest } : TimerSys).setContainer c' { s.container c' with heap := h }) c :=
    ⟨sameFd_setContainer.fd, sameFd_setContainer.polled, rfl, rfl⟩
  cases msg with
  | timerPush d => exact ⟨hset.fd, hset.polled, rfl, rfl⟩
  | timerRemove d => exact ⟨hset.fd, hset.polled, rfl, rfl⟩
  | timerExpire c' => exact ⟨hset.fd, hset.polled, rfl, rfl⟩

/-- The step of a thread that changes the fd of a container leaves the others alone. -/
lemma container_heap_setContainer {c' : Bool} (hx : x.heap = (s.container c').heap) :
    ((s.setContainer c' x).container c).heap = (s.container c).heap :=
  congrFun (TimerSys.heap_setContainer hx) c

/-- **A step that changes a heap** does not touch the fd. -/
lemma sameFd_of_heap (hst : s.Step a t) (hne : (t.container c).heap ≠ (s.container c).heap) :
    SameFd s t c := by
  cases hst.cases with
  | tick hle => exact absurd rfl hne
  | start h0 hle =>
      exact .of_eq TimerSys.start_frame.1 TimerSys.start_frame.2.1 TimerSys.start_frame.2.2.1
  | stop => exact .of_eq TimerSys.stop_frame.1 TimerSys.stop_frame.2.1 TimerSys.stop_frame.2.2.1
  | epollWait hidle hready => exact absurd rfl hne
  | disarm hev => exact (hne (container_heap_setContainer rfl)).elim
  | unpoll hev => exact (hne (container_heap_setContainer rfl)).elim
  | post hev => exact absurd rfl hne
  | proc hpc hmsgs => exact sameFd_proc
  | addPoll hpc => exact (hne (container_heap_setContainer rfl)).elim
  | removePoll hpc => exact (hne (container_heap_setContainer rfl)).elim
  | setTime hpc => exact (hne (container_heap_setContainer rfl)).elim
  | delete hpc => exact absurd rfl hne
  | attached hpc hclient => exact absurd rfl hne
  | detached hpc hclient => exact absurd rfl hne
  | stopNone hpc hT => exact absurd rfl hne
  | stopSome hpc hT =>
      exact .of_eq TimerSys.stop_frame.1 TimerSys.stop_frame.2.1 TimerSys.stop_frame.2.2.1
  | timeOutCallback hpc => exact absurd rfl hne
  | popSome hpc htop hdue => exact ⟨sameFd_setContainer.fd, sameFd_setContainer.polled, rfl, rfl⟩
  | popNone hpc => exact absurd rfl hne

lemma TimerSys.Off.congr (h : s.Off c) (hfd : SameFd s t c) : t.Off c := hfd.off_iff.mpr h

/-- An fd is armed for a heap that has a timer. -/
lemma TimerSys.Off.arm (h : s.Off c) {e : Bool} (hheap : s.heap e ≠ null)
    (hx : t.container = (s.setContainer e x).container) (hxe : x.heap = (s.container e).heap)
    (hev : t.events = s.events) (hphase : t.phase = s.phase)
    (hnull : (t.container c).heap = null) : t.Off c := by
  have hne : c ≠ e := by
    rintro rfl
    rw [hx, container_setContainer, hxe] at hnull
    exact hheap hnull
  refine h.congr ⟨?_, ?_, hev, hphase⟩
  · rw [hx, container_setContainer_of_ne hne]
  · rw [hx, container_setContainer_of_ne hne]

/-- The poll thread goes on, and what it will do for another container, it still will. -/
lemma TimerSys.Off.poll (h : s.Off c) {e : Bool} {rest : List Bool} (hev : s.events = e :: rest)
    (hevt : t.events = e :: rest) (hne : c ≠ e) (hx : t.container c = s.container c) : t.Off c := by
  have hrest : ∀ {p : Prop}, (∃ e' rest', s.events = e' :: rest' ∧ (c ∈ rest' ∨ (c = e' ∧ p))) →
      c ∈ rest := by
    rintro p ⟨e', rest', heq, hc⟩
    obtain ⟨rfl, rfl⟩ := List.cons.inj (hev.symm.trans heq)
    exact hc.resolve_right fun h => hne h.1
  refine ⟨?_, ?_⟩
  · rw [hx]
    exact h.disarmed.imp_right fun hw => ⟨e, rest, hevt, Or.inl (hrest hw)⟩
  · rw [hx]
    exact h.unpolled.imp_right fun hw => ⟨e, rest, hevt, Or.inl (hrest hw)⟩

lemma TimerSys.Off.same (h : s.Off c) (hx : t.container = s.container) (hev : t.events = s.events)
    (hphase : t.phase = s.phase) : t.Off c :=
  h.congr (.of_eq hx hev hphase)

/-- **The fd of an empty heap stays off.** -/
lemma TimerSys.Off.step (h : s.Off c) (htop : s.pc.OnTop s.heap) (hst : s.Step a t)
    (hnull : (t.container c).heap = null) : t.Off c := by
  cases hst.cases with
  | tick hle => exact h.same rfl rfl rfl
  | start h0 hle => exact h.same start_frame.1 start_frame.2.1 start_frame.2.2.1
  | stop => exact h.same stop_frame.1 stop_frame.2.1 stop_frame.2.2.1
  | epollWait hidle hready =>
      refine ⟨Or.inl (h.disarmed.resolve_right ?_), Or.inl (h.unpolled.resolve_right ?_)⟩
      · rintro ⟨e, rest, hev, -⟩
        rw [hidle] at hev
        cases hev
      · rintro ⟨e, rest, hev, -⟩
        rw [hidle] at hev
        cases hev
  | @disarm e rest hev hphase =>
      rcases eq_or_ne c e with rfl | hne
      · refine ⟨Or.inl (congrArg LocTimerContainer.fd container_setContainer), Or.inr ?_⟩
        exact ⟨c, rest, hev, Or.inr ⟨rfl, by simp⟩⟩
      · exact h.poll hev hev hne (container_setContainer_of_ne hne)
  | @unpoll e rest hev hphase =>
      rcases eq_or_ne c e with rfl | hne
      · have hfd : ((s.setContainer c { s.container c with polled := false }).container c).fd =
            (s.container c).fd := by rw [container_setContainer]
        refine ⟨?_, Or.inl (congrArg LocTimerContainer.polled container_setContainer)⟩
        rcases h.disarmed with hzero | ⟨e', rest', hev', hc⟩
        · exact Or.inl (hfd.trans hzero)
        · obtain ⟨rfl, rfl⟩ := List.cons.inj (hev.symm.trans hev')
          refine Or.inr ⟨c, rest, hev, Or.inl (hc.resolve_right ?_)⟩
          rw [hphase]
          exact fun h => Phase.noConfusion h.2
      · exact h.poll hev hev hne (container_setContainer_of_ne hne)
  | @post e rest hev hphase =>
      have hrest : ∀ {p : Prop}, (s.phase = .removed → ¬p) →
          (∃ e' rest', s.events = e' :: rest' ∧ (c ∈ rest' ∨ (c = e' ∧ p))) → c ∈ rest := by
        rintro p hp ⟨e', rest', heq, hc⟩
        obtain ⟨rfl, rfl⟩ := List.cons.inj (hev.symm.trans heq)
        exact hc.resolve_right fun h => hp hphase h.2
      have hnext : c ∈ rest → ∃ e' rest', rest = e' :: rest' ∧ (c ∈ rest' ∨ c = e') := by
        intro hc
        obtain ⟨e', rest', rfl⟩ := List.exists_cons_of_ne_nil (List.ne_nil_of_mem hc)
        exact ⟨e', rest', rfl, (List.mem_cons.mp hc).symm⟩
      refine ⟨h.disarmed.imp_right fun hw => ?_, h.unpolled.imp_right fun hw => ?_⟩
      · obtain ⟨e', rest', heq, hc⟩ := hnext (hrest (by simp +contextual) hw)
        exact ⟨e', rest', heq, hc.imp_right fun hc => ⟨hc, rfl⟩⟩
      · obtain ⟨e', rest', heq, hc⟩ := hnext (hrest (fun h hn => hn h) hw)
        exact ⟨e', rest', heq, hc.imp_right fun hc => ⟨hc, by simp⟩⟩
  | proc hpc hmsgs => exact h.congr sameFd_proc
  | addPoll hpc =>
      rw [hpc] at htop
      exact h.arm htop rfl rfl rfl rfl hnull
  | removePoll hpc =>
      rw [hpc] at htop
      exact htop.elim
  | setTime hpc =>
      rw [hpc] at htop
      exact h.arm htop rfl rfl rfl rfl hnull
  | delete hpc => exact h.same rfl rfl rfl
  | attached hpc hclient => exact h.same rfl rfl rfl
  | detached hpc hclient => exact h.same rfl rfl rfl
  | stopNone hpc hT => exact h.same rfl rfl rfl
  | stopSome hpc hT => exact h.same stop_frame.1 stop_frame.2.1 stop_frame.2.2.1
  | timeOutCallback hpc => exact h.same rfl rfl rfl
  | popSome hpc hpeek hdue =>
      exact h.congr ⟨sameFd_setContainer.fd, sameFd_setContainer.polled, rfl, rfl⟩
  | popNone hpc => exact h.same rfl rfl rfl

/-- **A step leaves the fds of empty heaps off** just if it takes the last timer out of none whose
fd is on. -/
lemma TimerSys.EmptyOff.step_iff (h : s.EmptyOff) (htop : s.pc.OnTop s.heap) (hst : s.Step a t) :
    t.EmptyOff ↔ s.LeavesOff t := by
  constructor
  · intro ht c hne hnull
    have hfd : SameFd s t c := sameFd_of_heap hst fun heq => hne (heq.symm.trans hnull)
    exact hfd.off_iff.mp (ht c hnull)
  · intro hleaves c hnull
    rcases eq_or_ne (s.container c).heap null with hs | hs
    · exact (h c hs).step htop hst hnull
    · exact (hleaves c hs hnull).step htop hst hnull

end Off

/-! ## The result -/

lemma emptyOff_init : TimerSys.init.EmptyOff := fun _ _ => ⟨Or.inl rfl, Or.inl rfl⟩

lemma TimerSys.EmptyOff.of_run {as : List Action} {s : TimerSys} (hr : Run OffStep .init as s) :
    s.EmptyOff :=
  (hr.invariant (P := fun s => s.pc.OnTop s.heap ∧ s.EmptyOff)
    (fun _ _ _ h hst => ⟨h.1.step hst.1, (h.2.step_iff h.1 hst.1).mpr hst.2⟩)
    ⟨trivial, emptyOff_init⟩).2

end Gps.Timer
