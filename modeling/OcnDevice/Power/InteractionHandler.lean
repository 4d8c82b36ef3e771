import OcnDevice.Core.Run
import OcnDevice.Core.Separated

/-!
# The interaction boost

`InteractionHandler` keeps the `INTERACTION` hint started while the user interacts.  `Acquire` may
come from any thread, and starts or prolongs the boost; one thread, `Routine`, waits until the
display is idle or the boost has lasted long enough, and ends it in `Release`.  An `Acquire` that
finds `Routine` in its wait wakes it through an eventfd, and the `Release` that follows does not end
the hint then, but empties the eventfd again.

The sections under `mLock` are steps, and so is each call on the eventfd: a section that writes or
reads it is cut in pieces, and `mLock` is held in between (`LockPc`).  What has happened is kept as a
list of marks.

There are only seven ways in which the lock, the state, `Routine` and the eventfd go together
(`Phase`); what the marks say is added to them in `Inv`.
-/

namespace Power

/-! ## The handler -/

/-- `interaction_state`. -/
inductive InteractionState
  | uninitialized
  | idle
  | interaction
  | waiting
  deriving DecidableEq, Repr

/-- `struct timespec`. -/
structure Timespec where
  tv_sec : ℤ
  tv_nsec : ℤ
  deriving DecidableEq, Repr

/-- `CalcTimespecDiffMs`. -/
def calcTimespecDiffMs (start stop : Timespec) : ℤ :=
  (stop.tv_sec - start.tv_sec) * 1000 + (stop.tv_nsec - start.tv_nsec).tdiv 1000000

/-- `mMinDurationMs`. -/
def minDurationMs : ℤ := 1400

/-- `mMaxDurationMs`. -/
def maxDurationMs : ℤ := 5650

/-- `finalDuration` of `Acquire`, in 32-bit arithmetic. -/
def finalDuration (duration : ℤ) : ℤ :=
  let inputDuration := (duration + 650).bmod (2 ^ 32)
  if inputDuration > maxDurationMs then maxDurationMs
  else if inputDuration > minDurationMs then inputDuration
  else minDurationMs

/-- Where the thread stands that holds `mLock` between two calls on the eventfd. -/
inductive LockPc
  /-- In `Acquire`, before the write of `AbortWaitLocked`. -/
  | abortWait
  /-- In `Acquire`, after it. -/
  | finishAcquire
  /-- In `Release`, before its read. -/
  | clearAbort
  deriving DecidableEq, Repr

/-- Where `Routine` stands. -/
inductive RoutinePc
  /-- Before the section that waits for a state other than idle. -/
  | sleeping
  /-- After it, before the call of `WaitForIdle`. -/
  | calling
  /-- In `WaitForIdle`, at the first poll. -/
  | polling (timeout_ms : ℤ)
  /-- At the read of the idle state. -/
  | reading (timeout_ms : ℤ)
  /-- At the second poll. -/
  | pollingIdle (timeout_ms : ℤ)
  /-- In `Release`. -/
  | releasing
  /-- `Routine` has returned. -/
  | returned
  deriving DecidableEq, Repr

/-- What has happened. -/
inductive Mark
  /-- `DoHint("INTERACTION")`. -/
  | hintStarted
  /-- `EndHint("INTERACTION")`. -/
  | hintEnded
  /-- An `Acquire` that is not covered by the one before. -/
  | accepted
  /-- It has found the handler in the state waiting. -/
  | interrupted
  /-- `Routine` has set the state waiting. -/
  | waitBegun
  /-- A poll has returned because of the eventfd. -/
  | waitAborted
  /-- `Release` has read the eventfd. -/
  | cleared
  deriving DecidableEq, Repr

/-- `InteractionHandler`. -/
structure Handler where
  mState : InteractionState
  mDurationMs : ℤ
  mLastTimespec : Timespec
  /-- The counter of `mEventFd`. -/
  mEventFd : ℕ
  /-- Who holds `mLock`, between the steps. -/
  mLock : Option LockPc
  routine : RoutinePc
  marks : List Mark
  deriving DecidableEq, Repr

/-- How a poll ends. -/
inductive PollEnd
  | timeout
  | idle
  | aborted
  | error
  deriving DecidableEq, Repr

/-- What the idle state file says. -/
inductive IdleState
  | eof
  | idle
  | busy
  deriving DecidableEq, Repr

/-- A step of a thread, with what the system calls return. -/
inductive Input
  | acquire (duration : ℤ) (cur_timespec : Timespec)
  | writeEvent
  | finishAcquire
  | wake
  | waitForIdle
  | poll (e : PollEnd)
  | readIdle (e : IdleState)
  | pollIdle (e : PollEnd)
  | release
  | readEvent
  deriving DecidableEq, Repr

namespace Handler

/-- The handler after `Init`. -/
def init (mLastTimespec : Timespec) : Handler :=
  ⟨.idle, 0, mLastTimespec, 0, none, .sleeping, []⟩

/-- The boost that is on lasts long enough. -/
def covered (s : Handler) (duration : ℤ) (cur_timespec : Timespec) : Bool :=
  decide (s.mState ≠ .idle) && decide (finalDuration duration ≤ s.mDurationMs) &&
    decide (calcTimespecDiffMs s.mLastTimespec cur_timespec ≤
      s.mDurationMs - finalDuration duration)

/-- The section of `Acquire`, up to the write of `AbortWaitLocked` if there is one. -/
def acquire (s : Handler) (duration : ℤ) (cur_timespec : Timespec) : Handler :=
  if s.mState = .uninitialized then s
  else if s.covered duration cur_timespec then s
  else
    let s := { s with mLastTimespec := cur_timespec, mDurationMs := finalDuration duration }
    match s.mState with
    | .waiting => { s with mLock := some .abortWait, marks := s.marks ++ [.accepted, .interrupted] }
    | .idle => { s with mState := .interaction, marks := s.marks ++ [.accepted, .hintStarted] }
    | _ => { s with mState := .interaction, marks := s.marks ++ [.accepted] }

/-- The section at the head of the loop of `Routine`, once it is not idle. -/
def wake (s : Handler) : Handler :=
  if s.mState = .uninitialized then { s with routine := .returned }
  else { s with mState := .waiting, routine := .calling, marks := s.marks ++ [.waitBegun] }

/-- The section of `Release`, up to its read if there is one. -/
def release (s : Handler) : Handler :=
  if s.mState = .waiting then
    { s with mState := .idle, routine := .sleeping, marks := s.marks ++ [.hintEnded] }
  else { s with mLock := some .clearAbort }

/-- A poll that ends: only a readable eventfd aborts it, and a first poll that times out is followed
by a look at the idle state. -/
def pollEnds (s : Handler) (e : PollEnd) (onTimeout : RoutinePc) : Option Handler :=
  match e with
  | .aborted =>
      if 0 < s.mEventFd then
        some { s with routine := .releasing, marks := s.marks ++ [.waitAborted] }
      else none
  | .timeout => some { s with routine := onTimeout }
  | _ => some { s with routine := .releasing }

/-- The step of a thread, if it can be taken. -/
def next (s : Handler) : Input → Option Handler
  | .acquire duration cur_timespec =>
      if s.mLock = none then some (s.acquire duration cur_timespec) else none
  | .writeEvent =>
      if s.mLock = some .abortWait then
        some { s with mEventFd := s.mEventFd + 1, mLock := some .finishAcquire }
      else none
  | .finishAcquire =>
      if s.mLock = some .finishAcquire then
        some { s with mState := .interaction, mLock := none }
      else none
  | .wake =>
      if s.mLock = none ∧ s.routine = .sleeping ∧ s.mState ≠ .idle then some s.wake else none
  | .waitForIdle =>
      if s.routine = .calling then some { s with routine := .polling s.mDurationMs } else none
  | .poll e =>
      match s.routine with
      -- the first poll is on the eventfd only
      | .polling timeout_ms => if e = .idle then none else s.pollEnds e (.reading timeout_ms)
      | _ => none
  | .readIdle e =>
      match s.routine with
      | .reading timeout_ms =>
          some { s with routine := if e = .busy then .pollingIdle timeout_ms else .releasing }
      | _ => none
  | .pollIdle e =>
      match s.routine with
      | .pollingIdle _ => s.pollEnds e .releasing
      | _ => none
  | .release =>
      if s.mLock = none ∧ s.routine = .releasing then some s.release else none
  | .readEvent =>
      if s.mLock = some .clearAbort then
        some { s with mEventFd := 0, mLock := none, routine := .sleeping,
                      marks := s.marks ++ [.cleared] }
      else none

/-- A step of one of the threads. -/
def Step (s : Handler) (i : Input) (s' : Handler) : Prop := s.next i = some s'

end Handler

/-! ## What is asked of the boost -/

/-- The boost is neither leaked nor doubled nor cut short. -/
structure BoostKept (s : Handler) : Prop where
  initialized : s.mState ≠ .uninitialized
  /-- Started once more than ended, while the handler is at work. -/
  on : s.mState = .interaction ∨ s.mState = .waiting →
    s.marks.count .hintStarted = s.marks.count .hintEnded + 1
  off : s.mState = .idle → s.marks.count .hintStarted = s.marks.count .hintEnded
  /-- A token is pending only after an `Acquire` that has interrupted the state waiting, until a
  `Release` consumes it. -/
  token : 0 < s.mEventFd → Armed (· = .interrupted) (· = .cleared) s.marks
  /-- A wait is aborted only if it has been interrupted itself. -/
  fresh : Guarded (· = .waitBegun) (· = .waitAborted) (· = .interrupted) s.marks
  /-- After an accepted `Acquire` the hint ends only when a further wait has begun. -/
  uncut : Guarded (· = .accepted) (· = .hintEnded) (· = .waitBegun) s.marks

/-! ## The invariant -/

/-- `Routine` is in a wait that it has not given up yet. -/
def RoutinePc.inWait : RoutinePc → Prop
  | .sleeping => False
  | .returned => False
  | _ => True

/-- How the lock, the state, `Routine` and the eventfd go together. -/
inductive Phase : Option LockPc → InteractionState → RoutinePc → ℕ → Prop
  | idle : Phase none .idle .sleeping 0
  | started : Phase none .interaction .sleeping 0
  | waiting {pc} : pc.inWait → Phase none .waiting pc 0
  | aborting {pc} : pc.inWait → Phase (some .abortWait) .waiting pc 0
  | aborted {pc} : pc.inWait → Phase (some .finishAcquire) .waiting pc 1
  | interrupted {pc} : pc.inWait → Phase none .interaction pc 1
  | clearing : Phase (some .clearAbort) .interaction .releasing 1

namespace Phase

variable {l : Option LockPc} {st : InteractionState} {pc : RoutinePc} {n : ℕ}

lemma ne_uninitialized (h : Phase l st pc n) : st ≠ .uninitialized := by
  cases h <;> simp

/-- In a wait, `Routine` may go anywhere in it. -/
lemma move {pc' : RoutinePc} (h : Phase l st pc n) (hpc : pc.inWait) (hpc' : pc'.inWait)
    (hl : l ≠ some .clearAbort) : Phase l st pc' n := by
  cases h with
  | idle => exact hpc.elim
  | started => exact hpc.elim
  | waiting => exact .waiting hpc'
  | aborting => exact .aborting hpc'
  | aborted => exact .aborted hpc'
  | interrupted => exact .interrupted hpc'
  | clearing => exact absurd rfl hl

lemma of_idle (h : Phase none .idle pc n) : pc = .sleeping ∧ n = 0 := by
  cases h
  exact ⟨rfl, rfl⟩

lemma of_waiting (h : Phase none .waiting pc n) : pc.inWait ∧ n = 0 := by
  cases h with
  | waiting hin => exact ⟨hin, rfl⟩

lemma of_sleeping (h : Phase none st .sleeping n) : (st = .idle ∨ st = .interaction) ∧ n = 0 := by
  cases h with
  | idle => exact ⟨Or.inl rfl, rfl⟩
  | started => exact ⟨Or.inr rfl, rfl⟩
  | waiting hin => exact hin.elim
  | interrupted hin => exact hin.elim

lemma of_releasing (h : Phase none st .releasing n) (hst : st ≠ .waiting) :
    st = .interaction ∧ n = 1 := by
  cases h with
  | waiting => exact absurd rfl hst
  | interrupted => exact ⟨rfl, rfl⟩

lemma of_abortWait (h : Phase (some .abortWait) st pc n) : st = .waiting ∧ pc.inWait ∧ n = 0 := by
  cases h with
  | aborting hin => exact ⟨rfl, hin, rfl⟩

lemma of_finishAcquire (h : Phase (some .finishAcquire) st pc n) :
    st = .waiting ∧ pc.inWait ∧ n = 1 := by
  cases h with
  | aborted hin => exact ⟨rfl, hin, rfl⟩

lemma of_clearAbort (h : Phase (some .clearAbort) st pc n) : st = .interaction := by
  cases h
  rfl

/-- Only `Release` holds the lock at the read. -/
lemma not_clearing (h : Phase l st pc n) (hpc : pc ≠ .releasing) : l ≠ some .clearAbort := by
  cases h with
  | clearing => exact absurd rfl hpc
  | _ => simp

end Phase

namespace Handler

variable {s s' : Handler} {t0 : Timespec} {inputs : List Input}

/-- A token is pending, or about to be written. -/
def Pending (s : Handler) : Prop := 0 < s.mEventFd ∨ s.mLock = some .abortWait

/-- What holds after every step. -/
structure Inv (s : Handler) : Prop where
  phase : Phase s.mLock s.mState s.routine s.mEventFd
  balance : s.marks.count .hintStarted =
    s.marks.count .hintEnded + if s.mState = .idle then 0 else 1
  accepted : Armed (· = .accepted) (· = .waitBegun) s.marks → s.mState = .interaction ∨ s.Pending
  unaborted : s.Pending → ¬Armed (· = .waitBegun) (· = .interrupted) s.marks
  token : s.Pending → Armed (· = .interrupted) (· = .cleared) s.marks
  fresh : Guarded (· = .waitBegun) (· = .waitAborted) (· = .interrupted) s.marks
  uncut : Guarded (· = .accepted) (· = .hintEnded) (· = .waitBegun) s.marks

lemma Inv.boostKept (h : s.Inv) : BoostKept s where
  initialized := h.phase.ne_uninitialized
  on hs := by
    rw [h.balance, if_neg]
    rcases hs with hs | hs <;> simp [hs]
  off hs := by rw [h.balance, if_pos hs, add_zero]
  token hfd := h.token (Or.inl hfd)
  fresh := h.fresh
  uncut := h.uncut

lemma Inv.init : (init t0).Inv where
  phase := .idle
  balance := rfl
  accepted harm := absurd harm not_armed_nil
  unaborted _ := not_armed_nil
  token h := by
    rcases h with h | h
    · exact absurd h (lt_irrefl 0)
    · cases h
  fresh := guarded_nil
  uncut := guarded_nil

/-- A step that leaves the marks, what is pending and the state as they are needs a phase only. -/
lemma Inv.same (h : s.Inv) (hmarks : s'.marks = s.marks) (hstate : s'.mState = s.mState)
    (hpend : s'.Pending ↔ s.Pending)
    (hphase : Phase s'.mLock s'.mState s'.routine s'.mEventFd) : s'.Inv where
  phase := hphase
  balance := by rw [hmarks, hstate, h.balance]
  accepted harm := by
    rw [hstate, hpend]
    exact h.accepted (hmarks ▸ harm)
  unaborted hp := by
    rw [hmarks]
    exact h.unaborted (hpend.mp hp)
  token hp := by
    rw [hmarks]
    exact h.token (hpend.mp hp)
  fresh := hmarks ▸ h.fresh
  uncut := hmarks ▸ h.uncut

/-- `Routine` goes on in its wait. -/
lemma Inv.goOn {pc : RoutinePc} (h : s.Inv) (hin : s.routine.inWait)
    (hne : s.routine ≠ .releasing) (hpc : pc.inWait) : ({ s with routine := pc } : Handler).Inv :=
  h.same rfl rfl Iff.rfl (h.phase.move hin hpc (h.phase.not_clearing hne))

/-- A poll ends. -/
lemma Inv.pollEnds {e : PollEnd} {onTimeout : RoutinePc} (h : s.Inv) (hin : s.routine.inWait)
    (hne : s.routine ≠ .releasing) (htimeout : onTimeout.inWait)
    (hs : s.pollEnds e onTimeout = some s') : s'.Inv := by
  cases e with
  | timeout =>
      cases hs
      exact h.goOn hin hne htimeout
  | idle =>
      cases hs
      exact h.goOn hin hne trivial
  | error =>
      cases hs
      exact h.goOn hin hne trivial
  | aborted =>
      rw [Handler.pollEnds] at hs
      split_ifs at hs with hfd
      cases hs
      have hg : ({ s with routine := .releasing } : Handler).Inv := h.goOn hin hne trivial
      -- the token is pending, so the wait has been interrupted since it began
      have hun := h.unaborted (Or.inl hfd)
      refine ⟨hg.phase, ?_, ?_, ?_, ?_, ?_, ?_⟩
      · simpa using hg.balance
      · intro harm
        refine h.accepted ?_
        simpa [armed_snoc] using harm
      · intro _
        simpa [armed_snoc] using hun
      · intro hp
        simpa [armed_snoc] using h.token hp
      · exact guarded_snoc.mpr ⟨h.fresh, fun _ => hun⟩
      · exact guarded_snoc.mpr ⟨h.uncut, fun hx => Mark.noConfusion hx⟩

/-- The section of `Acquire`. -/
lemma Inv.acquire (h : s.Inv) (hfree : s.mLock = none) (duration : ℤ) (cur_timespec : Timespec) :
    (s.acquire duration cur_timespec).Inv := by
  rw [Handler.acquire]
  split_ifs with hu hc
  · exact h
  · exact h
  · have hfresh : ∀ l : List Mark, (∀ m ∈ l, m ≠ .waitAborted) →
        Guarded (· = .waitBegun) (· = .waitAborted) (· = .interrupted) (s.marks ++ l) :=
      fun l hl => (guarded_append hl).mpr h.fresh
    have huncut : ∀ l : List Mark, (∀ m ∈ l, m ≠ .hintEnded) →
        Guarded (· = .accepted) (· = .hintEnded) (· = .waitBegun) (s.marks ++ l) :=
      fun l hl => (guarded_append hl).mpr h.uncut
    have hphase := h.phase
    have hbalance := h.balance
    rw [hfree] at hphase
    cases hst : s.mState with
    | uninitialized => exact absurd hst hu
    | idle =>
        rw [hst] at hphase hbalance
        obtain ⟨hpc, hfd⟩ := hphase.of_idle
        have hnone : ¬({ s with mState := .interaction } : Handler).Pending := by
          simp [Pending, hfd, hfree]
        refine ⟨?_, ?_, fun _ => Or.inl rfl, fun hp => absurd hp hnone, fun hp => absurd hp hnone,
          hfresh _ (by simp), huncut _ (by simp)⟩
        · dsimp only
          rw [hfree, hpc, hfd]
          exact .started
        · simpa using hbalance
    | interaction =>
        rw [hst] at hphase hbalance
        refine ⟨?_, ?_, fun _ => Or.inl rfl, fun hp => ?_, fun hp => ?_, hfresh _ (by simp),
          huncut _ (by simp)⟩
        · dsimp only
          rw [hfree]
          exact hphase
        · simpa using hbalance
        · simpa [armed_snoc] using h.unaborted hp
        · simpa [armed_snoc] using h.token hp
    | waiting =>
        rw [hst] at hphase hbalance
        obtain ⟨hin, hfd⟩ := hphase.of_waiting
        refine ⟨?_, ?_, fun _ => Or.inr (Or.inr rfl), fun _ => ?_, fun _ => ?_, hfresh _ (by simp),
          huncut _ (by simp)⟩
        · dsimp only
          rw [hfd]
          exact .aborting hin
        · simpa [hst] using hbalance
        · exact not_armed_append (by simp) ⟨.interrupted, by simp, rfl⟩
        · dsimp only
          rw [List.append_cons, armed_snoc]
          exact Or.inl rfl

/-- The section at the head of the loop. -/
lemma Inv.wake (h : s.Inv) (hfree : s.mLock = none) (hpc : s.routine = .sleeping)
    (hne : s.mState ≠ .idle) : s.wake.Inv := by
  have hphase := h.phase
  rw [hfree, hpc] at hphase
  obtain ⟨hst, hfd⟩ := hphase.of_sleeping
  have hst := hst.resolve_left hne
  have hnone : ¬({ s with mState := .waiting } : Handler).Pending := by simp [Pending, hfd, hfree]
  rw [Handler.wake, if_neg h.phase.ne_uninitialized]
  refine ⟨?_, ?_, ?_, fun hp => absurd hp hnone, fun hp => absurd hp hnone, ?_, ?_⟩
  · dsimp only
    rw [hfree, hfd]
    exact .waiting trivial
  · simpa [hst] using h.balance
  · simp [armed_snoc]
  · exact guarded_snoc.mpr ⟨h.fresh, fun hx => Mark.noConfusion hx⟩
  · exact guarded_snoc.mpr ⟨h.uncut, fun hx => Mark.noConfusion hx⟩

/-- The section of `Release`: the hint ends only if no `Acquire` has come since the wait began. -/
lemma Inv.release (h : s.Inv) (hfree : s.mLock = none) (hpc : s.routine = .releasing) :
    s.release.Inv := by
  have hphase := h.phase
  rw [hfree, hpc] at hphase
  rw [Handler.release]
  split_ifs with hst
  · rw [hst] at hphase
    obtain ⟨-, hfd⟩ := hphase.of_waiting
    have hnone : ¬s.Pending := by simp [Pending, hfd, hfree]
    have hun : ¬Armed (· = .accepted) (· = .waitBegun) s.marks := by
      intro harm
      rcases h.accepted harm with hint | hp
      · rw [hst] at hint
        cases hint
      · exact hnone hp
    refine ⟨?_, ?_, ?_, fun hp => absurd hp hnone, fun hp => absurd hp hnone, ?_, ?_⟩
    · dsimp only
      rw [hfree, hfd]
      exact .idle
    · simpa [hst] using h.balance
    · simp [armed_snoc, hun]
    · exact guarded_snoc.mpr ⟨h.fresh, fun hx => Mark.noConfusion hx⟩
    · exact guarded_snoc.mpr ⟨h.uncut, fun _ => hun⟩
  · obtain ⟨hint, hfd⟩ := hphase.of_releasing hst
    refine h.same rfl rfl ?_ ?_
    · simp [Pending, hfd]
    · dsimp only
      rw [hint, hpc, hfd]
      exact .clearing

/-- The write of `AbortWaitLocked`. -/
lemma Inv.writeEvent (h : s.Inv) (hl : s.mLock = some .abortWait) :
    ({ s with mEventFd := s.mEventFd + 1, mLock := some .finishAcquire } : Handler).Inv := by
  have hphase := h.phase
  rw [hl] at hphase
  obtain ⟨hst, hin, hfd⟩ := hphase.of_abortWait
  refine h.same rfl rfl ?_ ?_
  · simp [Pending, hl]
  · dsimp only
    rw [hst, hfd]
    exact .aborted hin

/-- The end of an `Acquire` that has interrupted a wait. -/
lemma Inv.finishAcquire (h : s.Inv) (hl : s.mLock = some .finishAcquire) :
    ({ s with mState := .interaction, mLock := none } : Handler).Inv := by
  have hphase := h.phase
  rw [hl] at hphase
  obtain ⟨hst, hin, hfd⟩ := hphase.of_finishAcquire
  have hpend : s.Pending := Or.inl (by rw [hfd]; exact one_pos)
  refine ⟨?_, ?_, fun _ => Or.inl rfl, fun _ => h.unaborted hpend, fun _ => h.token hpend, h.fresh,
    h.uncut⟩
  · dsimp only
    rw [hfd]
    exact .interrupted hin
  · simpa [hst] using h.balance

/-- The read of `Release`. -/
lemma Inv.readEvent (h : s.Inv) (hl : s.mLock = some .clearAbort) :
    ({ s with mEventFd := 0, mLock := none, routine := .sleeping,
              marks := s.marks ++ [.cleared] } : Handler).Inv := by
  have hphase := h.phase
  rw [hl] at hphase
  have hst := hphase.of_clearAbort
  refine ⟨?_, ?_, fun _ => Or.inl hst, ?_, ?_, ?_, ?_⟩
  · dsimp only
    rw [hst]
    exact .started
  · simpa [hst] using h.balance
  · simp [Pending]
  · simp [Pending]
  · exact guarded_snoc.mpr ⟨h.fresh, fun hx => Mark.noConfusion hx⟩
  · exact guarded_snoc.mpr ⟨h.uncut, fun hx => Mark.noConfusion hx⟩

/-- **One step keeps the invariant.** -/
lemma Inv.step {i : Input} (h : s.Inv) (hs : Step s i s') : s'.Inv := by
  cases i with
  | acquire duration cur_timespec =>
      simp only [Step, next, Option.ite_none_right_eq_some, Option.some.injEq] at hs
      obtain ⟨hfree, rfl⟩ := hs
      exact h.acquire hfree duration cur_timespec
  | writeEvent =>
      simp only [Step, next, Option.ite_none_right_eq_some, Option.some.injEq] at hs
      obtain ⟨hl, rfl⟩ := hs
      exact h.writeEvent hl
  | finishAcquire =>
      simp only [Step, next, Option.ite_none_right_eq_some, Option.some.injEq] at hs
      obtain ⟨hl, rfl⟩ := hs
      exact h.finishAcquire hl
  | wake =>
      simp only [Step, next, Option.ite_none_right_eq_some, Option.some.injEq] at hs
      obtain ⟨⟨hfree, hpc, hne⟩, rfl⟩ := hs
      exact h.wake hfree hpc hne
  | waitForIdle =>
      simp only [Step, next, Option.ite_none_right_eq_some, Option.some.injEq] at hs
      obtain ⟨hpc, rfl⟩ := hs
      exact h.goOn (by rw [hpc]; trivial) (by simp [hpc]) trivial
  | poll e =>
      simp only [Step, next] at hs
      split at hs
      · rename_i timeout_ms hpc
        have hin : RoutinePc.inWait (.reading timeout_ms) := trivial
        split_ifs at hs
        exact h.pollEnds (by rw [hpc]; trivial) (by simp [hpc]) hin hs
      · cases hs
  | readIdle e =>
      simp only [Step, next] at hs
      split at hs
      · rename_i timeout_ms hpc
        cases hs
        refine h.goOn (by rw [hpc]; trivial) (by simp [hpc]) ?_
        split_ifs <;> trivial
      · cases hs
  | pollIdle e =>
      simp only [Step, next] at hs
      split at hs
      · rename_i timeout_ms hpc
        have hin : RoutinePc.inWait .releasing := trivial
        exact h.pollEnds (by rw [hpc]; trivial) (by simp [hpc]) hin hs
      · cases hs
  | release =>
      simp only [Step, next, Option.ite_none_right_eq_some, Option.some.injEq] at hs
      obtain ⟨⟨hfree, hpc⟩, rfl⟩ := hs
      exact h.release hfree hpc
  | readEvent =>
      simp only [Step, next, Option.ite_none_right_eq_some, Option.some.injEq] at hs
      obtain ⟨hl, rfl⟩ := hs
      exact h.readEvent hl

end Handler

open Handler in
/-- **The boost is neither leaked nor doubled nor cut short.**  In every run of the threads from the
end of `Init`, for any number of `Acquire`s with any durations at any times and any ends of the
polls: the hint has been started once more than it has been ended while the handler is at work, and
equally often while it is idle; a token is pending only between an `Acquire` that has interrupted a
wait and the `Release` that consumes it, and aborts no other wait; and no wait that began before an
accepted `Acquire` ends the hint. -/
theorem interaction_boost {t0 : Timespec} {inputs : List Input} {s : Handler}
    (hr : Run Step (init t0) inputs s) : BoostKept s :=
  (hr.invariant (P := Inv) (fun _ _ _ h hs => h.step hs) .init).boostKept

/-- An `Acquire` lands between the first poll and the `Release`, and the boost goes on. -/
theorem interaction_boost_interrupted : ∃ inputs s,
    Run Handler.Step (Handler.init ⟨0, 0⟩) inputs s ∧ s.mState = .interaction ∧ BoostKept s := by
  have hrun : (execBy (fun s i => (Handler.next s i).map fun s' => (s', i)) (Handler.init ⟨0, 0⟩)
      [.acquire 100 ⟨0, 0⟩, .wake, .waitForIdle, .poll .timeout, .readIdle .busy,
        .acquire 3000 ⟨1, 0⟩, .pollIdle .timeout, .writeEvent, .finishAcquire, .release,
        .readEvent]).map (fun p => decide (p.1.mState = .interaction)) = some true := by
    decide +kernel
  obtain ⟨⟨s, inputs⟩, hp, hs⟩ := Option.map_eq_some_iff.mp hrun
  have hr : Run Handler.Step (Handler.init ⟨0, 0⟩) inputs s := by
    refine Run.of_execBy (fun s i p h => ?_) hp
    obtain ⟨s', hs', rfl⟩ := Option.map_eq_some_iff.mp h
    exact hs'
  exact ⟨inputs, s, hr, of_decide_eq_true hs, interaction_boost hr⟩

end Power
