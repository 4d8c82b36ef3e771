import OcnDevice.Core.Run

/-!
# Threads and their delegates

A `LocThread` starts a thread that runs a runnable over and over, until the runnable has enough or the
thread is stopped.  The two sides share a `LocThreadDelegate`: its `mRunnable` is how the thread gets
at the runnable, and it is also what tells either side that there is nothing to run any more; the
side that is the last to give up the delegate deletes it.

Here the owner of a `LocThread` and the threads it has spawned take their steps in any order, where a
step is one read or write of `mRunnable` or `mRefCount`, or one critical section.
-/

namespace Gps.LocThread

/-! ## Delegates -/

/-- The calls in which the owner gives up a delegate. -/
inductive Call
  | start
  | stop
  | destruct
  deriving DecidableEq, Repr

/-- Where the owner of a delegate is. -/
inductive OwnerPc
  /-- `pthread_create` has failed, and `mRunnable` is set to `NULL`. -/
  | setRunnable
  /-- `mJoinable` and `mRefCount` are set. -/
  | setRefCount
  /-- `create` asks whether the delegate is running. -/
  | isRunning
  /-- Between the calls; the delegate is `mThread`. -/
  | held
  /-- `stop` tests `mRunnable`. -/
  | testRunnable (c : Call)
  /-- `stop` sets `mRunnable` to `NULL`. -/
  | clearRunnable (c : Call)
  /-- `stop` waits for the thread. -/
  | join (c : Call)
  /-- `destroy` tests `mRefCount`. -/
  | testRefCount (c : Call)
  /-- The critical section of `destroy`. -/
  | countDown (c : Call)
  /-- `delete this`. -/
  | delete (c : Call)
  deriving DecidableEq, Repr

/-- Where a spawned thread is in `threadMain`. -/
inductive ThreadPc
  /-- The runnable is read from the delegate. -/
  | readRunnable
  | testPrerun
  | prerun
  | testRun
  | run
  | testPostrun
  | postrun
  /-- `mRunnable` is set to `NULL`. -/
  | clearRunnable
  /-- `delete runnable`. -/
  | deleteRunnable
  /-- `destroy` tests `mRefCount`. -/
  | testRefCount
  /-- The critical section of `destroy`. -/
  | countDown
  /-- `delete this`. -/
  | delete
  | done
  deriving DecidableEq, Repr

/-- A `LocThreadDelegate` and the thread it is for, if that was created.  Of `mRunnable` only matters
whether it is `NULL`.  The last five fields are not in the memory: whether a joinable thread was asked
for, whether that was stopped, how often the delegate and the runnable were deleted, and how often the
delegate was accessed behind that. -/
structure LocThreadDelegate where
  mRunnable : Bool
  mJoinable : Bool
  mRefCount : ℤ
  thread : Option ThreadPc
  joinable : Bool := mJoinable
  stopped : Bool := false
  deleted : ℕ := 0
  runnableDeleted : ℕ := 0
  late : ℕ := 0
  deriving DecidableEq, Repr

namespace LocThreadDelegate

/-- Any access to the delegate. -/
def access (d : LocThreadDelegate) : LocThreadDelegate :=
  if d.deleted = 0 then d else { d with late := d.late + 1 }

/-- The constructor up to `pthread_create`, which may fail. -/
def new (joinable created : Bool) : LocThreadDelegate where
  mRunnable := true
  mJoinable := joinable
  mRefCount := 2
  thread := if created then some .readRunnable else none

/-- A call that gives up the delegate returns. -/
def returned (c : Call) (d : LocThreadDelegate) : LocThreadDelegate :=
  { d with stopped := d.stopped || (c ≠ .start && d.joinable) }

/-- The next step of the owner, with where it is then; it gets nowhere as long as it waits for the
thread, and is nowhere when it has given up the delegate. -/
def ownerStep (d : LocThreadDelegate) : OwnerPc → Option (Option OwnerPc × LocThreadDelegate)
  | .setRunnable => some (some .setRefCount, { d.access with mRunnable := false })
  | .setRefCount => some (some .isRunning, { d.access with mJoinable := false, mRefCount := 1 })
  | .isRunning => some (some (if d.mRunnable then .held else .testRefCount .start), d.access)
  | .held => none
  | .testRunnable c =>
      some (some
        (if d.mRunnable then .clearRunnable c
        else if d.mJoinable then .join c else .testRefCount c), d.access)
  | .clearRunnable c =>
      some (some (if d.mJoinable then .join c else .testRefCount c),
        { d.access with mRunnable := false })
  | .join c =>
      if d.thread = some .done then
        some (some (.testRefCount c), { d.access with mJoinable := false })
      else none
  | .testRefCount c =>
      if d.mRefCount > 0 then some (some (.countDown c), d.access)
      else some (none, d.access.returned c)
  | .countDown c =>
      if d.mRefCount = 1 then
        some (some (.delete c), { d.access with mRefCount := d.mRefCount - 1 })
      else some (none, { d.access with mRefCount := d.mRefCount - 1 }.returned c)
  | .delete c => some (none, { d.access with deleted := d.deleted + 1 }.returned c)

/-- The thread goes on at another place. -/
def goto (d : LocThreadDelegate) (pc : ThreadPc) : LocThreadDelegate := { d with thread := some pc }

/-- The next step of the thread, `threadMain`; `again` is what `run` returns. -/
def threadStep (d : LocThreadDelegate) (again : Bool) : ThreadPc → Option LocThreadDelegate
  | .readRunnable => some (d.access.goto (if d.mRunnable then .testPrerun else .testRefCount))
  | .testPrerun => some (d.access.goto (if d.mRunnable then .prerun else .testRun))
  | .prerun => some (d.goto .testRun)
  | .testRun => some (d.access.goto (if d.mRunnable then .run else .testPostrun))
  | .run => some (d.goto (if again then .testRun else .testPostrun))
  | .testPostrun => some (d.access.goto (if d.mRunnable then .postrun else .clearRunnable))
  | .postrun => some (d.goto .clearRunnable)
  | .clearRunnable => some ({ d.access with mRunnable := false }.goto .deleteRunnable)
  | .deleteRunnable => some ({ d with runnableDeleted := d.runnableDeleted + 1 }.goto .testRefCount)
  | .testRefCount => some (d.access.goto (if d.mRefCount > 0 then .countDown else .done))
  | .countDown =>
      some ({ d.access with mRefCount := d.mRefCount - 1 }.goto
        (if d.mRefCount = 1 then .delete else .done))
  | .delete => some ({ d.access with deleted := d.deleted + 1 }.goto .done)
  | .done => none

end LocThreadDelegate

/-! ## The owner and its threads -/

/-- The system: the delegates made so far, of which there are `count`, and the one the owner has to do
with; whether the `LocThread` is destructed; and of each `start` that has returned, what it returned
and whether a thread was created. -/
structure LocThreadSys where
  delegate : ℕ → LocThreadDelegate
  count : ℕ
  owner : Option (ℕ × OwnerPc)
  destructed : Bool
  starts : List (Bool × Bool)

/-- What happens next: a call of the owner, its next step, or the next step of a thread. -/
inductive Action
  | start (runnable joinable created : Bool)
  | stop
  | destruct
  | owner
  | thread (k : ℕ) (again : Bool)
  deriving DecidableEq, Repr

namespace LocThreadSys

/-- The owner has not called anything yet. -/
def init : LocThreadSys := ⟨fun _ => .new false false, 0, none, false, []⟩

/-- Write a delegate. -/
def setDelegate (s : LocThreadSys) (k : ℕ) (d : LocThreadDelegate) : LocThreadSys :=
  { s with delegate := Function.update s.delegate k d }

/-- `start` returns. -/
def started (s : LocThreadSys) (success created : Bool) : LocThreadSys :=
  { s with starts := s.starts ++ [(success, created)] }

/-- `start`; with `mThread` or without a runnable there is nothing to create. -/
def start (s : LocThreadSys) (runnable joinable created : Bool) : Option LocThreadSys :=
  match s.owner with
  | some (_, .held) => some (s.started false false)
  | some _ => none
  | none =>
      if runnable then
        some
          { s.setDelegate s.count (.new joinable created) with
            count := s.count + 1
            owner := some (s.count, if created then .isRunning else .setRunnable) }
      else some (s.started false false)

/-- `stop`. -/
def stop (s : LocThreadSys) : Option LocThreadSys :=
  match s.owner with
  | some (k, .held) => some { s with owner := some (k, .testRunnable .stop) }
  | some _ => none
  | none => some s

/-- The destructor, with `bye`. -/
def destruct (s : LocThreadSys) : Option LocThreadSys :=
  match s.owner with
  | some (k, .held) =>
      some
        { s.setDelegate k (s.delegate k).access with
          owner := some (k,
            if (s.delegate k).mJoinable then .testRunnable .destruct else .testRefCount .destruct)
          destructed := true }
  | some _ => none
  | none => some { s with destructed := true }

/-- The next step of the owner in a call. -/
def ownerStep (s : LocThreadSys) : Option LocThreadSys :=
  s.owner.bind fun (k, pc) => ((s.delegate k).ownerStep pc).map fun (pc', d) =>
    let s' := { s.setDelegate k d with owner := pc'.map fun pc' => (k, pc') }
    match pc, pc' with
    | .isRunning, some .held => s'.started true d.thread.isSome
    | .testRefCount .start, none => s'.started false d.thread.isSome
    | .countDown .start, none => s'.started false d.thread.isSome
    | .delete .start, none => s'.started false d.thread.isSome
    | _, _ => s'

/-- The next step of a thread. -/
def threadStep (s : LocThreadSys) (k : ℕ) (again : Bool) : Option LocThreadSys :=
  (s.delegate k).thread.bind fun pc =>
    ((s.delegate k).threadStep again pc).map fun d => s.setDelegate k d

/-- What an action does, if it can happen. -/
def step (s : LocThreadSys) : Action → Option LocThreadSys
  | .start runnable joinable created =>
      if s.destructed then none else s.start runnable joinable created
  | .stop => if s.destructed then none else s.stop
  | .destruct => if s.destructed then none else s.destruct
  | .owner => s.ownerStep
  | .thread k again => s.threadStep k again

/-- The step relation. -/
def Step (s : LocThreadSys) (a : Action) (s' : LocThreadSys) : Prop := s.step a = some s'

end LocThreadSys

end Gps.LocThread
