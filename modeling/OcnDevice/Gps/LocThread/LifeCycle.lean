import OcnDevice.Gps.LocThread.Counted

/-!
# The life cycle of a thread

While the count of a delegate is right in any order of steps (`Counted`), `mRunnable` is less well
behaved, as it is three things at once.  A thread that is through before `create` asks whether it is
running is taken for one that was not created; and a thread that is stopped before it has read its
runnable does not know what to delete.  In a run where neither happens (`Timely`) the owner is told
the truth, and every runnable is deleted (`Orderly`).
-/

namespace Gps.LocThread

/-! ## What should hold -/

/-- The thread is in the code of its runnable. -/
def ThreadPc.RunsCode : ThreadPc → Prop
  | .prerun => True
  | .run => True
  | .postrun => True
  | _ => False

/-- The owner has given up a delegate. -/
def LocThreadSys.Released (s : LocThreadSys) (k : ℕ) : Prop := ∀ pc, s.owner ≠ some (k, pc)

/-- The thread of a delegate is not there any more, or never was. -/
def LocThreadDelegate.Over (d : LocThreadDelegate) : Prop :=
  d.thread = none ∨ d.thread = some .done

/-- **The life cycle is kept to.** -/
structure LocThreadSys.LifeCycle (s : LocThreadSys) : Prop where
  /-- `start` has returned true exactly when a thread was created. -/
  starts : ∀ r ∈ s.starts, r.1 = r.2
  /-- A delegate is deleted at most once, and is when both sides are through with it. -/
  deleted : ∀ k < s.count, (s.delegate k).deleted ≤ 1 ∧
    (s.Released k → (s.delegate k).Over → (s.delegate k).deleted = 1)
  /-- It is not accessed afterwards. -/
  accessed : ∀ k < s.count, (s.delegate k).late = 0
  /-- The runnable of a thread is deleted at most once, and is when the thread has ended. -/
  runnable : ∀ k < s.count, (s.delegate k).runnableDeleted ≤ 1 ∧
    ((s.delegate k).thread = some .done → (s.delegate k).runnableDeleted = 1)
  /-- Behind the `stop` of a joinable thread none of its code runs. -/
  stopped : ∀ k < s.count, (s.delegate k).stopped = true →
    ∀ pc, (s.delegate k).thread = some pc → ¬ pc.RunsCode

/-- **The step comes in time**: a thread that begins finds its runnable, and a thread that ends does
not forget it before `create` has asked whether it is running. -/
def Timely (s : LocThreadSys) : Action → Prop
  | .thread k _ =>
      ((s.delegate k).thread = some .readRunnable → (s.delegate k).mRunnable = true) ∧
      ((s.delegate k).thread = some .clearRunnable → s.owner ≠ some (k, .isRunning))
  | _ => True

/-! ## Order -/

/-- The runnable is deleted by now. -/
def past : Option ThreadPc → ℕ
  | some .testRefCount => 1
  | some .countDown => 1
  | some .delete => 1
  | some .done => 1
  | _ => 0

/-- What the owner takes for granted of the thread that it has just created, or not; a thread is only
waited for when it is stopped. -/
def Told (d : LocThreadDelegate) : Option OwnerPc → Prop
  | some .isRunning => d.thread ≠ none → d.mRunnable = true
  | some (.testRunnable c) => c ≠ .start
  | some (.clearRunnable c) => c ≠ .start
  | some (.join c) => c ≠ .start
  | some (.testRefCount .start) => d.thread = none
  | some (.countDown .start) => d.thread = none
  | some (.delete .start) => d.thread = none
  | _ => True

/-- **The owner is told the truth, and the runnable is deleted in its place.** -/
structure Orderly (v : Option OwnerPc) (d : LocThreadDelegate) : Prop where
  told : Told d v
  runnable : d.runnableDeleted = past d.thread

section Local

variable {v v' : Option OwnerPc} {pc : OwnerPc} {tpc : ThreadPc} {d d' : LocThreadDelegate}
  {again : Bool} {c : Call}

/-! ## Steps in time -/

lemma told_testRefCount (hc : c ≠ .start) : Told d (some (.testRefCount c)) := by
  cases c with
  | start => exact absurd rfl hc
  | stop => trivial
  | destruct => trivial

/-- **The owner's steps keep order.** -/
theorem Orderly.ownerStep (h : Orderly (some pc) d) (hc : Counted (some pc) d)
    (hst : d.ownerStep pc = some (v', d')) : Orderly v' d' := by
  have hacc := hc.access_owner
  have hplaced := hc.placed
  obtain ⟨htold, hrun⟩ := h
  cases pc <;> simp only [LocThreadDelegate.ownerStep, hacc] at hst
  case setRunnable =>
    cases hst
    exact ⟨trivial, hrun⟩
  case setRefCount =>
    cases hst
    exact ⟨fun hne => absurd hplaced.1 hne, hrun⟩
  case isRunning =>
    cases hst
    split_ifs with hyes
    · exact ⟨trivial, hrun⟩
    · exact ⟨by_contra fun hne => hyes (htold hne), hrun⟩
  case held => cases hst
  case testRunnable c =>
    cases hst
    split_ifs
    · exact ⟨htold, hrun⟩
    · exact ⟨htold, hrun⟩
    · exact ⟨told_testRefCount htold, hrun⟩
  case clearRunnable c =>
    cases hst
    split_ifs
    · exact ⟨htold, hrun⟩
    · exact ⟨told_testRefCount htold, hrun⟩
  case join c =>
    split_ifs at hst
    cases hst
    exact ⟨told_testRefCount htold, hrun⟩
  case testRefCount c =>
    split_ifs at hst
    · cases hst
      refine ⟨?_, hrun⟩
      cases c <;> exact htold
    · cases hst
      exact ⟨trivial, hrun⟩
  case countDown c =>
    split_ifs at hst
    · cases hst
      refine ⟨?_, hrun⟩
      cases c <;> exact htold
    · cases hst
      exact ⟨trivial, hrun⟩
  case delete c =>
    cases hst
    exact ⟨trivial, hrun⟩

/-- What the owner takes for granted is so as long as the thread does not forget its runnable. -/
lemma Told.goto (h : Told d v) (hd : d.thread ≠ none) (hrun : d.mRunnable = true → v = some .isRunning →
    d'.mRunnable = true) : Told d' v := by
  rcases v with _ | pc
  · trivial
  · cases pc with
    | isRunning => exact fun _ => hrun (h hd) rfl
    | testRefCount c => cases c <;> first | exact absurd h hd | trivial
    | countDown c => cases c <;> first | exact absurd h hd | trivial
    | delete c => cases c <;> first | exact absurd h hd | trivial
    | testRunnable c => exact h
    | clearRunnable c => exact h
    | join c => exact h
    | _ => trivial

/-- **The thread's steps keep order when they come in time.** -/
theorem Orderly.threadStep (h : Orderly v d) (hc : Counted v d) (hd : d.thread = some tpc)
    (hread : tpc = .readRunnable → d.mRunnable = true)
    (hclear : tpc = .clearRunnable → v ≠ some .isRunning)
    (hst : d.threadStep again tpc = some d') : Orderly v d' := by
  have hne : d.thread ≠ none := by simp [hd]
  by_cases hpc : tpc = .done
  · rw [hpc] at hst
    cases hst
  have hacc := hc.access_thread hd hpc
  have hrun := h.runnable
  rw [hd] at hrun
  have htold : ∀ {d' : LocThreadDelegate}, d'.mRunnable = d.mRunnable → Told d' v :=
    fun heq => h.told.goto hne fun hyes _ => heq.trans hyes
  cases tpc <;> simp only [LocThreadDelegate.threadStep, hacc] at hst
  case done => cases hst
  case clearRunnable =>
    cases hst
    exact ⟨h.told.goto hne fun _ hv => absurd hv (hclear rfl), hrun⟩
  case deleteRunnable =>
    cases hst
    exact ⟨htold rfl, congrArg (· + 1) hrun⟩
  case readRunnable =>
    rw [if_pos (hread rfl)] at hst
    cases hst
    exact ⟨htold rfl, hrun⟩
  all_goals
    cases hst
    refine ⟨htold rfl, ?_⟩
    first
      | exact hrun
      | split_ifs <;> exact hrun

end Local

/-! ## The system -/

/-- Where the owner is with a delegate. -/
def LocThreadSys.view (s : LocThreadSys) (k : ℕ) : Option OwnerPc :=
  s.owner.bind fun (j, pc) => if j = k then some pc else none

/-- What holds behind every run. -/
structure Inv (s : LocThreadSys) : Prop where
  counted : ∀ k < s.count, Counted (s.view k) (s.delegate k)
  orderly : ∀ k < s.count, Orderly (s.view k) (s.delegate k)
  owner : ∀ k pc, s.owner = some (k, pc) → k < s.count
  unborn : ∀ k, s.count ≤ k → (s.delegate k).thread = none
  starts : ∀ r ∈ s.starts, r.1 = r.2

section System

variable {s s' : LocThreadSys} {a : Action} {k : ℕ} {pc : OwnerPc} {d : LocThreadDelegate}

lemma view_of_owner (h : s.owner = some (k, pc)) : s.view k = some pc := by
  simp [LocThreadSys.view, h]

lemma owner_of_view (h : s.view k = some pc) : s.owner = some (k, pc) := by
  obtain ⟨⟨j, q⟩, howner, hq⟩ := Option.bind_eq_some_iff.mp h
  dsimp only at hq
  split_ifs at hq with hj
  rw [howner, hj, Option.some.inj hq]

lemma view_of_ne {j : ℕ} (h : s.owner = some (k, pc)) (hj : j ≠ k) : s.view j = none := by
  simp [LocThreadSys.view, h, Ne.symm hj]

lemma view_of_none (h : s.owner = none) (k : ℕ) : s.view k = none := by
  simp [LocThreadSys.view, h]

lemma init_inv : Inv .init where
  counted := fun _ h => absurd h (Nat.not_lt_zero _)
  orderly := fun _ h => absurd h (Nat.not_lt_zero _)
  owner := fun _ _ h => by cases h
  unborn := fun _ _ => rfl
  starts := fun _ h => absurd h List.not_mem_nil

/-- One delegate is written, or made. -/
lemma Inv.write (h : Inv s) (hd : s'.delegate = Function.update s.delegate k d)
    (hk : k < s'.count) (hcount : ∀ j ≠ k, j < s'.count ↔ j < s.count)
    (hview : ∀ j ≠ k, s'.view j = s.view j) (howner : ∀ j pc, s'.owner = some (j, pc) → j < s'.count)
    (hc : Counted (s'.view k) d) (ho : Orderly (s'.view k) d)
    (hstarts : ∀ r ∈ s'.starts, r.1 = r.2) : Inv s' where
  counted := by
    intro j hj
    rw [hd]
    by_cases hjk : j = k
    · rw [hjk, Function.update_self]
      exact hc
    · rw [Function.update_of_ne hjk, hview j hjk]
      exact h.counted j ((hcount j hjk).mp hj)
  orderly := by
    intro j hj
    rw [hd]
    by_cases hjk : j = k
    · rw [hjk, Function.update_self]
      exact ho
    · rw [Function.update_of_ne hjk, hview j hjk]
      exact h.orderly j ((hcount j hjk).mp hj)
  owner := howner
  unborn := by
    intro j hj
    have hjk : j ≠ k := by omega
    rw [hd, Function.update_of_ne hjk]
    refine h.unborn j (not_lt.mp fun hlt => ?_)
    have hlt' := (hcount j hjk).mpr hlt
    omega
  starts := hstarts

lemma starts_append {l : List (Bool × Bool)} {b c : Bool} (h : ∀ r ∈ l, r.1 = r.2) (hbc : b = c) :
    ∀ r ∈ l ++ [(b, c)], r.1 = r.2 := by
  intro r hr
  rcases List.mem_append.mp hr with hr | hr
  · exact h r hr
  · rw [List.mem_singleton.mp hr]
    exact hbc

/-- A `start` that makes nothing. -/
lemma Inv.started (h : Inv s) : Inv (s.started false false) :=
  ⟨h.counted, h.orderly, h.owner, h.unborn, starts_append h.starts rfl⟩

/-- A delegate is made. -/
lemma Inv.create (h : Inv s) (hnone : s.owner = none) (joinable created : Bool) :
    Inv { s.setDelegate s.count (.new joinable created) with
      count := s.count + 1
      owner := some (s.count, if created then .isRunning else .setRunnable) } := by
  have hnew : Counted (some (if created then .isRunning else .setRunnable))
      (.new joinable created) ∧
      Orderly (some (if created then .isRunning else .setRunnable)) (.new joinable created) := by
    cases created
    · exact ⟨⟨rfl, rfl, rfl, rfl, fun h => by cases h⟩, ⟨trivial, rfl⟩⟩
    · refine ⟨⟨rfl, rfl, rfl, ⟨fun h => ?_, fun _ => rfl⟩, fun h => by cases h⟩,
        ⟨fun _ => rfl, rfl⟩⟩
      cases h
  refine h.write rfl (Nat.lt_succ_self _) (fun j hj => ?_) (fun j hj => ?_) (fun j pc hj => ?_) ?_ ?_
    h.starts
  · show j < s.count + 1 ↔ j < s.count
    omega
  · rw [view_of_none hnone, view_of_ne rfl hj]
  · obtain ⟨rfl, -⟩ := Prod.mk.inj (Option.some.inj hj)
    exact Nat.lt_succ_self _
  · rw [view_of_owner rfl]
    exact hnew.1
  · rw [view_of_owner rfl]
    exact hnew.2

/-- The owner begins to give up its delegate. -/
lemma Inv.begin (h : Inv s) (howner : s.owner = some (k, .held)) {pc : OwnerPc} {gone : Bool}
    (hpc : (∃ c ≠ .start, pc = .testRunnable c) ∨
      (s.delegate k).mJoinable = false ∧ ∃ c ≠ .start, pc = .testRefCount c) :
    Inv { s with owner := some (k, pc), destructed := gone } := by
  have hk := h.owner k _ howner
  have hc := h.counted k hk
  have ho := h.orderly k hk
  rw [view_of_owner howner] at hc ho
  refine h.write (k := k) (d := s.delegate k) (Function.update_eq_self _ _).symm hk
    (fun _ _ => Iff.rfl) (fun j hj => ?_) (fun j q hj => ?_) ?_ ?_ h.starts
  · rw [view_of_ne howner hj, view_of_ne rfl hj]
  · obtain ⟨rfl, -⟩ := Prod.mk.inj (Option.some.inj hj)
    exact hk
  · rw [view_of_owner rfl]
    rcases hpc with ⟨c, hstart, rfl⟩ | ⟨hno, c, hstart, rfl⟩
    · exact ⟨hc.refs, hc.deletes, hc.late, hc.placed, hc.stopped⟩
    · refine ⟨hc.refs, hc.deletes, hc.late, fun _ hj => ?_, hc.stopped⟩
      rw [← show (s.delegate k).mJoinable = _ from hc.placed, hno] at hj
      cases hj
  · rw [view_of_owner rfl]
    rcases hpc with ⟨c, hstart, rfl⟩ | ⟨-, c, hstart, rfl⟩
    · exact ⟨hstart, ho.runnable⟩
    · exact ⟨told_testRefCount hstart, ho.runnable⟩

/-- **What the owner's step comes to.** -/
lemma ownerStep_cases (h : s.ownerStep = some s') :
    ∃ k pc pc' d, s.owner = some (k, pc) ∧ (s.delegate k).ownerStep pc = some (pc', d) ∧
      s'.delegate = Function.update s.delegate k d ∧ s'.count = s.count ∧
      s'.owner = pc'.map (fun pc' => (k, pc')) ∧
      (s'.starts = s.starts ∨
        pc = .isRunning ∧ pc' = some .held ∧ s'.starts = s.starts ++ [(true, d.thread.isSome)] ∨
        pc' = none ∧ (pc = .testRefCount .start ∨ pc = .countDown .start ∨ pc = .delete .start) ∧
          s'.starts = s.starts ++ [(false, d.thread.isSome)]) := by
  obtain ⟨⟨k, pc⟩, howner, h⟩ := Option.bind_eq_some_iff.mp h
  obtain ⟨⟨pc', d⟩, hst, h⟩ := Option.map_eq_some_iff.mp h
  refine ⟨k, pc, pc', d, howner, hst, ?_⟩
  dsimp only at h
  split at h <;> cases h
  · exact ⟨rfl, rfl, rfl, Or.inr (Or.inl ⟨rfl, rfl, rfl⟩)⟩
  · exact ⟨rfl, rfl, rfl, Or.inr (Or.inr ⟨rfl, Or.inl rfl, rfl⟩)⟩
  · exact ⟨rfl, rfl, rfl, Or.inr (Or.inr ⟨rfl, Or.inr (Or.inl rfl), rfl⟩)⟩
  · exact ⟨rfl, rfl, rfl, Or.inr (Or.inr ⟨rfl, Or.inr (Or.inr rfl), rfl⟩)⟩
  · exact ⟨rfl, rfl, rfl, Or.inl rfl⟩

/-- The owner does not touch the thread. -/
lemma ownerStep_thread {v : Option OwnerPc} {d d' : LocThreadDelegate}
    (h : d.ownerStep pc = some (v, d')) : d'.thread = d.thread := by
  have hacc : d.access.thread = d.thread := by
    rw [LocThreadDelegate.access]
    split_ifs <;> rfl
  cases pc <;> simp only [LocThreadDelegate.ownerStep] at h
  case join c =>
    split_ifs at h
    cases h
    exact hacc
  case testRefCount c => split_ifs at h <;> cases h <;> exact hacc
  case countDown c => split_ifs at h <;> cases h <;> exact hacc
  case held => cases h
  all_goals
    cases h
    exact hacc

/-- **The owner's step.** -/
lemma Inv.ownerStep (h : Inv s) (hst : s.ownerStep = some s') : Inv s' := by
  obtain ⟨k, pc, pc', d, howner, hd, hdel, hcount, howner', hstarts⟩ := ownerStep_cases hst
  have hk := h.owner k _ howner
  have hc := h.counted k hk
  have ho := h.orderly k hk
  rw [view_of_owner howner] at hc ho
  have hview : s'.view k = pc' := by
    cases pc' with
    | none => exact view_of_none howner' k
    | some q => exact view_of_owner howner'
  refine h.write hdel (by rwa [hcount]) (fun _ _ => by rw [hcount]) (fun j hj => ?_)
    (fun j q hj => ?_) ?_ ?_ ?_
  · rw [view_of_ne howner hj]
    cases pc' with
    | none => exact view_of_none howner' j
    | some q => exact view_of_ne howner' hj
  · rw [howner'] at hj
    obtain ⟨q', -, hq⟩ := Option.map_eq_some_iff.mp hj
    obtain ⟨rfl, -⟩ := Prod.mk.inj hq
    rwa [hcount]
  · rw [hview]
    exact hc.ownerStep hd
  · rw [hview]
    exact ho.ownerStep hc hd
  · rcases hstarts with heq | ⟨rfl, rfl, heq⟩ | ⟨rfl, hpc, heq⟩ <;> rw [heq]
    · exact h.starts
    · refine starts_append h.starts ?_
      rw [ownerStep_thread hd]
      -- only a delegate that is running is kept, and it has a thread
      have hrun : (s.delegate k).mRunnable = true := by
        by_contra hno
        simp only [LocThreadDelegate.ownerStep, if_neg hno] at hd
        cases hd
      refine (Option.isSome_iff_ne_none.mpr fun hnone => ?_).symm
      rw [hc.placed.1 hnone] at hrun
      cases hrun
    · refine starts_append h.starts ?_
      rw [ownerStep_thread hd]
      have hnone : (s.delegate k).thread = none := by
        rcases hpc with rfl | rfl | rfl <;> exact ho.told
      rw [hnone]
      rfl

/-- **A thread's step.** -/
lemma Inv.threadStep (h : Inv s) {again : Bool} (ht : Timely s (.thread k again))
    (hst : s.threadStep k again = some s') : Inv s' := by
  obtain ⟨tpc, hpc, hst⟩ := Option.bind_eq_some_iff.mp hst
  obtain ⟨d, hd, rfl⟩ := Option.map_eq_some_iff.mp hst
  have hk : k < s.count := by
    by_contra hno
    rw [h.unborn k (not_lt.mp hno)] at hpc
    cases hpc
  refine h.write rfl hk (fun _ _ => Iff.rfl) (fun _ _ => rfl) h.owner
    ((h.counted k hk).threadStep hpc hd) ?_ h.starts
  refine (h.orderly k hk).threadStep (h.counted k hk) hpc (fun hread => ht.1 (hread ▸ hpc))
    (fun hclear hview => ht.2 (hclear ▸ hpc) (owner_of_view hview)) hd

/-- The call of `start`. -/
lemma Inv.start (h : Inv s) {runnable joinable created : Bool}
    (hst : s.start runnable joinable created = some s') : Inv s' := by
  rcases howner : s.owner with _ | ⟨k, pc⟩
  · rw [LocThreadSys.start, howner] at hst
    dsimp only at hst
    by_cases hrun : runnable = true
    · rw [if_pos hrun] at hst
      cases hst
      exact h.create howner joinable created
    · rw [if_neg hrun] at hst
      cases hst
      exact h.started
  · rw [LocThreadSys.start, howner] at hst
    cases pc <;> cases hst
    exact h.started

/-- The call of `stop`. -/
lemma Inv.stop (h : Inv s) (hst : s.stop = some s') : Inv s' := by
  rcases howner : s.owner with _ | ⟨k, pc⟩
  · rw [LocThreadSys.stop, howner] at hst
    cases hst
    exact h
  · rw [LocThreadSys.stop, howner] at hst
    cases pc <;> cases hst
    exact h.begin howner (Or.inl ⟨.stop, by decide, rfl⟩)

/-- The destructor. -/
lemma Inv.destruct (h : Inv s) (hst : s.destruct = some s') : Inv s' := by
  rcases howner : s.owner with _ | ⟨k, pc⟩
  · have hs' : s' = { s with destructed := true } := by
      rw [LocThreadSys.destruct] at hst
      split at hst
      · next heq => rw [howner] at heq; cases heq
      · next heq => rw [howner] at heq; cases heq
      · exact (Option.some.inj hst).symm
    rw [hs']
    exact ⟨h.counted, h.orderly, h.owner, h.unborn, h.starts⟩
  · have hk := h.owner k _ howner
    have hc := h.counted k hk
    rw [view_of_owner howner] at hc
    have hsame : s.setDelegate k (s.delegate k).access = s := by
      rw [hc.access_owner, LocThreadSys.setDelegate, Function.update_eq_self]
    rw [LocThreadSys.destruct, howner] at hst
    cases pc <;> cases hst
    simp only [hsame]
    refine h.begin howner ?_
    split_ifs with hjoin
    · exact Or.inl ⟨.destruct, by decide, rfl⟩
    · exact Or.inr ⟨by simpa using hjoin, .destruct, by decide, rfl⟩

/-- **Every step that comes in time keeps the invariant.** -/
theorem Inv.step (h : Inv s) (ht : Timely s a) (hst : LocThreadSys.Step s a s') : Inv s' := by
  rw [LocThreadSys.Step, LocThreadSys.step.eq_def] at hst
  cases a with
  | start runnable joinable created =>
      dsimp only at hst
      split_ifs at hst
      exact h.start hst
  | stop =>
      dsimp only at hst
      split_ifs at hst
      exact h.stop hst
  | destruct =>
      dsimp only at hst
      split_ifs at hst
      exact h.destruct hst
  | owner => exact h.ownerStep hst
  | thread k again => exact h.threadStep ht hst

/-- **The invariant is what should hold.** -/
theorem Inv.lifeCycle (h : Inv s) : s.LifeCycle where
  starts := h.starts
  deleted := by
    intro k hk
    have hc := h.counted k hk
    have hdel := hc.deletes
    refine ⟨by split_ifs at hdel <;> omega, fun hrel hover => ?_⟩
    have hview : s.view k = none := by
      rcases hv : s.view k with _ | pc
      · rfl
      · exact absurd (owner_of_view hv) (hrel pc)
    have hrefs := hc.refs
    rw [hview] at hrefs hdel
    rcases hover with hd | hd <;> rw [hd] at hrefs hdel <;>
      simpa [hrefs, ownerShare, threadShare, ownerDeletes, threadDeletes] using hdel
  accessed := fun k hk => (h.counted k hk).late
  runnable := by
    intro k hk
    have hrun := (h.orderly k hk).runnable
    refine ⟨?_, fun hd => by rw [hrun, hd]; rfl⟩
    rw [hrun]
    rcases (s.delegate k).thread with _ | tpc
    · exact Nat.zero_le _
    · cases tpc <;> simp [past]
  stopped := by
    intro k hk hs tpc hd
    rw [(h.counted k hk).stopped hs] at hd
    rw [← Option.some.inj hd]
    exact id

end System

/-- **The life cycle is kept to in every order of steps** in which a thread that begins finds its
runnable, and no thread ends before `create` has asked whether it is running. -/
theorem life_cycle {as : List Action} {s : LocThreadSys}
    (hr : Run (fun s a s' => Timely s a ∧ LocThreadSys.Step s a s') .init as s) : s.LifeCycle :=
  (hr.invariant (fun _ _ _ h hst => h.step hst.1 hst.2) init_inv).lifeCycle

instance (s : LocThreadSys) : DecidablePred (Timely s)
  | .start _ _ _ => isTrue trivial
  | .stop => isTrue trivial
  | .destruct => isTrue trivial
  | .owner => isTrue trivial
  | .thread _ _ => inferInstanceAs (Decidable (_ ∧ _))

/-- The action that is asked for. -/
def next (s : LocThreadSys) (a : Action) : Option (LocThreadSys × Action) :=
  (s.step a).map fun s' => (s', a)

/-- The action that is asked for, if it comes in time. -/
def nextTimely (s : LocThreadSys) (a : Action) : Option (LocThreadSys × Action) :=
  if Timely s a then next s a else none

lemma step_of_next {s : LocThreadSys} {a : Action} {p : LocThreadSys × Action}
    (h : next s a = some p) : p.2 = a ∧ LocThreadSys.Step s p.2 p.1 := by
  obtain ⟨s', hs', rfl⟩ := Option.map_eq_some_iff.mp h
  exact ⟨rfl, hs'⟩

lemma run_of_next {s s' : LocThreadSys} {as bs : List Action}
    (h : execBy next s as = some (s', bs)) : Run LocThreadSys.Step s bs s' := by
  refine Run.of_execBy (fun s a p hp => ?_) h
  exact (step_of_next hp).2

lemma step_of_nextTimely {s : LocThreadSys} {a : Action} {p : LocThreadSys × Action}
    (h : nextTimely s a = some p) : Timely s p.2 ∧ LocThreadSys.Step s p.2 p.1 := by
  rw [nextTimely] at h
  split_ifs at h with ht
  obtain ⟨ha, hst⟩ := step_of_next h
  exact ⟨ha ▸ ht, hst⟩

/-- A joinable thread runs its runnable once, and is stopped. -/
theorem life_cycle_joined : ∃ as s,
    Run (fun s a s' => Timely s a ∧ LocThreadSys.Step s a s') .init as s ∧ s.LifeCycle ∧
      s.starts = [(true, true)] ∧ (s.delegate 0).stopped = true ∧ (s.delegate 0).deleted = 1 ∧
      (s.delegate 0).runnableDeleted = 1 := by
  have hrun : ((execBy nextTimely .init ([Action.start true true true, .owner] ++
      List.replicate 5 (Action.thread 0 true) ++ [Action.stop, .owner, .owner] ++
      List.replicate 6 (Action.thread 0 true) ++ List.replicate 4 Action.owner)).map fun p => decide
        (p.1.starts = [(true, true)] ∧ (p.1.delegate 0).stopped = true ∧
          (p.1.delegate 0).deleted = 1 ∧ (p.1.delegate 0).runnableDeleted = 1)) = some true := by
    decide +kernel
  obtain ⟨⟨s, as⟩, hp, hend⟩ := Option.map_eq_some_iff.mp hrun
  have hr : Run (fun s a s' => Timely s a ∧ LocThreadSys.Step s a s') .init as s :=
    Run.of_execBy (fun _ _ _ h => step_of_nextTimely h) hp
  exact ⟨as, s, hr, life_cycle hr, of_decide_eq_true hend⟩

/-- A thread is through before `create` asks whether it is running, and `start` returns false though
there was a thread; and a thread is stopped before it has read its runnable, which is never deleted
then. -/
theorem life_cycle_broken :
    (∃ as s, Run LocThreadSys.Step .init as s ∧ ¬ s.LifeCycle ∧ s.starts = [(false, true)]) ∧
    ∃ as s, Run LocThreadSys.Step .init as s ∧ ¬ s.LifeCycle ∧ s.starts = [(true, true)] ∧
      (s.delegate 0).thread = some .done ∧ (s.delegate 0).runnableDeleted = 0 := by
  constructor
  · have hrun : ((execBy next .init ([Action.start true true true] ++
        List.replicate 8 (Action.thread 0 false) ++ List.replicate 3 Action.owner)).map fun p =>
          decide (p.1.starts = [(false, true)])) = some true := by
      decide +kernel
    obtain ⟨⟨s, as⟩, hp, hend⟩ := Option.map_eq_some_iff.mp hrun
    have hstarts : s.starts = [(false, true)] := of_decide_eq_true hend
    have hr : Run LocThreadSys.Step .init as s := run_of_next hp
    refine ⟨as, s, hr, fun h => ?_, hstarts⟩
    have hbad := h.starts (false, true) (by rw [hstarts]; exact List.mem_cons_self)
    cases hbad
  · have hrun : ((execBy next .init ([Action.start true true true, .owner, .stop, .owner, .owner] ++
        List.replicate 3 (Action.thread 0 true))).map fun p => decide
          (p.1.starts = [(true, true)] ∧ (p.1.delegate 0).thread = some .done ∧
            (p.1.delegate 0).runnableDeleted = 0 ∧ p.1.count = 1)) = some true := by
      decide +kernel
    obtain ⟨⟨s, as⟩, hp, hend⟩ := Option.map_eq_some_iff.mp hrun
    obtain ⟨hstarts, hdone, hzero, hcount⟩ :
      s.starts = [(true, true)] ∧ (s.delegate 0).thread = some .done ∧
        (s.delegate 0).runnableDeleted = 0 ∧ s.count = 1 := of_decide_eq_true hend
    have hr : Run LocThreadSys.Step .init as s := run_of_next hp
    refine ⟨as, s, hr, fun h => ?_, hstarts, hdone, hzero⟩
    have hone := (h.runnable 0 (by omega)).2 hdone
    omega

end Gps.LocThread
