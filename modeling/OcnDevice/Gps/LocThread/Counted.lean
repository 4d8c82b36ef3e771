import OcnDevice.Gps.LocThread.Model

/-!
# The reference count of a delegate

The delegate is shared by two parties, the owner and the thread, and `mRefCount` is how many of them
have not given it up.  Whatever the order of their steps, the last of them deletes it and nobody
comes back to it (`Counted.ownerStep`, `Counted.threadStep`).
-/

namespace Gps.LocThread

/-! ## The two parties -/

/-- What the owner counts for in `mRefCount`. -/
def ownerShare : Option OwnerPc → ℤ
  | none => 0
  | some .setRunnable => 2
  | some .setRefCount => 2
  | some (.delete _) => 0
  | some _ => 1

/-- What the thread counts for. -/
def threadShare : Option ThreadPc → ℤ
  | none => 0
  | some .delete => 0
  | some .done => 0
  | some _ => 1

/-- The owner is about to delete the delegate. -/
def ownerDeletes : Option OwnerPc → ℕ
  | some (.delete _) => 1
  | _ => 0

/-- The thread is about to delete the delegate. -/
def threadDeletes : Option ThreadPc → ℕ
  | some .delete => 1
  | _ => 0

/-- What the owner relies on at its place: that it has created no thread, that it will wait for the
thread if it was asked for a joinable one, and that it has. -/
def Placed (d : LocThreadDelegate) : Option OwnerPc → Prop
  | none => True
  | some .setRunnable => d.thread = none
  | some .setRefCount => d.thread = none ∧ d.mRunnable = false
  | some .isRunning => (d.thread = none → d.mRunnable = false) ∧
      (d.thread ≠ none → d.mJoinable = d.joinable)
  | some .held => d.mJoinable = d.joinable
  | some (.testRunnable _) => d.mJoinable = d.joinable
  | some (.clearRunnable _) => d.mJoinable = d.joinable
  | some (.join _) => d.mJoinable = d.joinable
  | some (.testRefCount c) => c ≠ .start → d.joinable = true → d.thread = some .done
  | some (.countDown c) => c ≠ .start → d.joinable = true → d.thread = some .done
  | some (.delete c) => c ≠ .start → d.joinable = true → d.thread = some .done

/-- **The delegate is counted right**, with the owner at the given place. -/
structure Counted (v : Option OwnerPc) (d : LocThreadDelegate) : Prop where
  refs : d.mRefCount = ownerShare v + threadShare d.thread
  deletes : d.deleted + ownerDeletes v + threadDeletes d.thread = if d.mRefCount = 0 then 1 else 0
  late : d.late = 0
  placed : Placed d v
  stopped : d.stopped = true → d.thread = some .done

section Local

variable {v v' : Option OwnerPc} {pc : OwnerPc} {tpc : ThreadPc} {d d' : LocThreadDelegate}
  {again : Bool} {c : Call}

lemma ownerShare_nonneg (v : Option OwnerPc) : 0 ≤ ownerShare v := by
  rcases v with _ | pc
  · rfl
  · cases pc <;> simp [ownerShare]

lemma threadShare_nonneg (t : Option ThreadPc) : 0 ≤ threadShare t := by
  rcases t with _ | pc
  · rfl
  · cases pc <;> simp [threadShare]

/-- **Whoever has to do with the delegate finds it.** -/
lemma Counted.access (h : Counted v d)
    (hv : 0 < ownerShare v + threadShare d.thread ∨ 0 < ownerDeletes v + threadDeletes d.thread) :
    d.access = d := by
  have hdel := h.deletes
  have hrefs := h.refs
  refine if_pos ?_
  split_ifs at hdel <;> omega

/-- The owner is not nowhere as long as it takes steps. -/
lemma Counted.access_owner (h : Counted (some pc) d) : d.access = d := by
  refine h.access ?_
  have ht := threadShare_nonneg d.thread
  cases pc <;> simp only [ownerShare, ownerDeletes] <;> omega

lemma Counted.access_thread (h : Counted v d) (hd : d.thread = some tpc) (hpc : tpc ≠ .done) :
    d.access = d := by
  refine h.access ?_
  have hv := ownerShare_nonneg v
  rw [hd]
  cases tpc <;> simp only [threadShare, threadDeletes] <;> first | omega | exact absurd rfl hpc

/-! ## Steps of the owner -/

/-- A call that gives up the delegate returns. -/
lemma Counted.returned (hrefs : d.mRefCount = threadShare d.thread)
    (hdel : d.deleted + threadDeletes d.thread = if d.mRefCount = 0 then 1 else 0)
    (hlate : d.late = 0) (hjoin : c ≠ .start → d.joinable = true → d.thread = some .done)
    (hstop : d.stopped = true → d.thread = some .done) : Counted none (d.returned c) where
  refs := by simpa [LocThreadDelegate.returned, ownerShare] using hrefs
  deletes := by simpa [LocThreadDelegate.returned, ownerDeletes] using hdel
  late := hlate
  placed := trivial
  stopped := by
    intro h
    simp only [LocThreadDelegate.returned, Bool.or_eq_true, Bool.and_eq_true,
      decide_eq_true_eq] at h
    rcases h with h | ⟨hc, hd⟩
    · exact hstop h
    · exact hjoin hc hd

/-- **The owner's steps keep the count.** -/
theorem Counted.ownerStep (h : Counted (some pc) d) (hst : d.ownerStep pc = some (v', d')) :
    Counted v' d' := by
  have ht := threadShare_nonneg d.thread
  have hacc := h.access_owner
  obtain ⟨hrefs, hdel, hlate, hplaced, hstop⟩ := h
  cases pc <;> simp only [LocThreadDelegate.ownerStep, hacc] at hst
  case setRunnable =>
    cases hst
    exact ⟨hrefs, hdel, hlate, ⟨hplaced, rfl⟩, hstop⟩
  case setRefCount =>
    cases hst
    obtain ⟨hnone, hrun⟩ := hplaced
    rw [hnone] at hrefs hdel
    refine ⟨?_, ?_, hlate, ⟨fun _ => hrun, fun hne => absurd hnone hne⟩, hstop⟩
    · rw [hnone]
      rfl
    · rw [hnone]
      simpa [hrefs, ownerShare, threadShare, ownerDeletes, threadDeletes] using hdel
  case isRunning =>
    cases hst
    split_ifs with hrun
    · refine ⟨hrefs, hdel, hlate, hplaced.2 fun hnone => ?_, hstop⟩
      rw [hplaced.1 hnone] at hrun
      cases hrun
    · exact ⟨hrefs, hdel, hlate, fun hc => absurd rfl hc, hstop⟩
  case held => cases hst
  case testRunnable c =>
    cases hst
    split_ifs with hrun hjoin
    · exact ⟨hrefs, hdel, hlate, hplaced, hstop⟩
    · exact ⟨hrefs, hdel, hlate, hplaced, hstop⟩
    · exact ⟨hrefs, hdel, hlate, fun _ hj => absurd (hplaced.trans hj) hjoin, hstop⟩
  case clearRunnable c =>
    cases hst
    split_ifs with hjoin
    · exact ⟨hrefs, hdel, hlate, hplaced, hstop⟩
    · exact ⟨hrefs, hdel, hlate, fun _ hj => absurd (hplaced.trans hj) hjoin, hstop⟩
  case join c =>
    split_ifs at hst with hdone
    cases hst
    exact ⟨hrefs, hdel, hlate, fun _ _ => hdone, hstop⟩
  case testRefCount c =>
    simp only [ownerShare] at hrefs
    rw [if_pos (show d.mRefCount > 0 by omega)] at hst
    cases hst
    exact ⟨hrefs, hdel, hlate, hplaced, hstop⟩
  case countDown c =>
    simp only [ownerShare, ownerDeletes] at hrefs hdel
    split_ifs at hst with hone
    · -- the thread has given the delegate up before
      cases hst
      refine ⟨?_, ?_, hlate, hplaced, hstop⟩
      · simp only [ownerShare]
        omega
      · simp only [ownerDeletes]
        split_ifs at hdel ⊢ <;> omega
    · cases hst
      refine .returned ?_ ?_ hlate hplaced hstop
      · show d.mRefCount - 1 = threadShare d.thread
        omega
      · show d.deleted + threadDeletes d.thread = if d.mRefCount - 1 = 0 then 1 else 0
        split_ifs at hdel ⊢ <;> omega
  case delete c =>
    cases hst
    simp only [ownerShare, ownerDeletes, zero_add] at hrefs hdel
    refine .returned hrefs ?_ hlate hplaced hstop
    show d.deleted + 1 + threadDeletes d.thread = _
    exact hdel

/-! ## Steps of the thread -/

/-- The owner may rely on what it did as long as the thread is not over. -/
lemma Placed.goto (h : Placed d v) (hd : d.thread = some tpc) (hpc : tpc ≠ .done)
    (hjoin : d'.joinable = d.joinable) (hmJoin : d'.mJoinable = d.mJoinable)
    (hsome : d'.thread ≠ none) : Placed d' v := by
  rcases v with _ | pc
  · trivial
  · have hno : ∀ p : Prop, (p → d.joinable = true → d.thread = some .done) →
        p → d'.joinable = true → d'.thread = some .done := by
      intro p hp hyes hj
      rw [hjoin] at hj
      have hdone := hp hyes hj
      rw [hd] at hdone
      exact absurd (Option.some.inj hdone) hpc
    cases pc with
    | setRunnable => simp [Placed, hd] at h
    | setRefCount => simp [Placed, hd] at h
    | isRunning =>
        refine ⟨fun hnone => absurd hnone hsome, fun _ => ?_⟩
        rw [hjoin, hmJoin]
        exact h.2 (by simp [hd])
    | held => exact hmJoin.trans (h.trans hjoin.symm)
    | testRunnable c => exact hmJoin.trans (h.trans hjoin.symm)
    | clearRunnable c => exact hmJoin.trans (h.trans hjoin.symm)
    | join c => exact hmJoin.trans (h.trans hjoin.symm)
    | testRefCount c => exact hno _ h
    | countDown c => exact hno _ h
    | delete c => exact hno _ h

/-- The thread goes on to a place where it counts for the same. -/
lemma Counted.goto (h : Counted v d) (hd : d.thread = some tpc) (hpc : tpc ≠ .done)
    {tpc' : ThreadPc} (hshare : threadShare (some tpc') = threadShare (some tpc))
    (hdel : threadDeletes (some tpc') = threadDeletes (some tpc)) (run : Bool) (m : ℕ) :
    Counted v ({ d with mRunnable := run, runnableDeleted := m }.goto tpc') where
  refs := by
    have hrefs := h.refs
    rw [hd, ← hshare] at hrefs
    exact hrefs
  deletes := by
    have hdeletes := h.deletes
    rw [hd, ← hdel] at hdeletes
    exact hdeletes
  late := h.late
  placed := h.placed.goto hd hpc rfl rfl (Option.some_ne_none _)
  stopped := by
    intro hs
    have hdone := h.stopped hs
    rw [hd] at hdone
    exact absurd (Option.some.inj hdone) hpc

/-- **The thread's steps keep the count.** -/
theorem Counted.threadStep (h : Counted v d) (hd : d.thread = some tpc)
    (hst : d.threadStep again tpc = some d') : Counted v d' := by
  have hv := ownerShare_nonneg v
  by_cases hpc : tpc = .done
  · rw [hpc] at hst
    cases hst
  have hacc := h.access_thread hd hpc
  have hrefs := h.refs
  have hdel := h.deletes
  rw [hd] at hrefs hdel
  have hnext : ∀ {d' : LocThreadDelegate}, d'.joinable = d.joinable → d'.mJoinable = d.mJoinable →
      d'.thread ≠ none → Placed d' v := h.placed.goto hd hpc
  have hstop : ¬ d.stopped = true := fun hs => hpc (Option.some.inj (hd.symm.trans (h.stopped hs)))
  cases tpc <;> simp only [LocThreadDelegate.threadStep, hacc] at hst
  case done => cases hst
  case readRunnable =>
    cases hst
    split_ifs <;> exact h.goto hd hpc (by rfl) (by rfl) _ _
  case testPrerun =>
    cases hst
    split_ifs <;> exact h.goto hd hpc (by rfl) (by rfl) _ _
  case prerun =>
    cases hst
    exact h.goto hd hpc (by rfl) (by rfl) _ _
  case testRun =>
    cases hst
    split_ifs <;> exact h.goto hd hpc (by rfl) (by rfl) _ _
  case run =>
    cases hst
    split_ifs <;> exact h.goto hd hpc (by rfl) (by rfl) _ _
  case testPostrun =>
    cases hst
    split_ifs <;> exact h.goto hd hpc (by rfl) (by rfl) _ _
  case postrun =>
    cases hst
    exact h.goto hd hpc (by rfl) (by rfl) _ _
  case clearRunnable =>
    cases hst
    exact h.goto hd hpc (by rfl) (by rfl) _ _
  case deleteRunnable =>
    cases hst
    exact h.goto hd hpc (by rfl) (by rfl) _ _
  case testRefCount =>
    simp only [threadShare] at hrefs
    rw [if_pos (show d.mRefCount > 0 by omega)] at hst
    cases hst
    exact h.goto hd hpc (by rfl) (by rfl) _ _
  case countDown =>
    cases hst
    simp only [threadShare, threadDeletes] at hrefs hdel
    refine ⟨?_, ?_, h.late, hnext rfl rfl (Option.some_ne_none _), fun hs => absurd hs hstop⟩
    · show d.mRefCount - 1 = ownerShare v + threadShare (some _)
      split_ifs <;> simp only [threadShare] <;> omega
    · show d.deleted + ownerDeletes v + threadDeletes (some _) = if d.mRefCount - 1 = 0 then 1 else 0
      split_ifs at hdel ⊢ <;> simp only [threadDeletes] <;> omega
  case delete =>
    cases hst
    simp only [threadDeletes] at hdel
    refine ⟨hrefs, ?_, h.late, hnext rfl rfl (Option.some_ne_none _), fun hs => absurd hs hstop⟩
    show d.deleted + 1 + ownerDeletes v + 0 = if d.mRefCount = 0 then 1 else 0
    omega

end Local

end Gps.LocThread
