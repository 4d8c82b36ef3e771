import Mathlib
import OcnDevice.Gps.Agps.Manager

/-!
# A released handle stays released

Beside the manager's state runs the set of handles that the modem has released and not asked for
again.  The code keeps such a handle quiet in most of its paths but not in all of them:

* the DS machine in RELEASED tells the modem that the handle is closed and leaves it in its list,
  from where a retry timer asks for it again;
* a request for the handle that already waits in the queue is not taken back, be it a retry or
  the fallback to regular SUPL, and a handle that is subscribed in two machines is released in one
  of them only;
* a connection that is refused while the handle waits for its close is answered to everybody in
  the list, with an open status or with a request for regular SUPL.

`Careful` is the step that does none of these, and `released_stays_released` says that in a run
of careful steps a released handle stays quiet.
-/

namespace Gps.Agps

open AgpsManager

variable {c : Conf} {s t : AgpsManager} {n : Nif} {h : ℤ}

/-! ## Handles that were released -/

/-- The manager and the handles released by the modem and not asked for since. -/
structure Tracked where
  mgr : AgpsManager
  released : List ℤ

/-- The released handles after an input. -/
def releasedAfter (s : Tracked) : Input → List ℤ
  | .releaseATL h => if (s.mgr.search h).isSome then h :: s.released else s.released
  | .requestATL h _ => s.released.filter (· ≠ h)
  | _ => s.released

/-- A step of the manager, with the released handles. -/
def TrackedStep (c : Conf) (s : Tracked) (a : Action) (t : Tracked) : Prop :=
  Step c s.mgr a t.mgr ∧ t.released = releasedAfter s a.input

/-- The step acts on behalf of the handle: it tells the modem about its connection, posts a
request for it, or sends the request for a connection of a machine in which it is active. -/
def ActsFor (h : ℤ) (a : Action) (t : AgpsManager) : Prop :=
  (∃ ok apn bearer type, .atlOpenStatus h ok apn bearer type ∈ a.outs) ∨
    (∃ type, .sendMsg h type ∈ a.outs) ∨
    ∃ n m, t.nif n = some m ∧ m.Active h ∧
      (.frameworkStatus m.agpsType true ∈ a.outs ∨ n = .ds ∧ ∃ ret, .dsStart ret ∈ a.outs)

/-! ## The steps that are careful -/

/-- The release of a handle takes it out of the only list it is active in, and no request for it
waits in the queue. -/
def ReleasesAll (s : AgpsManager) : Input → Prop
  | .releaseATL h =>
      match s.search h with
      | none => True
      | some (n, _) => stateIn s n ≠ .released ∧
          (∀ n' ∈ [Nif.agnss, .internet, .ds], n' ≠ n →
            ∀ x ∈ s.subs n', x.connHandle = h → x.isInactive = true) ∧
          ∀ p ∈ s.queue, p.1 ≠ h
  | _ => True

instance (s : AgpsManager) : (i : Input) → Decidable (ReleasesAll s i)
  | .releaseATL h =>
      match hs : s.search h with
      | none => decidable_of_iff True (by simp only [ReleasesAll, hs])
      | some (n, _) => decidable_of_iff (stateIn s n ≠ .released ∧
          (∀ n' ∈ [Nif.agnss, .internet, .ds], n' ≠ n →
            ∀ x ∈ s.subs n', x.connHandle = h → x.isInactive = true) ∧
          ∀ q ∈ s.queue, q.1 ≠ h) (by simp only [ReleasesAll, hs])
  | .createAgpsStateMachines | .requestATL _ _ | .reportDataCallOpened | .reportDataCallClosed
  | .reportAtlOpenSuccess .. | .reportAtlOpenFailed _ | .reportAtlClosed _ | .handleModemSSR
  | .postedRequest | .retryTimer => inferInstanceAs (Decidable True)

/-- **The condition**: a release ends everything there is for its handle, and a refused connection
has no subscriber that waits for its close and was not asked for again. -/
def Careful (c : Conf) (s : Tracked) (i : Input) : Prop :=
  ReleasesAll s.mgr i ∧
    ∀ x ∈ refused c s.mgr i, x.isInactive = true → x.connHandle ∉ s.released

instance (c : Conf) (s : Tracked) (i : Input) : Decidable (Careful c s i) :=
  inferInstanceAs (Decidable (_ ∧ _))

/-- A careful step. -/
def CarefulStep (c : Conf) (s : Tracked) (a : Action) (t : Tracked) : Prop :=
  TrackedStep c s a t ∧ Careful c s a.input

/-! ## What careful steps keep -/

/-- Nothing is under way for the handle: it is active nowhere and no request for it waits. -/
structure Quiet (s : AgpsManager) (h : ℤ) : Prop where
  inactive : ∀ n, ∀ x ∈ s.subs n, x.connHandle = h → x.isInactive = true
  queue : ∀ type, (h, type) ∉ s.queue

/-- The lists have distinct handles, and the released handles are quiet. -/
structure Settled (s : Tracked) : Prop where
  distinct : ∀ n, ((s.mgr.subs n).map (·.connHandle)).Nodup
  quiet : ∀ h ∈ s.released, Quiet s.mgr h

/-- Who is in the released set after an input: who was and is not asked for, or who is released
and found by this input. -/
lemma mem_releasedAfter {s : Tracked} {i : Input} (hh : h ∈ releasedAfter s i) :
    (h ∈ s.released ∧ ∀ type, i ≠ .requestATL h type) ∨
      i = .releaseATL h ∧ ∃ n sub, s.mgr.search h = some (n, sub) := by
  cases i with
  | releaseATL h' =>
      simp only [releasedAfter] at hh
      split at hh
      · rename_i hsome
        rcases List.mem_cons.mp hh with rfl | hh
        · obtain ⟨⟨n, sub⟩, hp⟩ := Option.isSome_iff_exists.mp hsome
          exact Or.inr ⟨rfl, n, sub, hp⟩
        · exact Or.inl ⟨hh, by simp⟩
      · exact Or.inl ⟨hh, by simp⟩
  | requestATL h' type =>
      obtain ⟨hmem, hne⟩ := List.mem_filter.mp hh
      refine Or.inl ⟨hmem, ?_⟩
      rintro type' heq
      cases heq
      simp at hne
  | _ => exact Or.inl ⟨hh, by simp⟩

/-- Where nothing is said about a connection of the handle and nothing is posted for it, and it is
quiet afterwards, the step does not act for it. -/
lemma not_actsFor {a : Action} (hq : Quiet t h)
    (hopen : ∀ ok apn bearer type, .atlOpenStatus h ok apn bearer type ∉ a.outs)
    (hsend : ∀ type, .sendMsg h type ∉ a.outs) : ¬ActsFor h a t := by
  rintro (⟨ok, apn, bearer, type, ho⟩ | ⟨type, ho⟩ | ⟨n, m, hm, ⟨x, hx, hxh, hact⟩, -⟩)
  · exact hopen ok apn bearer type ho
  · exact hsend type ho
  · have hin := hq.inactive n x (by rw [subs, hm]; exact hx) hxh
    rw [hact] at hin
    cases hin

/-- **A quiet handle stays quiet** in a step in which the modem does not ask for it and it is not
refused. -/
lemma Quiet.step {a : Action} (hq : Quiet s h) (hst : Step c s a t)
    (hnew : ∀ type, a.input ≠ .requestATL h type)
    (href : ∀ x ∈ refused c s a.input, x.connHandle ≠ h) :
    Quiet t h ∧ ¬ActsFor h a t := by
  obtain ⟨he, hqueue⟩ := hst.effect
  have hwait : ∀ type, (h, type) ∉ s.waiting a.input := fun type hp => hq.queue type (mem_waiting hp)
  suffices hsuf : (∀ n, ∀ x ∈ t.subs n, x.connHandle = h → x.isInactive = true) ∧
      (∀ ok apn bearer type, .atlOpenStatus h ok apn bearer type ∉ a.outs) ∧
      ∀ type, .sendMsg h type ∉ a.outs by
    obtain ⟨hsub, hopen, hsend⟩ := hsuf
    have hqt : Quiet t h := by
      refine ⟨hsub, ?_⟩
      intro type hp
      rw [hqueue] at hp
      rcases List.mem_append.mp hp with hp | hp
      · exact hwait type hp
      · exact hsend type (mem_posted.mp hp)
    exact ⟨hqt, not_actsFor hqt hopen hsend⟩
  cases he with
  | event n event m₀ m pre hsent hm₀ hcr hm htn ht houts hpre =>
      obtain ⟨hsubs, -⟩ := taken_subscribers hm₀ hm
      have hafter := taken_after htn
      have hin : ∀ n, ∀ x ∈ t.subs n, x.connHandle = h → x.isInactive = true := by
        intro n' x hx hxh
        by_cases hn : n' = n
        · subst hn
          rw [hafter] at hx
          rcases AgpsStateMachine.mem_subscribersAfter hx with hx | ⟨hev, -⟩ | ⟨-, -, -, y, -, -, rfl⟩
          · rw [hsubs] at hx
            exact hq.inactive n' x hx hxh
          · rw [AgpsStateMachine.translate_eq_subscribe] at hev
            subst hev hxh
            rcases sent_subscribe hsent with ⟨type, hin, -⟩ | ⟨type, hin, -⟩
            · exact absurd hin (hnew type)
            · exact absurd hin (hq.queue type)
          · rfl
        · rw [(ht n' hn).subs] at hx
          exact hq.inactive n' x hx hxh
      have hrefh : m.Refuses event → h ∉ m.handles := by
        intro hr hmem
        obtain ⟨x, hx, hxh⟩ := List.mem_map.mp hmem
        exact href x (mem_refused hsent (taken_refuses hm₀ hm hr) hr hx) hxh
      refine ⟨hin, ?_, ?_⟩
      · intro ok apn bearer type ho
        rw [houts] at ho
        rcases List.mem_append.mp ho with ho | ho
        · cases hpre _ ho
        · rcases AgpsStateMachine.mem_open ho with ⟨x, rfl, hxh⟩ | ⟨-, x, hx, hxh, hact⟩ | ⟨hr, hmem⟩
          · subst hxh
            rcases sent_subscribe hsent with ⟨type, hin, -⟩ | ⟨type, hin, -⟩
            · exact absurd hin (hnew type)
            · exact absurd hin (hq.queue type)
          · rw [hsubs] at hx
            rw [hq.inactive n x hx hxh] at hact
            cases hact
          · exact hrefh hr hmem
      · intro type ho
        rw [houts] at ho
        rcases List.mem_append.mp ho with ho | ho
        · cases hpre _ ho
        · rcases (AgpsStateMachine.mem_sendMsg ho).2 with ⟨hr, hmem⟩ | ⟨-, -, x, hx, hact, hxh⟩
          · exact hrefh hr hmem
          · rw [← hafter] at hx
            rw [hin n x hx hxh] at hact
            cases hact
  | idle hspr hidle hnone =>
      refine ⟨?_, ?_, ?_⟩
      · intro n x hx hxh
        rw [(hspr n).subs] at hx
        exact hq.inactive n x hx hxh
      · intro ok apn bearer type ho
        have hid := hidle _ ho
        cases hin : a.input with
        | requestATL h' type' =>
            rw [hin] at hid
            rcases hid with hid | hid <;> cases hid
            exact hnew _ hin
        | postedRequest =>
            rw [hin] at hid
            rcases hid with hid | ⟨h', type', rest, hqueue', hid⟩
            · cases hid
            · cases hid
              exact hq.queue type (by rw [hqueue']; exact List.mem_cons_self)
        | retryTimer =>
            rw [hin] at hid
            obtain ⟨x, -, -, hid⟩ := hid
            cases hid
        | _ =>
            rw [hin] at hid
            cases hid
      · intro type ho
        have hid := hidle _ ho
        cases hin : a.input with
        | requestATL h' type' =>
            rw [hin] at hid
            rcases hid with hid | hid <;> cases hid
        | postedRequest =>
            rw [hin] at hid
            rcases hid with hid | ⟨h', type', rest, -, hid⟩ <;> cases hid
        | retryTimer =>
            rw [hin] at hid
            obtain ⟨x, hx, hact, hid⟩ := hid
            cases hid
            rw [hq.inactive .ds x hx rfl] at hact
            cases hact
        | _ =>
            rw [hin] at hid
            cases hid
  | restart hin ht houts =>
      refine ⟨?_, ?_, ?_⟩
      · intro n x hx
        simp only [subs, ht] at hx
        cases hn : s.nif n <;> simp [hn, AgpsStateMachine.dropAllSubscribers] at hx
      · intro ok apn bearer type ho
        rcases houts _ ho with ho | ho | ho | ho <;> cases ho
      · intro type ho
        rcases houts _ ho with ho | ho | ho | ho <;> cases ho

/-- **A release makes its handle quiet** when it ends everything there is for it. -/
lemma Quiet.of_release {a : Action} {sub : AgpsSubscriber}
    (hd : ∀ n, ((s.subs n).map (·.connHandle)).Nodup) (hin : a.input = .releaseATL h)
    (hs : s.search h = some (n, sub)) (hall : ReleasesAll s a.input) (hst : Step c s a t) :
    Quiet t h ∧ ¬ActsFor h a t := by
  obtain ⟨he, hqueue⟩ := hst.effect
  simp only [hin, ReleasesAll, hs] at hall
  obtain ⟨hstate, hother, hq⟩ := hall
  obtain ⟨hself, hsame⟩ := inactive_of_release hd hin hs hstate hst
  have hinact : ∀ n, ∀ x ∈ t.subs n, x.connHandle = h → x.isInactive = true := by
    intro n' x hx hxh
    by_cases hn : n' = n
    · subst hn
      exact hself x hx hxh
    · rw [hsame n' hn] at hx
      exact hother n' (by cases n' <;> simp) hn x hx hxh
  cases he with
  | idle _ _ hnone => exact absurd (hnone n _ (by rw [hin, sent, hs]; rfl)) (nif_ne_none_of_search hs)
  | restart hin' => simp [hin] at hin'
  | event n' event m₀ m pre hsent hm₀ hcr hm htn ht houts hpre =>
      simp only [hin, sent, hs, Option.map_some, Option.some.injEq, Prod.mk.injEq] at hsent
      obtain ⟨rfl, rfl⟩ := hsent
      have htr : m.translate (.unsubscribe sub) = .unsubscribe sub := by
        simp [AgpsStateMachine.translate]
      have hopen : ∀ ok apn bearer type, .atlOpenStatus h ok apn bearer type ∉ a.outs := by
        intro ok apn bearer type ho
        rw [houts] at ho
        rcases List.mem_append.mp ho with ho | ho
        · cases hpre _ ho
        · rcases AgpsStateMachine.mem_open ho with ⟨x, hev, -⟩ | ⟨hev, -⟩ | ⟨hr, -⟩
          · cases hev
          · cases hev
          · rw [AgpsStateMachine.Refuses, htr] at hr
            cases hr.1
      have hsend : ∀ type, .sendMsg h type ∉ a.outs := by
        intro type ho
        rw [houts] at ho
        rcases List.mem_append.mp ho with ho | ho
        · cases hpre _ ho
        · rcases (AgpsStateMachine.mem_sendMsg ho).2 with ⟨hr, -⟩ | ⟨hatt, -⟩
          · rw [AgpsStateMachine.Refuses, htr] at hr
            cases hr.1
          · rcases hatt with ⟨hev, -⟩ | ⟨hev | hev, -⟩ <;> cases hev
      have hqt : Quiet t h := by
        refine ⟨hinact, ?_⟩
        intro type hp
        rw [hqueue] at hp
        rcases List.mem_append.mp hp with hp | hp
        · exact hq _ (mem_waiting hp) rfl
        · exact hsend type (mem_posted.mp hp)
      exact ⟨hqt, not_actsFor hqt hopen hsend⟩

/-- **A careful step** keeps the released handles quiet and acts for none of them. -/
lemma Settled.step {s t : Tracked} {a : Action} (hs : Settled s) (hst : CarefulStep c s a t) :
    Settled t ∧ ∀ h ∈ t.released, ¬ActsFor h a t.mgr := by
  obtain ⟨⟨hstep, hrel⟩, hall, href⟩ := hst
  have hquiet : ∀ h ∈ t.released, Quiet t.mgr h ∧ ¬ActsFor h a t.mgr := by
    intro h hh
    rw [hrel] at hh
    rcases mem_releasedAfter hh with ⟨hmem, hnew⟩ | ⟨hin, n, sub, hsearch⟩
    · refine (hs.quiet h hmem).step hstep hnew ?_
      rintro x hx rfl
      obtain ⟨n, hsub⟩ := mem_subs_of_refused hx
      exact href x hx ((hs.quiet _ hmem).inactive n x hsub rfl) hmem
    · exact Quiet.of_release hs.distinct hin hsearch hall hstep
  exact ⟨⟨distinct_step hs.distinct hstep, fun h hh => (hquiet h hh).1⟩,
    fun h hh => (hquiet h hh).2⟩

/-! ## Runs -/

/-- **A released handle stays released** in every run of careful steps: no step issues an open
status or a new or repeated connection request on its behalf. -/
theorem released_stays_released {as : List Action} {s t : Tracked} {a : Action}
    (hr : Run (CarefulStep c) ⟨init, []⟩ as s) (hst : CarefulStep c s a t) :
    ∀ h ∈ t.released, ¬ActsFor h a t.mgr := by
  have hs : Settled s := by
    refine hr.invariant (P := Settled) (fun s a t hs hst => (hs.step hst).1) ⟨?_, ?_⟩
    · intro n
      exact List.nodup_nil
    · intro h hh
      exact absurd hh List.not_mem_nil
  exact (hs.step hst).2

/-- The next tracked state, for a reply of the callbacks. -/
def nextTracked (c : Conf) (s : Tracked) (p : Input × Reply) : Option (Tracked × Action) :=
  (next c s.mgr p).map fun q => (⟨q.1, releasedAfter s p.1⟩, q.2)

lemma trackedStep_of_next {s : Tracked} {p : Input × Reply} {q : Tracked × Action}
    (h : nextTracked c s p = some q) : TrackedStep c s q.2 q.1 := by
  obtain ⟨q', hq', rfl⟩ := Option.map_eq_some_iff.mp h
  refine ⟨step_of_next hq', ?_⟩
  obtain ⟨q'', -, rfl⟩ := Option.map_eq_some_iff.mp hq'
  rfl

/-- The next tracked state where the step is careful. -/
def nextCareful (c : Conf) (s : Tracked) (p : Input × Reply) : Option (Tracked × Action) :=
  if Careful c s p.1 then nextTracked c s p else none

lemma carefulStep_of_next {s : Tracked} {p : Input × Reply} {q : Tracked × Action}
    (h : nextCareful c s p = some q) : CarefulStep c s q.2 q.1 := by
  simp only [nextCareful] at h
  split at h
  · rename_i hc
    refine ⟨trackedStep_of_next h, ?_⟩
    obtain ⟨q', hq', rfl⟩ := Option.map_eq_some_iff.mp h
    obtain ⟨q'', -, rfl⟩ := Option.map_eq_some_iff.mp hq'
    exact hc
  · cases h

/-- **A released handle is asked for again**: the DS client is busy, so that the machine stays in
RELEASED with the handle in its list; the release is confirmed and leaves it there, and the retry
timer posts a request for it. -/
theorem released_asked_again :
    ¬∀ (c : Conf) (as : List Action) (s t : Tracked) (a : Action),
      Run (TrackedStep c) ⟨init, []⟩ as s → TrackedStep c s a t →
        ∀ h ∈ t.released, ¬ActsFor h a t.mgr := by
  intro hall
  have hrun : ((execBy (nextTracked emergencyConf) ⟨init, []⟩
      [(.createAgpsStateMachines, okReply), (.requestATL 1 .suplEs, busyReply),
        (.releaseATL 1, okReply)]).bind fun p =>
      (nextTracked emergencyConf p.1 (.retryTimer, okReply)).map fun q =>
        decide (1 ∈ q.1.released ∧ .sendMsg 1 .suplEs ∈ q.2.outs)) = some true := by
    decide +kernel
  obtain ⟨p, hp, hrest⟩ := Option.bind_eq_some_iff.mp hrun
  obtain ⟨q, hq, hdec⟩ := Option.map_eq_some_iff.mp hrest
  obtain ⟨hrel, hsend⟩ := of_decide_eq_true hdec
  have hr : Run (TrackedStep emergencyConf) ⟨init, []⟩ p.2 p.1 :=
    Run.of_execBy (fun _ _ _ h => trackedStep_of_next h) hp
  have hst : TrackedStep emergencyConf p.1 q.2 q.1 := trackedStep_of_next hq
  have hacts : ActsFor 1 q.2 q.1.mgr := Or.inr (Or.inl ⟨_, hsend⟩)
  exact hall emergencyConf p.2 p.1 q.1 q.2 hr hst 1 hrel hacts

/-- A handle of the base machine that was granted its connection, released by the modem, and gone
when the framework reports that the connection is closed. -/
theorem released_stays_released_closed :
    ∃ p q, execBy (nextCareful emergencyConf) ⟨init, []⟩
      [(.createAgpsStateMachines, okReply), (.requestATL 1 .supl, okReply),
        (.reportAtlOpenSuccess .supl none 0 1, okReply), (.releaseATL 1, okReply)] = some p ∧
      nextCareful emergencyConf p.1 (.reportAtlClosed .supl, okReply) = some q ∧
      1 ∈ q.1.released ∧ ¬ActsFor 1 q.2 q.1.mgr := by
  have hrun : ((execBy (nextCareful emergencyConf) ⟨init, []⟩
      [(.createAgpsStateMachines, okReply), (.requestATL 1 .supl, okReply),
        (.reportAtlOpenSuccess .supl none 0 1, okReply), (.releaseATL 1, okReply)]).bind fun p =>
      (nextCareful emergencyConf p.1 (.reportAtlClosed .supl, okReply)).map fun q =>
        decide (1 ∈ q.1.released)) = some true := by
    decide +kernel
  obtain ⟨p, hp, hrest⟩ := Option.bind_eq_some_iff.mp hrun
  obtain ⟨q, hq, hdec⟩ := Option.map_eq_some_iff.mp hrest
  have hr : Run (CarefulStep emergencyConf) ⟨init, []⟩ p.2 p.1 :=
    Run.of_execBy (fun _ _ _ h => carefulStep_of_next h) hp
  have hrel : 1 ∈ q.1.released := of_decide_eq_true hdec
  exact ⟨p, q, hp, hq, hrel, released_stays_released hr (carefulStep_of_next hq) 1 hrel⟩

end Gps.Agps
