import Mathlib
import OcnDevice.Gps.Agps.Machine

/-!
# A machine with another APN and bearer

`relink` replaces what a machine remembers of the last connection it was granted.  Every function
of the machine carries the replacement through to its result, one transport lemma for each of
them, and what it calls differs at most in the APN and bearer of an open status.  For a refused
connection these say nothing, and `mask` takes them out; a granted one names the connection the
machine now holds, so that `Alike` asks for the same APN and bearer where the base machine is in
ACQUIRED.
-/

namespace Gps.Agps

/-- A callback without the APN and bearer of a refused connection. -/
def mask : Out → Out
  | .atlOpenStatus h false _ _ type => .atlOpenStatus h false none bearerInvalid type
  | o => o

namespace AgpsStateMachine

variable {k : Kind} {c : Conf} {r : Reply} {m m' : AgpsStateMachine k} {s : AgpsSubscriber}
  {h : ℤ} {apn : Option (List UInt8)} {bearer : ℤ} {event : AgpsEvent}

/-- The machine with another APN and bearer. -/
def relink (apn : Option (List UInt8)) (bearer : ℤ) (m : AgpsStateMachine k) :
    AgpsStateMachine k :=
  { m with apn := apn, bearer := bearer }

@[simp] lemma relink_subscribers : (m.relink apn bearer).subscribers = m.subscribers := rfl

@[simp] lemma relink_state : (m.relink apn bearer).state = m.state := rfl

lemma relink_addSubscriber :
    (m.relink apn bearer).addSubscriber s = (m.addSubscriber s).relink apn bearer := by
  cases hany : m.subscribers.any (·.connHandle == s.connHandle) <;>
    simp only [addSubscriber, relink_subscribers, hany] <;> rfl

lemma relink_noticed :
    (m.relink apn bearer).noticed event = (m.noticed event).relink apn bearer := by
  cases k <;> cases event <;> rfl

lemma relink_notice (hne : event ≠ .granted ∨ k = .ds) :
    ((m.relink apn bearer).notice event h).map mask = (m.notice event h).map mask := by
  cases k with
  | base =>
      cases event with
      | granted => simp at hne
      | _ => rfl
  | ds => cases event <;> rfl

lemma relink_retire :
    (m.relink apn bearer).retire s = ((m.retire s).1.relink apn bearer, (m.retire s).2) := by
  simp only [retire]
  split
  · rfl
  · cases k <;> rfl

lemma relink_notifyAll {b : Bool} {type : AgpsNotificationType} :
    ((m.relink apn bearer).notifyAllSubscribers event b type).1 =
      (m.notifyAllSubscribers event b type).1.relink apn bearer := by
  simp only [notifyAllSubscribers, relink_subscribers, relink_noticed]
  split_ifs <;> rfl

variable (apn bearer event) in
lemma relink_notifyAll_outs {b : Bool} (type : AgpsNotificationType)
    (hne : event ≠ .granted ∨ k = .ds) :
    ((m.relink apn bearer).notifyAllSubscribers event b type).2.map mask =
      (m.notifyAllSubscribers event b type).2.map mask := by
  simp only [notifyAllSubscribers, relink_subscribers, List.map_flatMap]
  congr 1
  funext x
  exact relink_notice hne

lemma relink_startDataCall {m : AgpsStateMachine .ds} :
    (m.relink apn bearer).startDataCall r s =
      ((m.startDataCall r s).1.relink apn bearer, (m.startDataCall r s).2) := by
  have hret : (m.relink apn bearer).retries = m.retries := rfl
  simp only [startDataCall, hret]
  split_ifs <;> rfl

lemma relink_requestOrRelease {b : Bool} :
    (m.relink apn bearer).requestOrReleaseDataConn c r b =
      ((m.requestOrReleaseDataConn c r b).1.relink apn bearer,
        (m.requestOrReleaseDataConn c r b).2) := by
  cases k with
  | base => rfl
  | ds =>
      have hfirst : (m.relink apn bearer).getFirstSubscriber false =
          m.getFirstSubscriber false := rfl
      simp only [requestOrReleaseDataConn, hfirst, relink_startDataCall]
      cases m.getFirstSubscriber false <;> simp only [] <;> split_ifs <;> rfl

lemma relink_transition (st : AgpsState) :
    (m.relink apn bearer).transitionState st = (m.transitionState st).relink apn bearer := rfl

lemma relink_finishRelease :
    ((m.relink apn bearer).finishRelease c r).1 = (m.finishRelease c r).1.relink apn bearer ∧
      ((m.relink apn bearer).finishRelease c r).2.map mask =
        (m.finishRelease c r).2.map mask := by
  have houts := relink_notifyAll_outs (m := m) (b := true) apn bearer .released
    .forInactiveSubscribers (Or.inl (by simp))
  have hany : ∀ m₁ : AgpsStateMachine k,
      (m₁.relink apn bearer).anyActiveSubscribers = m₁.anyActiveSubscribers := fun _ => rfl
  simp only [finishRelease, relink_notifyAll, hany, relink_transition, relink_requestOrRelease]
  split_ifs <;> simp [houts]

variable (apn bearer) in
/-- **An event of a machine with another APN and bearer.** -/
theorem relink_processAgpsEvent (hst : k = .base → m.state ≠ .acquired ∧ event ≠ .granted) :
    ((m.relink apn bearer).processAgpsEvent c r event).1 =
        (m.processAgpsEvent c r event).1.relink apn bearer ∧
      ((m.relink apn bearer).processAgpsEvent c r event).2.map mask =
        (m.processAgpsEvent c r event).2.map mask := by
  have htr : (m.relink apn bearer).translate event = m.translate event := rfl
  simp only [processAgpsEvent, htr]
  cases hev : m.translate event with
  | subscribe s =>
      simp only [processAgpsEventSubscribe, relink_state, relink_addSubscriber,
        relink_requestOrRelease]
      cases hs : m.state with
      | released =>
          refine ⟨?_, rfl⟩
          simp only []
          split_ifs <;> rfl
      | pending | releasing => exact ⟨rfl, rfl⟩
      | acquired =>
          have hds : k = .ds := by
            cases k with
            | base => exact absurd hs (hst rfl).1
            | ds => rfl
          subst hds
          exact ⟨relink_addSubscriber, rfl⟩
  | unsubscribe s =>
      have hany : ∀ m₁ : AgpsStateMachine k,
          (m₁.relink apn bearer).anyActiveSubscribers = m₁.anyActiveSubscribers := fun _ => rfl
      simp only [processAgpsEventUnsubscribe, relink_state, relink_retire, relink_subscribers,
        hany, relink_transition, relink_requestOrRelease]
      cases m.state with
      | released => exact ⟨relink_noticed, relink_notice (Or.inl (by simp))⟩
      | pending | acquired =>
          simp only []
          split_ifs <;> exact ⟨rfl, rfl⟩
      | releasing =>
          refine ⟨?_, rfl⟩
          simp only []
          split_ifs <;> rfl
  | granted =>
      have hds : k = .ds := by
        cases k with
        | base => exact absurd (translate_eq_granted.mp hev) (hst rfl).2
        | ds => rfl
      simp only [processAgpsEventGranted, relink_state, relink_transition]
      cases m.state with
      | pending => exact ⟨relink_notifyAll, relink_notifyAll_outs _ _ _ _ (Or.inr hds)⟩
      | released | acquired | releasing => exact ⟨rfl, rfl⟩
  | released =>
      simp only [processAgpsEventReleased, relink_state, relink_transition]
      cases m.state with
      | released | pending => exact ⟨rfl, rfl⟩
      | acquired => exact ⟨relink_notifyAll, relink_notifyAll_outs _ _ _ _ (Or.inl (by simp))⟩
      | releasing => exact relink_finishRelease
  | denied =>
      simp only [processAgpsEventDenied, relink_state, relink_transition]
      cases m.state with
      | released | acquired => exact ⟨rfl, rfl⟩
      | pending => exact ⟨relink_notifyAll, relink_notifyAll_outs _ _ _ _ (Or.inl (by simp))⟩
      | releasing => exact relink_finishRelease

/-! ## Machines that are alike -/

/-- The machines differ in APN and bearer at most, and a base machine that holds a connection in
nothing. -/
structure Alike (m m' : AgpsStateMachine k) : Prop where
  link : ∃ apn bearer, m' = m.relink apn bearer
  held : k = .base → m.state = .acquired → m' = m

lemma Alike.refl (m : AgpsStateMachine k) : Alike m m :=
  ⟨⟨m.apn, m.bearer, rfl⟩, fun _ _ => rfl⟩

lemma Alike.subscribers (ha : Alike m m') : m'.subscribers = m.subscribers := by
  obtain ⟨apn, bearer, rfl⟩ := ha.link
  rfl

lemma Alike.symm (ha : Alike m m') : Alike m' m := by
  obtain ⟨⟨apn, bearer, rfl⟩, held⟩ := ha
  exact ⟨⟨m.apn, m.bearer, rfl⟩, fun hk hst => (held hk hst).symm⟩

/-- A machine comes to hold a connection only when it is granted one. -/
lemma acquired_after (hst : (m.processAgpsEvent c r event).1.state = .acquired) :
    m.state = .acquired ∨ event = .granted := by
  simp only [processAgpsEvent] at hst
  cases htr : m.translate event with
  | subscribe s =>
      simp only [htr, processAgpsEventSubscribe] at hst
      cases hs : m.state with
      | released =>
          simp only [hs] at hst
          split at hst <;> simp [hs] at hst
      | pending | releasing => simp [hs] at hst
      | acquired => exact Or.inl rfl
  | unsubscribe s =>
      simp only [htr, processAgpsEventUnsubscribe] at hst
      cases hs : m.state with
      | released => simp [hs, notifyEventToSubscriber] at hst
      | pending =>
          simp only [hs] at hst
          split at hst
          · simp at hst
          · split at hst <;> simp [hs] at hst
      | releasing =>
          simp only [hs] at hst
          split at hst <;> simp [hs] at hst
      | acquired => exact Or.inl rfl
  | granted => exact Or.inr (translate_eq_granted.mp htr)
  | released =>
      simp only [htr, processAgpsEventReleased] at hst
      cases hs : m.state with
      | released | pending => simp [hs] at hst
      | acquired => exact Or.inl rfl
      | releasing =>
          simp only [hs, finishRelease] at hst
          split at hst <;> simp at hst
  | denied =>
      simp only [htr, processAgpsEventDenied] at hst
      cases hs : m.state with
      | released | pending => simp [hs] at hst
      | acquired => exact Or.inl rfl
      | releasing =>
          simp only [hs, finishRelease] at hst
          split at hst <;> simp at hst

/-- **Machines that are alike stay alike**, and what they call is alike. -/
theorem Alike.processAgpsEvent (ha : Alike m m')
    (hg : k = .base → event = .granted → m' = m) :
    Alike (m.processAgpsEvent c r event).1 (m'.processAgpsEvent c r event).1 ∧
      (m'.processAgpsEvent c r event).2.map mask = (m.processAgpsEvent c r event).2.map mask := by
  by_cases hb : k = .base ∧ (m.state = .acquired ∨ event = .granted)
  · obtain ⟨hk, hb⟩ := hb
    have heq : m' = m := hb.elim (ha.held hk) (hg hk)
    rw [heq]
    exact ⟨.refl _, rfl⟩
  · push Not at hb
    obtain ⟨apn, bearer, rfl⟩ := ha.link
    obtain ⟨hm, houts⟩ := relink_processAgpsEvent (c := c) (r := r) apn bearer hb
    rw [hm]
    refine ⟨⟨⟨apn, bearer, rfl⟩, ?_⟩, houts⟩
    intro hk hst
    exact absurd (acquired_after hst) (not_or.mpr (hb hk))

end AgpsStateMachine

end Gps.Agps
