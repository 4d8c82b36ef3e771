import Mathlib
import OcnDevice.Core.Separated
import OcnDevice.Gps.Agps.Machine

/-!
# Consistency of the base machine

`Consistent` couples the state of a machine with its list, and `Asked` couples the state with
the requests the framework was sent: a request goes out only in RELEASED and RELEASING, and the
machine comes back to these only by a release request, a RELEASED or a DENIED.  Both are kept by
one event (`Consistent.step`, and `moves` with `Asked.step`), and a run keeps them together.
-/

namespace Gps.Agps

namespace AgpsStateMachine

variable {k : Kind} {c : Conf} {r : Reply} {m : AgpsStateMachine k} {s x : AgpsSubscriber} {h : ℤ}

/-! ## The state and the list -/

/-- The events of a run: who subscribes is active, and who unsubscribes was found in the list. -/
def Admissible (m : AgpsStateMachine k) : AgpsEvent → Prop
  | .subscribe s => s.isInactive = false
  | .unsubscribe s => m.getSubscriber s.connHandle = some s
  | _ => True

/-- What the state says about the list. -/
structure Consistent (m : AgpsStateMachine k) : Prop where
  released : m.state = .released → m.subscribers = []
  active : m.state = .pending ∨ m.state = .acquired → ∃ x ∈ m.subscribers, x.isInactive = false
  releasing : m.state = .releasing → ∃ x ∈ m.subscribers, x.isInactive = true
  distinct : m.handles.Nodup

/-- Only a subscriber that waits for the close is ever inactive. -/
def Waits (m : AgpsStateMachine k) : Prop :=
  ∀ x ∈ m.subscribers, x.isInactive = true → x.waitForCloseComplete = true

lemma exists_of_not_isEmpty (hne : m.subscribers.isEmpty = false)
    (hact : m.anyActiveSubscribers = false) : ∃ x ∈ m.subscribers, x.isInactive = true := by
  cases hl : m.subscribers with
  | nil => simp [hl] at hne
  | cons y rest =>
      refine ⟨y, List.mem_cons_self, ?_⟩
      have hall : ∀ x ∈ m.subscribers, x.isInactive = true := by
        simpa [anyActiveSubscribers] using hact
      exact hall y (by simp [hl])

/-- An unsubscription in the RELEASING state leaves one that waits for the close. -/
lemma exists_inactive_retire (hw : m.Waits) (hs : m.getSubscriber s.connHandle = some s)
    (hm : ∃ x ∈ m.subscribers, x.isInactive = true) (hd : m.handles.Nodup) :
    ∃ x ∈ (m.retire s).1.subscribers, x.isInactive = true := by
  obtain ⟨hmem, -⟩ := getSubscriber_some hs
  simp only [retire]
  split
  · exact exists_inactive_setInactive ⟨s, hmem, rfl⟩
  · rename_i hwait
    obtain ⟨x, hx, hin⟩ := hm
    have hne : x.connHandle ≠ s.connHandle := by
      intro heq
      rw [List.inj_on_of_nodup_map hd hx hmem heq] at hin hx
      exact hwait (hw s hmem hin)
    have hdel : ∀ y : AgpsSubscriber, y ∈ m.subscribers → y.connHandle ≠ s.connHandle →
        y ∈ m.subscribers.filter (·.connHandle != s.connHandle) := by
      intro y hy hne
      exact List.mem_filter.mpr ⟨hy, by simpa using hne⟩
    refine ⟨x, ?_, hin⟩
    cases k <;> exact hdel x hx hne

/-- The three things a base machine can do about its connection in one event: nothing, ask for
one, or give it back. -/
inductive Moves (m : AgpsStateMachine .base) (event : AgpsEvent) (m' : AgpsStateMachine .base)
    (outs : List Out) : Prop
  | quiet :
      (∀ type b, .frameworkStatus type b ∉ outs) →
      ((m'.state = .pending ∨ m'.state = .acquired) → m.state = .pending ∨ m.state = .acquired) →
      ((m'.state = .released ∨ m'.state = .releasing) →
        (m.state = .released ∨ m.state = .releasing) ∨ event = .released ∨ event = .denied) →
      Moves m event m' outs
  | asks (pre : List Out) :
      outs = pre ++ [.frameworkStatus m.agpsType true] →
      (∀ type b, .frameworkStatus type b ∉ pre) → m'.state = .pending →
      (m.state = .released ∨ m.state = .releasing) → Moves m event m' outs
  | gives (pre : List Out) :
      outs = pre ++ [.frameworkStatus m.agpsType false] →
      (∀ type b, .frameworkStatus type b ∉ pre) →
      (m'.state = .released ∨ m'.state = .releasing) → Moves m event m' outs

lemma frameworkStatus_notMem_notice (event : AgpsEvent) (type : AGpsExtType) (b : Bool) :
    .frameworkStatus type b ∉ m.notice event h := by
  cases k <;> cases event <;> simp [notice]

lemma frameworkStatus_notMem_notifyEvent (event : AgpsEvent) (b' : Bool) (type : AGpsExtType)
    (b : Bool) : .frameworkStatus type b ∉ (m.notifyEventToSubscriber event s b').2 :=
  frameworkStatus_notMem_notice event type b

lemma frameworkStatus_notMem_notifyAll (event : AgpsEvent) (b' : Bool)
    (nt : AgpsNotificationType) (type : AGpsExtType) (b : Bool) :
    .frameworkStatus type b ∉ (m.notifyAllSubscribers event b' nt).2 := by
  simp only [notifyAllSubscribers, List.mem_flatMap, not_exists, not_and]
  intro x _
  exact frameworkStatus_notMem_notice event type b

lemma frameworkStatus_notMem_retire (type : AGpsExtType) (b : Bool) :
    .frameworkStatus type b ∉ (m.retire s).2 := by
  simp only [retire]
  split
  · exact List.not_mem_nil
  · exact frameworkStatus_notMem_notice _ type b

lemma Moves.finishRelease {m : AgpsStateMachine .base} {event : AgpsEvent}
    (hst : m.state = .releasing) :
    Moves m event (m.finishRelease c r).1 (m.finishRelease c r).2 := by
  simp only [AgpsStateMachine.finishRelease]
  split
  · refine .asks (m.notifyAllSubscribers .released true .forInactiveSubscribers).2 ?_
      (frameworkStatus_notMem_notifyAll _ _ _) rfl (Or.inr hst)
    simp [requestOrReleaseDataConn, transitionState]
  · refine .quiet (frameworkStatus_notMem_notifyAll .released true .forInactiveSubscribers) ?_
      (fun _ => Or.inl (Or.inr hst))
    rintro (h | h) <;> cases h

/-- **What an event does about the connection.** -/
theorem moves {m : AgpsStateMachine .base} (event : AgpsEvent) :
    Moves m event (m.processAgpsEvent c r event).1 (m.processAgpsEvent c r event).2 := by
  have htr : m.translate event = event := by simp [translate]
  simp only [processAgpsEvent, htr]
  cases event with
  | subscribe s =>
      simp only [processAgpsEventSubscribe]
      cases hst : m.state with
      | released =>
          refine .asks [] ?_ (by simp) rfl (Or.inl hst)
          simp [requestOrReleaseDataConn]
      | pending => exact .quiet (by simp) (by simp [hst]) (by simp [hst])
      | acquired =>
          refine .quiet ?_ (by simp [hst]) (by simp [notifyEventToSubscriber, hst])
          exact frameworkStatus_notMem_notifyEvent (m := m) (s := s) .granted false
      | releasing => exact .quiet (by simp) (by simp [hst]) (by simp [hst])
  | unsubscribe s =>
      simp only [processAgpsEventUnsubscribe]
      have hq := frameworkStatus_notMem_retire (m := m) (s := s)
      cases hst : m.state with
      | released =>
          refine .quiet ?_ (by simp [notifyEventToSubscriber, hst])
            (fun _ => Or.inl (Or.inl hst))
          exact frameworkStatus_notMem_notifyEvent _ _
      | pending | acquired =>
          simp only []
          split
          · exact .gives _ (by simp [requestOrReleaseDataConn, transitionState]) hq (Or.inl rfl)
          · split
            · exact .gives _ (by simp [requestOrReleaseDataConn, transitionState]) hq (Or.inr rfl)
            · exact .quiet hq (fun _ => by simp [hst]) (by simp [hst])
      | releasing =>
          refine .quiet hq ?_ (fun _ => Or.inl (Or.inr hst))
          simp only []
          split <;> simp [hst]
  | granted =>
      simp only [processAgpsEventGranted]
      cases hst : m.state with
      | pending =>
          refine .quiet (frameworkStatus_notMem_notifyAll _ _ _) (fun _ => Or.inl hst) ?_
          simp
      | released | acquired | releasing => exact .quiet (by simp) (by simp [hst]) (by simp [hst])
  | released =>
      simp only [processAgpsEventReleased]
      cases hst : m.state with
      | released | pending => exact .quiet (by simp) (by simp [hst]) (by simp [hst])
      | acquired =>
          exact .quiet (frameworkStatus_notMem_notifyAll _ _ _) (by simp) (by simp)
      | releasing => exact .finishRelease hst
  | denied =>
      simp only [processAgpsEventDenied]
      cases hst : m.state with
      | released | acquired => exact .quiet (by simp) (by simp [hst]) (by simp [hst])
      | pending =>
          exact .quiet (frameworkStatus_notMem_notifyAll _ _ _) (by simp) (by simp)
      | releasing => exact .finishRelease hst

lemma Consistent.of_released (hst : m.state = .released) (hl : m.subscribers = []) :
    m.Consistent := by
  refine ⟨fun _ => hl, ?_, ?_, by simp [handles, hl]⟩
  · rintro (h | h) <;> simp [hst] at h
  · intro h
    simp [hst] at h

lemma Consistent.of_active (hst : m.state = .pending ∨ m.state = .acquired)
    (hl : ∃ x ∈ m.subscribers, x.isInactive = false) (hd : m.handles.Nodup) : m.Consistent := by
  refine ⟨?_, fun _ => hl, ?_, hd⟩ <;> intro h <;> rcases hst with hst | hst <;> simp [hst] at h

lemma Consistent.of_releasing (hst : m.state = .releasing)
    (hl : ∃ x ∈ m.subscribers, x.isInactive = true) (hd : m.handles.Nodup) : m.Consistent := by
  refine ⟨?_, ?_, fun _ => hl, hd⟩
  · intro h
    simp [hst] at h
  · rintro (h | h) <;> simp [hst] at h

/-- Where nobody is active, the active ones are nobody. -/
lemma filter_active_eq_nil {l : List AgpsSubscriber}
    (hl : (l.any (!·.isInactive)) = false) : l.filter (!·.isInactive) = [] := by
  rw [List.filter_eq_nil_iff]
  intro x hx hact
  have hany : (l.any (!·.isInactive)) = true := List.any_eq_true.mpr ⟨x, hx, hact⟩
  rw [hl] at hany
  cases hany

lemma Consistent.finishRelease (hd : (m.finishRelease c r).1.handles.Nodup) :
    (m.finishRelease c r).1.Consistent := by
  have hsub := finishRelease_subscribers (m := m) (c := c) (r := r)
  simp only [AgpsStateMachine.finishRelease] at hd hsub ⊢
  split at hsub <;> rename_i hact
  · simp only [hact, if_true] at hd ⊢
    refine .of_active (Or.inl (by simp)) ?_ hd
    simpa using anyActiveSubscribers_iff.mp hact
  · simp only [hact] at hd ⊢
    refine .of_released rfl ?_
    simp only [anyActiveSubscribers, notifyAllSubscribers_subscribers,
      Bool.not_eq_true] at hact
    have hnil := filter_active_eq_nil hact
    simpa [AgpsNotificationType.covers] using hnil

/-- **An event keeps the state and the list of the base machine in step.** -/
theorem Consistent.step {m : AgpsStateMachine .base} (hm : m.Consistent) (hw : m.Waits)
    {event : AgpsEvent} (ha : m.Admissible event) :
    (m.processAgpsEvent c r event).1.Consistent := by
  have hd := nodup_processAgpsEvent (c := c) (r := r) hm.distinct event
  have htr : m.translate event = event := by simp [translate]
  simp only [processAgpsEvent, htr] at hd ⊢
  have keep : ∀ m' : AgpsStateMachine .base, m'.state = m.state → m'.handles.Nodup →
      (∀ x ∈ m.subscribers, x ∈ m'.subscribers) → m.state ≠ .released → m'.Consistent := by
    intro m' hst hd hsub hne
    cases hs : m.state with
    | released => exact absurd hs hne
    | pending =>
        obtain ⟨x, hx, hact⟩ := hm.active (Or.inl hs)
        exact .of_active (Or.inl (hst.trans hs)) ⟨x, hsub x hx, hact⟩ hd
    | acquired =>
        obtain ⟨x, hx, hact⟩ := hm.active (Or.inr hs)
        exact .of_active (Or.inr (hst.trans hs)) ⟨x, hsub x hx, hact⟩ hd
    | releasing =>
        obtain ⟨x, hx, hin⟩ := hm.releasing hs
        exact .of_releasing (hst.trans hs) ⟨x, hsub x hx, hin⟩ hd
  cases event with
  | subscribe s =>
      simp only [processAgpsEventSubscribe] at hd ⊢
      have hin : ∀ x ∈ m.subscribers, x ∈ (m.addSubscriber s).subscribers :=
        fun x hx => mem_addSubscriber.mpr (Or.inl hx)
      cases hst : m.state with
      | released =>
          simp only [hst] at hd
          refine .of_active (Or.inl rfl) ⟨s, ?_, ha⟩ hd
          refine mem_addSubscriber.mpr (Or.inr ⟨rfl, ?_⟩)
          simp [handles, hm.released hst]
      | pending | acquired | releasing =>
          simp only [hst] at hd
          exact keep _ addSubscriber_state hd hin (by simp [hst])
  | unsubscribe s =>
      simp only [processAgpsEventUnsubscribe] at hd ⊢
      have hmem := (getSubscriber_some ha).1
      cases hst : m.state with
      | released =>
          rw [hm.released hst] at hmem
          exact absurd hmem List.not_mem_nil
      | pending | acquired =>
          simp only [hst] at hd ⊢
          cases hemp : (m.retire s).1.subscribers.isEmpty with
          | true => exact .of_released rfl (by simpa using hemp)
          | false =>
              cases hact : (m.retire s).1.anyActiveSubscribers with
              | false =>
                  simp only [hemp, hact] at hd
                  exact .of_releasing rfl (exists_of_not_isEmpty hemp hact) hd
              | true =>
                  simp only [hemp, hact] at hd
                  refine .of_active ?_ (anyActiveSubscribers_iff.mp hact) hd
                  simp [hst]
      | releasing =>
          simp only [hst] at hd ⊢
          cases hemp : (m.retire s).1.subscribers.isEmpty with
          | true => exact .of_released rfl (by simpa using hemp)
          | false =>
              simp only [hemp] at hd
              refine .of_releasing (by simp [hst]) ?_ hd
              exact exists_inactive_retire hw ha (hm.releasing hst) hm.distinct
  | granted =>
      simp only [processAgpsEventGranted] at hd ⊢
      cases hst : m.state with
      | pending =>
          simp only [hst] at hd
          exact .of_active (Or.inr (by simp)) (hm.active (Or.inl hst)) hd
      | released | acquired | releasing => exact hm
  | released =>
      simp only [processAgpsEventReleased] at hd ⊢
      cases hst : m.state with
      | released | pending => exact hm
      | acquired => exact .of_released (by simp) (by simp [AgpsNotificationType.covers])
      | releasing =>
          simp only [hst] at hd
          exact .finishRelease hd
  | denied =>
      simp only [processAgpsEventDenied] at hd ⊢
      cases hst : m.state with
      | released | acquired => exact hm
      | pending => exact .of_released (by simp) (by simp [AgpsNotificationType.covers])
      | releasing =>
          simp only [hst] at hd
          exact .finishRelease hd

/-- **Whoever is inactive waits for the close**, after every event. -/
theorem Waits.step (hw : m.Waits) (hd : m.handles.Nodup) {event : AgpsEvent}
    (ha : m.Admissible event) : (m.processAgpsEvent c r event).1.Waits := by
  intro x hx hin
  rw [processAgpsEvent_subscribers] at hx
  rcases mem_subscribersAfter hx with hx | ⟨hev, -⟩ | ⟨s, hev, hwait, y, hy, hys, rfl⟩
  · exact hw x hx hin
  · rw [translate_eq_subscribe] at hev
    subst hev
    rw [ha] at hin
    cases hin
  · rw [translate_eq_unsubscribe] at hev
    subst hev
    have heq : y = s := List.inj_on_of_nodup_map hd hy (getSubscriber_some ha).1 hys
    show y.waitForCloseComplete = true
    rw [heq]
    exact hwait

/-! ## Runs of the base machine -/

/-- What a run is seen to do: the events it is given and the callbacks it makes. -/
inductive Mark
  | event (e : AgpsEvent)
  | out (o : Out)
  deriving DecidableEq

/-- The marks of a run in their order. -/
def marks (as : List (AgpsEvent × Reply × List Out)) : List Mark :=
  as.flatMap fun a => .event a.1 :: a.2.2.map .out

/-- A data-connection request sent to the framework. -/
def Mark.Requests (x : Mark) : Prop := ∃ type, x = .out (.frameworkStatus type true)

/-- A release request, or a RELEASED or DENIED event. -/
def Mark.Separates (x : Mark) : Prop :=
  (∃ type, x = .out (.frameworkStatus type false)) ∨ x = .event .released ∨ x = .event .denied

/-- Callbacks that send the framework nothing are marks of neither kind. -/
lemma neutral_map_out {outs : List Out} (h : ∀ type b, .frameworkStatus type b ∉ outs) :
    ∀ z ∈ outs.map Mark.out, ¬z.Requests ∧ ¬z.Separates := by
  intro z hz
  obtain ⟨o, ho, rfl⟩ := List.mem_map.mp hz
  constructor
  · rintro ⟨type, heq⟩
    cases heq
    exact h _ _ ho
  · rintro (⟨type, heq⟩ | heq | heq) <;> cases heq
    exact h _ _ ho

/-- The history and the state: requests are separated, and a request that nothing followed leaves
the machine waiting for the connection or holding it. -/
structure Asked (tr : List Mark) (m : AgpsStateMachine .base) : Prop where
  separated : Separated Mark.Requests Mark.Separates tr
  armed : Armed Mark.Requests Mark.Separates tr → m.state = .pending ∨ m.state = .acquired

/-- **What one event adds to the history.** -/
lemma Asked.step {tr : List Mark} {m m' : AgpsStateMachine .base} {event : AgpsEvent}
    {outs : List Out} (hk : Asked tr m) (hmv : Moves m event m' outs) :
    Asked (tr ++ [Mark.event event] ++ outs.map .out) m' := by
  have hev : ¬(Mark.event event).Requests := by
    rintro ⟨type, h⟩
    cases h
  have hsep : Separated Mark.Requests Mark.Separates (tr ++ [Mark.event event]) :=
    separated_snoc.mpr ⟨hk.separated, fun h => absurd h hev⟩
  have harm : Armed Mark.Requests Mark.Separates (tr ++ [Mark.event event]) →
      (m.state = .pending ∨ m.state = .acquired) ∧ event ≠ .released ∧ event ≠ .denied := by
    intro h
    rcases armed_snoc.mp h with h | ⟨h, hno⟩
    · exact absurd h hev
    · refine ⟨hk.armed h, ?_, ?_⟩
      · rintro rfl
        exact hno (Or.inr (Or.inl rfl))
      · rintro rfl
        exact hno (Or.inr (Or.inr rfl))
  cases hmv with
  | quiet hq _ hback =>
      have hn := neutral_map_out hq
      refine ⟨(separated_append fun z hz => (hn z hz).1).mpr hsep, fun h => ?_⟩
      obtain ⟨hst, hrel, hden⟩ := harm ((armed_append hn).mp h)
      by_contra hno
      push Not at hno
      have hst' : m'.state = .released ∨ m'.state = .releasing := by
        cases hs : m'.state <;> simp [hs] at hno ⊢
      rcases hback hst' with hm | hm | hm
      · rcases hst with hst | hst <;> simp [hst] at hm
      · exact hrel hm
      · exact hden hm
  | asks pre hout hq hst' hst =>
      have hn := neutral_map_out hq
      rw [hout, List.map_append, List.map_singleton, ← List.append_assoc]
      refine ⟨separated_snoc.mpr ⟨?_, fun _ h => ?_⟩, fun _ => Or.inl hst'⟩
      · exact (separated_append fun z hz => (hn z hz).1).mpr hsep
      · rcases (harm ((armed_append hn).mp h)).1 with hs | hs <;> simp [hs] at hst
  | gives pre hout hq hst' =>
      have hn := neutral_map_out hq
      rw [hout, List.map_append, List.map_singleton, ← List.append_assoc]
      refine ⟨separated_snoc.mpr ⟨?_, fun h => ?_⟩, fun h => ?_⟩
      · exact (separated_append fun z hz => (hn z hz).1).mpr hsep
      · obtain ⟨type, heq⟩ := h
        cases heq
      · rcases armed_snoc.mp h with ⟨type, heq⟩ | ⟨-, hno⟩
        · cases heq
        · exact absurd (Or.inl ⟨_, rfl⟩) hno

end AgpsStateMachine

end Gps.Agps
