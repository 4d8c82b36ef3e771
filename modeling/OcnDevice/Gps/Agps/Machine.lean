import Mathlib
import OcnDevice.Gps.Agps.Model

/-!
# One AGPS state machine

**The list.**  Each event changes the subscriber list in a way that depends on the state and on
the event alone, never on what the callbacks return: `subscribersAfter` is that list and
`processAgpsEvent_subscribers` says so.  What follows is about members: who is in the list
afterwards (`mem_subscribersAfter`), who is active in it, and that handles stay distinct.

**The callbacks.**  A status is sent to the modem, and a request is posted, only for certain
handles: `mem_open` and `mem_sendMsg` say for which.
-/

namespace Gps.Agps

namespace AgpsStateMachine

variable {k : Kind} {c : Conf} {r : Reply} {m : AgpsStateMachine k} {s x : AgpsSubscriber} {h : ℤ}

/-! ## The operations on the list -/

/-- The handles in the list, in its order. -/
def handles (m : AgpsStateMachine k) : List ℤ := m.subscribers.map (·.connHandle)

/-- The handle has a subscriber that is not waiting for the close. -/
def Active (m : AgpsStateMachine k) (h : ℤ) : Prop :=
  ∃ x ∈ m.subscribers, x.connHandle = h ∧ x.isInactive = false

lemma Active.mem (ha : m.Active h) : h ∈ m.handles := by
  obtain ⟨x, hx, rfl, -⟩ := ha
  exact List.mem_map_of_mem hx

lemma mem_addSubscriber :
    x ∈ (m.addSubscriber s).subscribers ↔
      x ∈ m.subscribers ∨ x = s ∧ s.connHandle ∉ m.handles := by
  simp only [addSubscriber, handles, List.mem_map, not_exists, not_and]
  split
  · rename_i hany
    obtain ⟨y, hy, heq⟩ := List.any_eq_true.mp hany
    have hne : ¬(∀ z ∈ m.subscribers, z.connHandle ≠ s.connHandle) :=
      fun hall => hall y hy (by simpa using heq)
    simp [hne]
  · rename_i hany
    have hall : ∀ z ∈ m.subscribers, ¬z.connHandle = s.connHandle := by simpa using hany
    simp only [List.mem_append, List.mem_singleton]
    exact ⟨fun hx => hx.imp_right fun hx => ⟨hx, hall⟩, fun hx => hx.imp_right And.left⟩

lemma nodup_addSubscriber (hm : m.handles.Nodup) : (m.addSubscriber s).handles.Nodup := by
  simp only [addSubscriber, handles]
  split
  · exact hm
  · rename_i hany
    have hall : ∀ z ∈ m.subscribers, z.connHandle ≠ s.connHandle := by simpa using hany
    rw [List.map_append, List.nodup_append]
    refine ⟨hm, by simp, ?_⟩
    intro a ha b hb
    obtain ⟨z, hz, rfl⟩ := List.mem_map.mp ha
    simp only [List.map_cons, List.map_nil, List.mem_singleton] at hb
    rw [hb]
    exact hall z hz

@[simp] lemma map_connHandle_setInactive (l : List AgpsSubscriber) :
    (setInactive h l).map (·.connHandle) = l.map (·.connHandle) := by
  induction l with
  | nil => rfl
  | cons y rest ih =>
      simp only [setInactive]
      split <;> simp [ih]

lemma mem_setInactive {l : List AgpsSubscriber} (hx : x ∈ setInactive h l) :
    x ∈ l ∨ ∃ y ∈ l, y.connHandle = h ∧ x = { y with isInactive := true } := by
  induction l with
  | nil => exact absurd hx List.not_mem_nil
  | cons y rest ih =>
      simp only [setInactive] at hx
      split at hx
      · rename_i hy
        rcases List.mem_cons.mp hx with rfl | hx
        · exact Or.inr ⟨y, List.mem_cons_self, hy, rfl⟩
        · exact Or.inl (List.mem_cons_of_mem y hx)
      · rcases List.mem_cons.mp hx with rfl | hx
        · exact Or.inl List.mem_cons_self
        · rcases ih hx with hx | ⟨z, hz, hzh, hxz⟩
          · exact Or.inl (List.mem_cons_of_mem y hx)
          · exact Or.inr ⟨z, List.mem_cons_of_mem y hz, hzh, hxz⟩

/-- With distinct handles the handle has no active subscriber once it was set inactive. -/
lemma inactive_of_mem_setInactive {l : List AgpsSubscriber} (hl : (l.map (·.connHandle)).Nodup)
    (hx : x ∈ setInactive h l) (hxh : x.connHandle = h) : x.isInactive = true := by
  induction l with
  | nil => exact absurd hx List.not_mem_nil
  | cons y rest ih =>
      rw [List.map_cons, List.nodup_cons] at hl
      simp only [setInactive] at hx
      split at hx
      · rename_i hy
        rcases List.mem_cons.mp hx with rfl | hx
        · rfl
        · refine absurd ?_ hl.1
          rw [hy, ← hxh]
          exact List.mem_map_of_mem hx
      · rename_i hy
        rcases List.mem_cons.mp hx with rfl | hx
        · exact absurd hxh hy
        · exact ih hl.2 hx

lemma exists_inactive_setInactive {l : List AgpsSubscriber} (hl : ∃ y ∈ l, y.connHandle = h) :
    ∃ y ∈ setInactive h l, y.isInactive = true := by
  induction l with
  | nil =>
      obtain ⟨y, hy, -⟩ := hl
      exact absurd hy List.not_mem_nil
  | cons y rest ih =>
      simp only [setInactive]
      split
      · exact ⟨_, List.mem_cons_self, rfl⟩
      · rename_i hy
        obtain ⟨z, hz, hzh⟩ := hl
        rcases List.mem_cons.mp hz with rfl | hz
        · exact absurd hzh hy
        · obtain ⟨w, hw, hin⟩ := ih ⟨z, hz, hzh⟩
          exact ⟨w, List.mem_cons_of_mem y hw, hin⟩

lemma getSubscriber_some (hs : m.getSubscriber h = some s) :
    s ∈ m.subscribers ∧ s.connHandle = h :=
  ⟨List.mem_of_find?_eq_some hs, by simpa using List.find?_some hs⟩

lemma getFirstSubscriber_some {b : Bool} (hs : m.getFirstSubscriber b = some s) :
    s ∈ m.subscribers ∧ s.isInactive = b :=
  ⟨List.mem_of_find?_eq_some hs, by simpa using List.find?_some hs⟩

lemma anyActiveSubscribers_iff :
    m.anyActiveSubscribers = true ↔ ∃ x ∈ m.subscribers, x.isInactive = false := by
  simp [anyActiveSubscribers]

lemma mem_retire (hx : x ∈ (m.retire s).1.subscribers) :
    x ∈ m.subscribers ∨ s.waitForCloseComplete = true ∧
      ∃ y ∈ m.subscribers, y.connHandle = s.connHandle ∧ x = { y with isInactive := true } := by
  simp only [retire] at hx
  split at hx
  · rename_i hwait
    exact (mem_setInactive hx).imp_right fun hy => ⟨hwait, hy⟩
  · left
    cases k <;> exact (List.mem_filter.mp hx).1

lemma nodup_retire (hm : m.handles.Nodup) : (m.retire s).1.handles.Nodup := by
  simp only [retire, handles]
  split
  · rw [map_connHandle_setInactive]
    exact hm
  · cases k <;> exact (List.Sublist.map _ List.filter_sublist).nodup hm

lemma not_active_retire (hm : m.handles.Nodup) : ¬(m.retire s).1.Active s.connHandle := by
  rintro ⟨x, hx, hxh, hin⟩
  simp only [retire] at hx
  split at hx
  · rw [inactive_of_mem_setInactive hm hx hxh] at hin
    cases hin
  · have hne : (x.connHandle != s.connHandle) = true := by
      cases k <;> exact (List.mem_filter.mp hx).2
    simp [hxh] at hne

/-! ## What the events do to the list -/

@[simp] lemma noticed_subscribers (event : AgpsEvent) :
    (m.noticed event).subscribers = m.subscribers := by
  cases k <;> cases event <;> rfl

@[simp] lemma noticed_state (event : AgpsEvent) : (m.noticed event).state = m.state := by
  cases k <;> cases event <;> rfl

/-- The list after an event that the machine takes as it is. -/
def subscribersAfter (m : AgpsStateMachine k) : AgpsEvent → List AgpsSubscriber
  | .subscribe s => (m.addSubscriber s).subscribers
  | .unsubscribe s => if m.state = .released then m.subscribers else (m.retire s).1.subscribers
  | .granted => m.subscribers
  | .released =>
      match m.state with
      | .acquired => []
      | .releasing => m.subscribers.filter (!·.isInactive)
      | _ => m.subscribers
  | .denied =>
      match m.state with
      | .pending => []
      | .releasing => m.subscribers.filter (!·.isInactive)
      | _ => m.subscribers

lemma startDataCall_subscribers {m : AgpsStateMachine .ds} :
    (m.startDataCall r s).1.subscribers = m.subscribers := by
  simp only [startDataCall]
  split
  · split
    · simp
    · split <;> rfl
  · split <;> simp

lemma startDataCall_state {m : AgpsStateMachine .ds} :
    (m.startDataCall r s).1.state = m.state := by
  simp only [startDataCall]
  split
  · split
    · simp
    · split <;> rfl
  · split <;> simp

@[simp] lemma requestOrReleaseDataConn_subscribers {b : Bool} :
    (m.requestOrReleaseDataConn c r b).1.subscribers = m.subscribers := by
  cases k with
  | base => rfl
  | ds =>
      simp only [requestOrReleaseDataConn]
      split
      · rfl
      · split
        · rfl
        · split
          · exact startDataCall_subscribers
          · simp

@[simp] lemma requestOrReleaseDataConn_state {b : Bool} :
    (m.requestOrReleaseDataConn c r b).1.state = m.state := by
  cases k with
  | base => rfl
  | ds =>
      simp only [requestOrReleaseDataConn]
      split
      · rfl
      · split
        · rfl
        · split
          · exact startDataCall_state
          · simp

@[simp] lemma notifyAllSubscribers_subscribers {event : AgpsEvent} {b : Bool}
    {type : AgpsNotificationType} :
    (m.notifyAllSubscribers event b type).1.subscribers =
      if b then m.subscribers.filter (!type.covers ·) else m.subscribers := rfl

@[simp] lemma notifyAllSubscribers_state {event : AgpsEvent} {b : Bool}
    {type : AgpsNotificationType} :
    (m.notifyAllSubscribers event b type).1.state = m.state := by
  simp only [notifyAllSubscribers]
  split <;> simp

@[simp] lemma transitionState_subscribers (st : AgpsState) :
    (m.transitionState st).subscribers = m.subscribers := rfl

@[simp] lemma transitionState_state (st : AgpsState) : (m.transitionState st).state = st := rfl

@[simp] lemma retire_state : (m.retire s).1.state = m.state := by
  simp only [retire]
  split
  · rfl
  · cases k <;> rfl

@[simp] lemma retire_agpsType : (m.retire s).1.agpsType = m.agpsType := by
  simp only [retire]
  split
  · rfl
  · cases k <;> rfl

@[simp] lemma noticed_agpsType (event : AgpsEvent) :
    (m.noticed event).agpsType = m.agpsType := by
  cases k <;> cases event <;> rfl

@[simp] lemma addSubscriber_state : (m.addSubscriber s).state = m.state := by
  simp only [addSubscriber]
  split <;> rfl

@[simp] lemma addSubscriber_agpsType : (m.addSubscriber s).agpsType = m.agpsType := by
  simp only [addSubscriber]
  split <;> rfl

@[simp] lemma notifyAllSubscribers_agpsType {event : AgpsEvent} {b : Bool}
    {type : AgpsNotificationType} :
    (m.notifyAllSubscribers event b type).1.agpsType = m.agpsType := by
  simp only [notifyAllSubscribers]
  split <;> simp

lemma finishRelease_subscribers :
    (m.finishRelease c r).1.subscribers = m.subscribers.filter (!·.isInactive) := by
  simp only [finishRelease]
  split <;> simp [AgpsNotificationType.covers]

lemma translate_eq_subscribe {event : AgpsEvent} :
    m.translate event = .subscribe s ↔ event = .subscribe s := by
  simp only [translate]
  split
  · rename_i h
    simp [h.2.1]
  · rfl

lemma translate_eq_unsubscribe {event : AgpsEvent} :
    m.translate event = .unsubscribe s ↔ event = .unsubscribe s := by
  simp only [translate]
  split
  · rename_i h
    simp [h.2.1]
  · rfl

lemma translate_eq_granted {event : AgpsEvent} :
    m.translate event = .granted ↔ event = .granted := by
  simp only [translate]
  split
  · rename_i h
    simp [h.2.1]
  · rfl

/-- **What an event does to the list.** -/
theorem processAgpsEvent_subscribers (event : AgpsEvent) :
    (m.processAgpsEvent c r event).1.subscribers = m.subscribersAfter (m.translate event) := by
  simp only [processAgpsEvent]
  cases m.translate event with
  | subscribe s =>
      simp only [processAgpsEventSubscribe, subscribersAfter]
      cases m.state with
      | released => simp only []; split <;> simp
      | pending => rfl
      | acquired =>
          simp only [notifyEventToSubscriber, addSubscriber]
          cases k <;> rfl
      | releasing => rfl
  | unsubscribe s =>
      simp only [processAgpsEventUnsubscribe, subscribersAfter]
      cases m.state with
      | released => simp [notifyEventToSubscriber]
      | pending | acquired =>
          simp only [reduceCtorEq, if_false]
          split
          · simp
          · split <;> simp
      | releasing =>
          simp only [reduceCtorEq, if_false]
          split <;> simp
  | granted =>
      simp only [processAgpsEventGranted, subscribersAfter]
      cases m.state <;> simp
  | released =>
      simp only [processAgpsEventReleased, subscribersAfter]
      cases m.state with
      | released | pending => rfl
      | acquired => simp [AgpsNotificationType.covers]
      | releasing => exact finishRelease_subscribers
  | denied =>
      simp only [processAgpsEventDenied, subscribersAfter]
      cases m.state with
      | released | acquired => rfl
      | pending => simp [AgpsNotificationType.covers]
      | releasing => exact finishRelease_subscribers

/-- Who is in the list afterwards: those who were, one who subscribed, and one set inactive. -/
lemma mem_subscribersAfter {event : AgpsEvent} (hx : x ∈ m.subscribersAfter event) :
    x ∈ m.subscribers ∨ (event = .subscribe x ∧ x.connHandle ∉ m.handles) ∨
      ∃ s, event = .unsubscribe s ∧ s.waitForCloseComplete = true ∧
        ∃ y ∈ m.subscribers, y.connHandle = s.connHandle ∧ x = { y with isInactive := true } := by
  cases event with
  | subscribe s =>
      rcases mem_addSubscriber.mp hx with hx | ⟨rfl, hnew⟩
      · exact Or.inl hx
      · exact Or.inr (Or.inl ⟨rfl, hnew⟩)
  | unsubscribe s =>
      simp only [subscribersAfter] at hx
      split at hx
      · exact Or.inl hx
      · rcases mem_retire hx with hx | ⟨hwait, hy⟩
        · exact Or.inl hx
        · exact Or.inr (Or.inr ⟨s, rfl, hwait, hy⟩)
  | granted => exact Or.inl hx
  | released =>
      simp only [subscribersAfter] at hx
      split at hx
      · exact absurd hx List.not_mem_nil
      · exact Or.inl (List.mem_filter.mp hx).1
      · exact Or.inl hx
  | denied =>
      simp only [subscribersAfter] at hx
      split at hx
      · exact absurd hx List.not_mem_nil
      · exact Or.inl (List.mem_filter.mp hx).1
      · exact Or.inl hx

lemma nodup_subscribersAfter (hm : m.handles.Nodup) (event : AgpsEvent) :
    ((m.subscribersAfter event).map (·.connHandle)).Nodup := by
  cases event with
  | subscribe s => exact nodup_addSubscriber hm
  | unsubscribe s =>
      simp only [subscribersAfter]
      split
      · exact hm
      · exact nodup_retire hm
  | granted => exact hm
  | released =>
      simp only [subscribersAfter]
      split
      · exact List.nodup_nil
      · exact (List.Sublist.map _ List.filter_sublist).nodup hm
      · exact hm
  | denied =>
      simp only [subscribersAfter]
      split
      · exact List.nodup_nil
      · exact (List.Sublist.map _ List.filter_sublist).nodup hm
      · exact hm

/-- **Handles stay distinct.** -/
theorem nodup_processAgpsEvent (hm : m.handles.Nodup) (event : AgpsEvent) :
    (m.processAgpsEvent c r event).1.handles.Nodup := by
  rw [handles, processAgpsEvent_subscribers]
  exact nodup_subscribersAfter hm _

/-! ## What the events call -/

/-- The start of a data call, if this event tries one, does not bring about a call or a retry: the
start function is missing, it knows no emergency profile, or it is busy once too often. -/
def StartFails (c : Conf) (r : Reply) (m : AgpsStateMachine k) : Prop :=
  c.startFn = false ∨ r.startRet = errUnsupported ∨
    r.startRet = errEngineBusy ∧ maxStartDataCallRetries ≤ m.retries

instance (c : Conf) (r : Reply) (m : AgpsStateMachine k) : Decidable (m.StartFails c r) :=
  inferInstanceAs (Decidable (_ ∨ _ ∨ _ ∧ _))

/-- The event makes the DS machine try to start a data call. -/
def Attempts (m : AgpsStateMachine k) (event : AgpsEvent) : Prop :=
  (event.isSubscribe = true ∧ m.state = .released) ∨
    ((event = .released ∨ event = .denied) ∧ m.state = .releasing ∧
      ∃ x ∈ m.subscribers, x.isInactive = false)

instance (m : AgpsStateMachine k) (event : AgpsEvent) : Decidable (m.Attempts event) :=
  inferInstanceAs (Decidable (_ ∧ _ ∨ _ ∧ _ ∧ _))

/-- The event as the machine takes it refuses the connection it waits for. -/
def Refuses (m : AgpsStateMachine k) (event : AgpsEvent) : Prop :=
  m.translate event = .denied ∧ m.state = .pending

/-- What `requestOrReleaseDataConn` calls. -/
lemma mem_requestOrRelease {b : Bool} {o : Out}
    (ho : o ∈ (m.requestOrReleaseDataConn c r b).2.2) :
    o = .frameworkStatus m.agpsType b ∨ o = .dsStop ∨ o = .dsStart r.startRet ∨ o = .timerStart ∨
      k = .ds ∧ m.StartFails c r ∧
        ∃ x ∈ m.subscribers, x.isInactive = false ∧ o = .sendMsg x.connHandle .supl := by
  cases k with
  | base => exact Or.inl (by simpa [requestOrReleaseDataConn] using ho)
  | ds =>
      simp only [requestOrReleaseDataConn] at ho
      split at ho
      · exact Or.inr (Or.inl (by simpa using ho))
      · split at ho
        · exact absurd ho List.not_mem_nil
        · rename_i x hx
          obtain ⟨hmem, hact⟩ := getFirstSubscriber_some hx
          have falls : m.StartFails c r → o = .sendMsg x.connHandle .supl →
              m.StartFails c r ∧
                ∃ x ∈ m.subscribers, x.isInactive = false ∧ o = .sendMsg x.connHandle .supl :=
            fun hf ho => ⟨hf, x, hmem, hact, ho⟩
          split at ho
          · simp only [startDataCall] at ho
            split at ho
            · rename_i hbusy
              split at ho
              · rename_i hmax
                rcases List.mem_cons.mp ho with ho | ho
                · simp [ho]
                · simp [falls (Or.inr (Or.inr ⟨hbusy, Nat.le_of_lt_succ hmax⟩))
                    (by simpa [notice] using ho)]
              · split at ho <;> simp at ho <;> tauto
            · split at ho
              · rename_i hun
                rcases List.mem_cons.mp ho with ho | ho
                · simp [ho]
                · simp [falls (Or.inr (Or.inl hun)) (by simpa [notice] using ho)]
              · simp at ho
                simp [ho]
          · rename_i hstart
            simp [falls (Or.inl (by simpa using hstart)) (by simpa [notice] using ho)]

/-- Without an active subscriber there is nobody to ask for, and so no request is posted. -/
lemma sendMsg_notMem_requestOrRelease {b : Bool} {type : AGpsExtType}
    (hm : ∀ x ∈ m.subscribers, x.isInactive = true) :
    .sendMsg h type ∉ (m.requestOrReleaseDataConn c r b).2.2 := by
  intro ho
  rcases mem_requestOrRelease ho with ho | ho | ho | ho | ⟨-, -, x, hx, hact, -⟩
  · cases ho
  · cases ho
  · cases ho
  · cases ho
  · rw [hm x hx] at hact
    cases hact

lemma open_notMem_requestOrRelease {b ok : Bool} {apn : Option (List UInt8)} {bearer : ℤ}
    {type : AGpsExtType} :
    .atlOpenStatus h ok apn bearer type ∉ (m.requestOrReleaseDataConn c r b).2.2 := by
  intro ho
  rcases mem_requestOrRelease ho with ho | ho | ho | ho | ⟨-, -, x, -, -, ho⟩ <;> cases ho

lemma open_mem_notice {event : AgpsEvent} {h' : ℤ} {ok : Bool} {apn : Option (List UInt8)}
    {bearer : ℤ} {type : AGpsExtType} (ho : .atlOpenStatus h' ok apn bearer type ∈ m.notice event h) :
    h' = h ∧ (event = .granted ∨ event = .denied) := by
  cases k <;> cases event <;> simp_all [notice]

lemma sendMsg_mem_notice {event : AgpsEvent} {h' : ℤ} {type : AGpsExtType}
    (ho : .sendMsg h' type ∈ m.notice event h) :
    h' = h ∧ type = .supl ∧ k = .ds ∧ event = .denied := by
  cases k <;> cases event <;> simp_all [notice]

lemma mem_notifyAll {event : AgpsEvent} {b : Bool} {type : AgpsNotificationType} {o : Out}
    (ho : o ∈ (m.notifyAllSubscribers event b type).2) :
    ∃ x ∈ m.subscribers, type.covers x = true ∧ o ∈ m.notice event x.connHandle := by
  obtain ⟨x, hx, ho⟩ := List.mem_flatMap.mp ho
  obtain ⟨hx, hcov⟩ := List.mem_filter.mp hx
  exact ⟨x, hx, hcov, ho⟩

lemma mem_retire_out {o : Out} (ho : o ∈ (m.retire s).2) : o = .atlCloseStatus s.connHandle true := by
  simp only [retire] at ho
  split at ho
  · exact absurd ho List.not_mem_nil
  · cases k <;> simpa [notifyEventToSubscriber, notice] using ho

@[simp] lemma transitionState_notice (st : AgpsState) (event : AgpsEvent) :
    (m.transitionState st).notice event h = m.notice event h := by
  cases k <;> cases event <;> rfl

@[simp] lemma noticed_retries {event : AgpsEvent} (hne : event ≠ .denied) :
    (m.noticed event).retries = m.retries := by
  cases k <;> cases event <;> first | rfl | exact absurd rfl hne

lemma notifyAll_released_retries {b : Bool} {type : AgpsNotificationType} :
    (m.notifyAllSubscribers .released b type).1.retries = m.retries := by
  simp only [notifyAllSubscribers]
  split
  · exact noticed_retries (by simp)
  · rfl

lemma addSubscriber_retries : (m.addSubscriber s).retries = m.retries := by
  simp only [addSubscriber]
  split <;> rfl

/-- Where a callback that an event makes comes from. -/
inductive Calls (c : Conf) (r : Reply) (m : AgpsStateMachine k) (event : AgpsEvent) (o : Out) : Prop
  | joined (s : AgpsSubscriber) : event = .subscribe s → o ∈ m.notice .granted s.connHandle →
      Calls c r m event o
  | left (s : AgpsSubscriber) : event = .unsubscribe s → o = .atlCloseStatus s.connHandle true →
      Calls c r m event o
  | granted (x : AgpsSubscriber) : event = .granted → x ∈ m.subscribers → x.isInactive = false →
      o ∈ m.notice .granted x.connHandle → Calls c r m event o
  | gone (x : AgpsSubscriber) : x ∈ m.subscribers → o ∈ m.notice .released x.connHandle →
      Calls c r m event o
  | refused (x : AgpsSubscriber) : m.Refuses event → x ∈ m.subscribers →
      o ∈ m.notice .denied x.connHandle → Calls c r m event o
  | request (m₁ : AgpsStateMachine k) : m.Attempts event →
      m₁.subscribers = m.subscribersAfter (m.translate event) → m₁.retries = m.retries →
      o ∈ (m₁.requestOrReleaseDataConn c r true).2.2 → Calls c r m event o
  | release (m₁ : AgpsStateMachine k) : (∀ x ∈ m₁.subscribers, x.isInactive = true) →
      o ∈ (m₁.requestOrReleaseDataConn c r false).2.2 → Calls c r m event o

lemma Calls.finishRelease {event : AgpsEvent} {o : Out} (hst : m.state = .releasing)
    (hev : event = .released ∨ event = .denied) (ho : o ∈ (m.finishRelease c r).2) :
    Calls c r m event o := by
  have htr : m.translate event = event := by simp [translate, hst]
  simp only [AgpsStateMachine.finishRelease] at ho
  have hnot : o ∈ (m.notifyAllSubscribers .released true .forInactiveSubscribers).2 →
      Calls c r m event o := by
    intro hmem
    obtain ⟨x, hx, -, hmem⟩ := mem_notifyAll hmem
    exact .gone x hx hmem
  split at ho
  · rename_i hact
    obtain ⟨x, hx, hxa⟩ := anyActiveSubscribers_iff.mp hact
    rcases List.mem_append.mp ho with ho | ho
    · exact hnot ho
    · refine .request _ (Or.inr ⟨hev, hst, x, (List.mem_filter.mp hx).1, hxa⟩) ?_ ?_ ho
      · rw [htr]
        rcases hev with rfl | rfl <;> simp [subscribersAfter, hst, AgpsNotificationType.covers]
      · exact notifyAll_released_retries (b := true)
  · exact hnot ho

/-- **Where every callback comes from.** -/
theorem calls {event : AgpsEvent} {o : Out} (ho : o ∈ (m.processAgpsEvent c r event).2) :
    Calls c r m event o := by
  simp only [processAgpsEvent] at ho
  cases htr : m.translate event with
  | subscribe s =>
      simp only [htr, processAgpsEventSubscribe] at ho
      have hev := translate_eq_subscribe.mp htr
      cases hst : m.state with
      | released =>
          simp only [hst] at ho
          refine .request _ (Or.inl ⟨by rw [hev]; rfl, hst⟩) ?_ addSubscriber_retries ho
          rw [htr, subscribersAfter]
      | pending | releasing =>
          simp only [hst] at ho
          exact absurd ho List.not_mem_nil
      | acquired =>
          simp only [hst] at ho
          exact .joined s hev ho
  | unsubscribe s =>
      simp only [htr, processAgpsEventUnsubscribe] at ho
      have hev := translate_eq_unsubscribe.mp htr
      cases hst : m.state with
      | released =>
          simp only [hst] at ho
          refine .left s hev ?_
          cases k <;> simpa [notifyEventToSubscriber, notice] using ho
      | pending | acquired =>
          simp only [hst] at ho
          split at ho
          · rename_i hemp
            rcases List.mem_append.mp ho with ho | ho
            · exact .left s hev (mem_retire_out ho)
            · refine .release _ ?_ ho
              intro x hx
              rw [transitionState_subscribers, List.isEmpty_iff.mp hemp] at hx
              exact absurd hx List.not_mem_nil
          · split at ho
            · rename_i hact
              rcases List.mem_append.mp ho with ho | ho
              · exact .left s hev (mem_retire_out ho)
              · refine .release _ ?_ ho
                simpa [anyActiveSubscribers] using hact
            · exact .left s hev (mem_retire_out ho)
      | releasing =>
          simp only [hst] at ho
          exact .left s hev (mem_retire_out ho)
  | granted =>
      simp only [htr, processAgpsEventGranted] at ho
      have hev := translate_eq_granted.mp htr
      cases hst : m.state with
      | pending =>
          simp only [hst] at ho
          obtain ⟨x, hx, hcov, ho⟩ := mem_notifyAll ho
          exact .granted x hev hx (by simpa [AgpsNotificationType.covers] using hcov)
            (by simpa using ho)
      | released | acquired | releasing =>
          simp only [hst] at ho
          exact absurd ho List.not_mem_nil
  | released =>
      simp only [htr, processAgpsEventReleased] at ho
      have hev : event = .released := by
        simp only [translate] at htr
        split at htr
        · cases htr
        · exact htr
      cases hst : m.state with
      | acquired =>
          simp only [hst] at ho
          obtain ⟨x, hx, -, ho⟩ := mem_notifyAll ho
          exact .gone x hx (by simpa using ho)
      | releasing =>
          simp only [hst] at ho
          exact .finishRelease hst (Or.inl hev) ho
      | released | pending =>
          simp only [hst] at ho
          exact absurd ho List.not_mem_nil
  | denied =>
      simp only [htr, processAgpsEventDenied] at ho
      cases hst : m.state with
      | pending =>
          simp only [hst] at ho
          obtain ⟨x, hx, -, ho⟩ := mem_notifyAll ho
          exact .refused x ⟨htr, hst⟩ hx (by simpa using ho)
      | releasing =>
          simp only [hst] at ho
          have hev : event = .denied := by simpa [translate, hst] using htr
          exact .finishRelease hst (Or.inr hev) ho
      | released | acquired =>
          simp only [hst] at ho
          exact absurd ho List.not_mem_nil

/-- **Who is told that a connection is open or was refused**: one who subscribes, the active ones
when the connection is granted, and everybody in the list when it is refused. -/
theorem mem_open {event : AgpsEvent} {ok : Bool} {apn : Option (List UInt8)} {bearer : ℤ}
    {type : AGpsExtType}
    (ho : .atlOpenStatus h ok apn bearer type ∈ (m.processAgpsEvent c r event).2) :
    (∃ s, event = .subscribe s ∧ s.connHandle = h) ∨ event = .granted ∧ m.Active h ∨
      m.Refuses event ∧ h ∈ m.handles := by
  cases calls ho with
  | joined s hev ho => exact Or.inl ⟨s, hev, (open_mem_notice ho).1.symm⟩
  | left s _ ho => cases ho
  | granted x hev hx hact ho =>
      exact Or.inr (Or.inl ⟨hev, x, hx, (open_mem_notice ho).1.symm, hact⟩)
  | gone x _ ho => rcases (open_mem_notice ho).2 with hev | hev <;> cases hev
  | refused x href hx ho =>
      rw [(open_mem_notice ho).1]
      exact Or.inr (Or.inr ⟨href, List.mem_map_of_mem hx⟩)
  | request m₁ _ _ _ ho => exact absurd ho open_notMem_requestOrRelease
  | release m₁ _ ho => exact absurd ho open_notMem_requestOrRelease

/-- **For whom a request is posted**: by the DS machine alone and for regular SUPL, for everybody
in the list when the call is refused, and for an active subscriber when a start fails. -/
theorem mem_sendMsg {event : AgpsEvent} {type : AGpsExtType}
    (ho : .sendMsg h type ∈ (m.processAgpsEvent c r event).2) :
    (k = .ds ∧ type = .supl) ∧ (m.Refuses event ∧ h ∈ m.handles ∨
      m.Attempts event ∧ m.StartFails c r ∧
        ∃ x ∈ m.subscribersAfter (m.translate event), x.isInactive = false ∧ x.connHandle = h) := by
  cases calls ho with
  | joined s _ ho => exact absurd (sendMsg_mem_notice ho).2.2.2 (by simp)
  | left s _ ho => cases ho
  | granted x _ _ _ ho => exact absurd (sendMsg_mem_notice ho).2.2.2 (by simp)
  | gone x _ ho => exact absurd (sendMsg_mem_notice ho).2.2.2 (by simp)
  | refused x href hx ho =>
      obtain ⟨hh, htype, hk, -⟩ := sendMsg_mem_notice ho
      rw [hh]
      exact ⟨⟨hk, htype⟩, Or.inl ⟨href, List.mem_map_of_mem hx⟩⟩
  | request m₁ hatt hsub hret ho =>
      rcases mem_requestOrRelease ho with ho | ho | ho | ho | ⟨hk, hf, x, hx, hact, ho⟩
      · cases ho
      · cases ho
      · cases ho
      · cases ho
      · cases ho
        rw [hsub] at hx
        exact ⟨⟨hk, rfl⟩, Or.inr ⟨hatt, by rwa [StartFails, hret] at hf, x, hx, hact, rfl⟩⟩
  | release m₁ hin ho => exact absurd ho (sendMsg_notMem_requestOrRelease hin)

/-- The retry asks for an active subscriber. -/
lemma mem_retryCallback {m : AgpsStateMachine .ds} {o : Out} (ho : o ∈ m.retryCallback) :
    ∃ x ∈ m.subscribers, x.isInactive = false ∧ o = .sendMsg x.connHandle .suplEs := by
  simp only [retryCallback] at ho
  split at ho
  · exact absurd ho List.not_mem_nil
  · rename_i x hx
    obtain ⟨hmem, hact⟩ := getFirstSubscriber_some hx
    exact ⟨x, hmem, hact, List.mem_singleton.mp ho⟩

end AgpsStateMachine

end Gps.Agps
