import Mathlib
import OcnDevice.Core.Separated
import OcnDevice.Gps.Agps.Manager

/-!
# What the DS machine waits for

In PENDING the DS machine waits for the answer to a data call it started.  Out of RELEASED it
goes to PENDING only when the start function reports success; out of RELEASING, when subscribers
came while the old call was being closed, it goes to PENDING first and ignores what the start
function returns.  After a start that fails there it waits for nothing: a retry that is processed
in PENDING only finds its subscriber in the list.

`ds_never_waits_iff` says that this is the only way: as long as every such start succeeds, a call
is outstanding whenever the machine is in PENDING, and the first that does not succeed leaves it
there without a call and without a retry that would start one.
-/

namespace Gps.Agps

open AgpsManager

variable {c : Conf} {s t : AgpsManager} {h : ℤ}

namespace AgpsStateMachine

variable {k : Kind} {r : Reply} {o : Out} {event : AgpsEvent}

/-- A start that succeeds: the function is registered and returns success. -/
def StartSucceeds (c : Conf) (r : Reply) : Prop := c.startFn = true ∧ r.startRet = 0

instance (c : Conf) (r : Reply) : Decidable (StartSucceeds c r) :=
  inferInstanceAs (Decidable (_ ∧ _))

/-- The event ends the release of the old call and finds subscribers that wait for a new one. -/
def Restarts (m : AgpsStateMachine k) (event : AgpsEvent) : Prop :=
  (event = .released ∨ event = .denied) ∧ m.state = .releasing ∧
    ∃ x ∈ m.subscribers, x.isInactive = false

instance (m : AgpsStateMachine k) (event : AgpsEvent) : Decidable (m.Restarts event) :=
  inferInstanceAs (Decidable (_ ∧ _ ∧ _))

/-- A notification neither starts nor stops a call. -/
lemma notice_ne {m : AgpsStateMachine k} (ho : o ∈ m.notice event h) :
    o ≠ .dsStop ∧ ∀ ret, o ≠ .dsStart ret := by
  cases k <;> cases event <;> simp [notice] at ho <;> rcases ho with rfl | rfl <;> simp

/-- The base machine never calls the DS client. -/
lemma base_ne {m : AgpsStateMachine .base} (ho : o ∈ (m.processAgpsEvent c r event).2) :
    o ≠ .dsStop ∧ ∀ ret, o ≠ .dsStart ret := by
  cases calls ho with
  | joined s _ ho => exact notice_ne ho
  | left s _ ho => simp [ho]
  | granted x _ _ _ ho => exact notice_ne ho
  | gone x _ ho => exact notice_ne ho
  | refused x _ _ ho => exact notice_ne ho
  | request m₁ _ _ _ ho =>
      have heq : o = .frameworkStatus m₁.agpsType true := List.mem_singleton.mp ho
      simp [heq]
  | release m₁ _ ho =>
      have heq : o = .frameworkStatus m₁.agpsType false := List.mem_singleton.mp ho
      simp [heq]

/-- What a start returns and calls. -/
lemma startDataCall_spec {m : AgpsStateMachine .ds} {x : AgpsSubscriber} :
    ((m.startDataCall r x).2.1 = 0 ↔ r.startRet = 0) ∧
      (r.startRet = 0 → (m.startDataCall r x).2.2 = [.dsStart 0]) ∧
      ∀ ret, .dsStart ret ∈ (m.startDataCall r x).2.2 → ret = r.startRet := by
  simp only [startDataCall]
  split
  · rename_i hbusy
    simp only [hbusy, errEngineBusy]
    split
    · simp [notice]
    · split <;> simp
  · split
    · rename_i hun
      simp [hun, errUnsupported, notice]
    · simp

/-- **A request of the DS machine**: it starts a call when there is an active subscriber and the
function is registered. -/
lemma requestDataConn_spec {m : AgpsStateMachine .ds} :
    ((m.requestOrReleaseDataConn c r true).2.1 = 0 →
        (m.requestOrReleaseDataConn c r true).2.2 = [.dsStart 0]) ∧
      ((∃ x ∈ m.subscribers, x.isInactive = false) → StartSucceeds c r →
        (m.requestOrReleaseDataConn c r true).2.2 = [.dsStart 0]) ∧
      (¬StartSucceeds c r → .dsStart 0 ∉ (m.requestOrReleaseDataConn c r true).2.2) := by
  simp only [requestOrReleaseDataConn, Bool.not_true, Bool.false_and, Bool.false_eq_true, if_false]
  cases hx : m.getFirstSubscriber false with
  | none =>
      simp only [getFirstSubscriber, List.find?_eq_none] at hx
      refine ⟨by simp, ?_, by simp⟩
      rintro ⟨x, hmem, hact⟩
      exact absurd (by simp [hact]) (hx x hmem)
  | some x =>
      obtain ⟨hret, houts, hall⟩ := startDataCall_spec (r := r) (m := m) (x := x)
      cases hstart : c.startFn with
      | false => simp [notice, StartSucceeds, hstart]
      | true =>
          simp only [if_true, StartSucceeds, hstart, true_and]
          refine ⟨fun h => houts (hret.mp h), fun _ h => houts h, ?_⟩
          intro hne hmem
          exact hne (hall 0 hmem).symm

/-- What the end of a release does when subscribers wait for a new connection. -/
lemma finishRelease_spec {m : AgpsStateMachine k} (hact : ∃ x ∈ m.subscribers, x.isInactive = false) :
    (m.finishRelease c r).1.state = .pending ∧
      ∃ (m₁ : AgpsStateMachine k) (pre : List Out),
        (m.finishRelease c r).2 = pre ++ (m₁.requestOrReleaseDataConn c r true).2.2 ∧
        (∃ x ∈ m₁.subscribers, x.isInactive = false) ∧
        ∀ o ∈ pre, o ≠ .dsStop ∧ ∀ ret, o ≠ .dsStart ret := by
  obtain ⟨x, hx, hxa⟩ := hact
  have hmem : x ∈ (m.notifyAllSubscribers .released true .forInactiveSubscribers).1.subscribers := by
    simp [AgpsNotificationType.covers, hx, hxa]
  have hany : (m.notifyAllSubscribers .released true
      .forInactiveSubscribers).1.anyActiveSubscribers = true :=
    anyActiveSubscribers_iff.mpr ⟨x, hmem, hxa⟩
  simp only [finishRelease]
  rw [if_pos hany]
  refine ⟨by simp, (m.notifyAllSubscribers .released true
    .forInactiveSubscribers).1.transitionState .pending, _, rfl, ⟨x, hmem, hxa⟩, ?_⟩
  intro o ho
  obtain ⟨y, -, -, ho⟩ := mem_notifyAll ho
  exact notice_ne ho

lemma finishRelease_state {m : AgpsStateMachine k}
    (hact : ¬∃ x ∈ m.subscribers, x.isInactive = false) :
    (m.finishRelease c r).1.state = .released := by
  simp only [finishRelease]
  split
  · rename_i hany
    obtain ⟨x, hx, hxa⟩ := anyActiveSubscribers_iff.mp hany
    exact absurd ⟨x, (List.mem_filter.mp hx).1, hxa⟩ hact
  · rfl

/-- The end of a release of the DS machine. -/
lemma restarts_spec {m : AgpsStateMachine k} (hre : m.Restarts event) :
    (m.processAgpsEvent c r event).1.state = .pending ∧
      ∃ (m₁ : AgpsStateMachine k) (pre : List Out),
        (m.processAgpsEvent c r event).2 = pre ++ (m₁.requestOrReleaseDataConn c r true).2.2 ∧
        (∃ x ∈ m₁.subscribers, x.isInactive = false) ∧
        ∀ o ∈ pre, o ≠ .dsStop ∧ ∀ ret, o ≠ .dsStart ret := by
  obtain ⟨hev, hst, hact⟩ := hre
  have htr : m.translate event = event := by simp [translate, hst]
  have hfin : m.processAgpsEvent c r event = m.finishRelease c r := by
    rcases hev with rfl | rfl <;>
      simp only [processAgpsEvent, htr, processAgpsEventReleased, processAgpsEventDenied, hst]
  rw [hfin]
  exact finishRelease_spec hact

/-- **How the DS machine comes to be in PENDING**: it was, and the event neither ended nor started
a call; or a start out of RELEASED succeeded; or the release of the old call ended. -/
lemma pending_after {m : AgpsStateMachine .ds}
    (hp : (m.processAgpsEvent c r event).1.state = .pending) :
    (event ≠ .released ∧ event ≠ .denied ∧ m.state = .pending ∧
        ∀ o ∈ (m.processAgpsEvent c r event).2, o ≠ .dsStop) ∨
      (event.isSubscribe = true ∧ (m.processAgpsEvent c r event).2 = [.dsStart 0]) ∨
      m.Restarts event := by
  simp only [processAgpsEvent] at hp ⊢
  cases htr : m.translate event with
  | subscribe s =>
      have hev := translate_eq_subscribe.mp htr
      subst hev
      simp only [htr, processAgpsEventSubscribe] at hp ⊢
      cases hst : m.state with
      | released =>
          simp only [hst] at hp ⊢
          right; left
          refine ⟨rfl, requestDataConn_spec.1 ?_⟩
          by_contra hne
          simp [hne, hst] at hp
      | pending => exact Or.inl ⟨by simp, by simp, rfl, by simp⟩
      | acquired => simp [hst, notifyEventToSubscriber] at hp
      | releasing => simp [hst] at hp
  | unsubscribe s =>
      have hev := translate_eq_unsubscribe.mp htr
      subst hev
      simp only [htr, processAgpsEventUnsubscribe] at hp ⊢
      cases hst : m.state with
      | released => simp [hst, notifyEventToSubscriber] at hp
      | pending =>
          left
          refine ⟨by simp, by simp, rfl, ?_⟩
          simp only [hst] at hp ⊢
          split at hp
          · simp at hp
          · split at hp
            · simp at hp
            · rename_i hemp hact
              rw [if_neg hemp, if_neg hact]
              intro o ho
              simp [mem_retire_out ho]
      | acquired =>
          simp only [hst] at hp
          split at hp
          · simp at hp
          · split at hp
            · simp at hp
            · simp [hst] at hp
      | releasing =>
          simp only [hst] at hp
          split at hp
          · simp at hp
          · simp [hst] at hp
  | granted =>
      simp only [htr, processAgpsEventGranted] at hp
      cases hst : m.state <;> simp [hst] at hp
  | released =>
      have hev : event = .released := by
        simp only [translate] at htr
        split at htr
        · cases htr
        · exact htr
      simp only [htr, processAgpsEventReleased] at hp
      cases hst : m.state with
      | released => simp [hst] at hp
      | pending =>
          exfalso
          simp [translate, hev, hst] at htr
      | acquired => simp [hst] at hp
      | releasing =>
          simp only [hst] at hp
          refine Or.inr (Or.inr ⟨Or.inl hev, hst, ?_⟩)
          by_contra hact
          simp [finishRelease_state hact] at hp
  | denied =>
      simp only [htr, processAgpsEventDenied] at hp
      cases hst : m.state with
      | released | acquired => simp [hst] at hp
      | pending => simp [hst] at hp
      | releasing =>
          simp only [hst] at hp
          have hev : event = .denied := by simpa [translate, hst] using htr
          refine Or.inr (Or.inr ⟨Or.inr hev, hst, ?_⟩)
          by_contra hact
          simp [finishRelease_state hact] at hp

end AgpsStateMachine

/-! ## The call that is outstanding -/

/-- What a run is seen to do: the inputs it is given and the callbacks it makes. -/
inductive DsMark
  | input (i : Input)
  | out (o : Out)
  deriving DecidableEq

/-- The marks of a run in their order. -/
def dsMarks (as : List Action) : List DsMark :=
  as.flatMap fun a => .input a.input :: a.outs.map .out

/-- A data call that was started with success. -/
def DsMark.Starts (x : DsMark) : Prop := x = .out (.dsStart 0)

/-- The data call is stopped, or it is reported to the DS machine as closed or failed. -/
def DsMark.Ends (c : Conf) : DsMark → Prop
  | .out o => o = .dsStop
  | .input .reportDataCallClosed => True
  | .input (.reportAtlClosed type) => place c type = .ds
  | .input (.reportAtlOpenFailed type) => place c type = .ds
  | _ => False

/-- A successfully started data call is outstanding. -/
def Outstanding (c : Conf) (as : List Action) : Prop :=
  Armed DsMark.Starts (DsMark.Ends c) (dsMarks as)

/-- A retry exists, as a request in the queue or as a timer that will post one, and its processing
starts a data call. -/
def Retries (c : Conf) (s : AgpsManager) : Prop :=
  ∃ h, ((h, .suplEs) ∈ s.queue ∨ 0 < s.timers ∧ .sendMsg h .suplEs ∈ s.delayCallback) ∧
    ∃ r ret, .dsStart ret ∈ (s.requestATL c r h .suplEs).2

/-- In PENDING the DS machine waits for a call or for a retry. -/
def DsWaits (c : Conf) (as : List Action) (s : AgpsManager) : Prop :=
  ∀ m : AgpsStateMachine .ds, s.nif .ds = some m → m.state = .pending →
    Outstanding c as ∨ Retries c s

/-- A step that is not a modem restart. -/
def DsStep (c : Conf) (s : AgpsManager) (a : Action) (t : AgpsManager) : Prop :=
  Step c s a t ∧ a.input ≠ .handleModemSSR

/-- **The condition**: when the old call of the DS machine is closed and subscribers wait for a
new one, the start of that one succeeds. -/
def RestartSucceeds (c : Conf) (s : AgpsManager) (i : Input) (r : Reply) : Prop :=
  ∀ p ∈ dsTakes c r s i, p.1.Restarts p.2 → AgpsStateMachine.StartSucceeds c r

instance (c : Conf) (s : AgpsManager) (i : Input) (r : Reply) :
    Decidable (RestartSucceeds c s i r) :=
  inferInstanceAs (Decidable (∀ p ∈ dsTakes c r s i, _ → _))

/-- A step that meets the condition. -/
def RestartStep (c : Conf) (s : AgpsManager) (a : Action) (t : AgpsManager) : Prop :=
  DsStep c s a t ∧ RestartSucceeds c s a.input a.reply

lemma dsMarks_snoc (as : List Action) (a : Action) :
    dsMarks (as ++ [a]) = dsMarks as ++ (.input a.input :: a.outs.map .out) := by
  simp [dsMarks]

lemma ends_input {i : Input} (hi : (DsMark.input i).Ends c) :
    ∃ event, (event = .released ∨ event = .denied) ∧ s.sent c i = some (.ds, event) := by
  cases i with
  | reportDataCallClosed => exact ⟨.released, Or.inl rfl, rfl⟩
  | reportAtlClosed type => exact ⟨.released, Or.inl rfl, by rw [sent, show place c type = .ds from hi]⟩
  | reportAtlOpenFailed type =>
      exact ⟨.denied, Or.inr rfl, by rw [sent, show place c type = .ds from hi]⟩
  | _ => exact absurd hi id

lemma input_ends {i : Input} {event : AgpsEvent} (hev : event = .released ∨ event = .denied)
    (hs : s.sent c i = some (.ds, event)) : (DsMark.input i).Ends c := by
  cases i with
  | reportDataCallClosed => trivial
  | reportAtlClosed type => exact congrArg Prod.fst (Option.some.inj hs)
  | reportAtlOpenFailed type => exact congrArg Prod.fst (Option.some.inj hs)
  | _ => rcases hev with rfl | rfl <;> simp [sent] at hs

/-- Where neither the input nor a callback ends the call, it stays outstanding. -/
lemma Outstanding.snoc {as : List Action} {a : Action} (ho : Outstanding c as)
    (hin : ¬(DsMark.input a.input).Ends c) (houts : ∀ o ∈ a.outs, o ≠ .dsStop) :
    Outstanding c (as ++ [a]) := by
  rw [Outstanding, dsMarks_snoc]
  refine armed_append_of_armed ?_ ho
  intro z hz
  rcases List.mem_cons.mp hz with rfl | hz
  · exact hin
  · obtain ⟨o, ho, rfl⟩ := List.mem_map.mp hz
    exact houts o ho

/-- A step whose last callback is a start that succeeds leaves a call outstanding. -/
lemma outstanding_of_start {as : List Action} {a : Action} {pre : List Out}
    (houts : a.outs = pre ++ [Out.dsStart 0]) : Outstanding c (as ++ [a]) := by
  rw [Outstanding, dsMarks_snoc, houts, List.map_append, List.map_singleton, ← List.cons_append,
    ← List.append_assoc, armed_snoc]
  exact Or.inl rfl

/-- In PENDING no retry starts a call: its subscription only looks for the subscriber. -/
lemma not_retries {m : AgpsStateMachine .ds} (hm : s.nif .ds = some m) (hp : m.state = .pending) :
    ¬Retries c s := by
  rintro ⟨h, -, r, ret, ho⟩
  have hget : s.getAgpsStateMachine c r .suplEs = (s, []) := by
    rw [getAgpsStateMachine, if_neg]
    rintro ⟨-, -, hnone⟩
    rw [hm] at hnone
    cases hnone
  simp only [requestATL, hget, List.nil_append] at ho
  cases hd : s.deliver c r (place c .suplEs) (.subscribe ⟨h, true, false⟩) with
  | none => simp [hd] at ho
  | some p =>
      simp only [decide_true, hd] at ho
      obtain ⟨m', hm', rfl⟩ := deliver_some hd
      clear hd
      generalize place c .suplEs = n at m' hm' ho
      cases n with
      | agnss => exact (AgpsStateMachine.base_ne ho).2 ret rfl
      | internet => exact (AgpsStateMachine.base_ne ho).2 ret rfl
      | ds =>
          rw [hm] at hm'
          cases hm'
          simp only [AgpsStateMachine.processAgpsEvent,
            AgpsStateMachine.processAgpsEventSubscribe, hp] at ho
          exact absurd ho List.not_mem_nil

/-! ## Runs -/

/-- In PENDING a call is outstanding. -/
def CallOut (c : Conf) (as : List Action) (s : AgpsManager) : Prop :=
  ∀ m : AgpsStateMachine .ds, s.nif .ds = some m → m.state = .pending → Outstanding c as

/-- Where the DS machine is left alone, its call stays outstanding. -/
lemma CallOut.of_sprouts {as : List Action} {a : Action} (hs : CallOut c as s)
    (hspr : s.Sprouts t .ds) (hin : s.nif .ds ≠ none → ¬(DsMark.input a.input).Ends c)
    (houts : ∀ o ∈ a.outs, o ≠ .dsStop) : CallOut c (as ++ [a]) t := by
  intro m hm hp
  rcases hspr with hsame | ⟨-, hnew⟩
  · rw [hsame] at hm
    exact (hs m hm hp).snoc (hin (by rw [hm]; exact Option.some_ne_none m)) houts
  · rw [hnew] at hm
    cases hm
    cases hp

lemma idle_ne_dsStop {i : Input} {o : Out} (hid : s.Idle o i) : o ≠ .dsStop := by
  rintro rfl
  cases i with
  | requestATL h type => rcases hid with hid | hid <;> cases hid
  | postedRequest => rcases hid with hid | ⟨h, type, rest, -, hid⟩ <;> cases hid
  | retryTimer =>
      obtain ⟨x, -, -, hid⟩ := hid
      cases hid
  | _ => cases hid

/-- A machine whose call is to be restarted was there before the step, which takes it as it is. -/
lemma dsTakes_of_restarts {i : Input} {r : Reply} {event : AgpsEvent} {m₀ m : AgpsStateMachine .ds}
    (hsent : s.sent c i = some (.ds, event))
    (hm₀ : s.nif .ds = some m₀ ∨ s.nif .ds = none ∧ m₀ = .new .ds .suplEs)
    (hm : m = m₀ ∨ event = .granted ∧ ∃ apn bearer, m = { m₀ with apn := apn, bearer := bearer })
    (hre : m.Restarts event) : (m, event) ∈ dsTakes c r s i := by
  rcases hm with rfl | ⟨rfl, -⟩
  · rcases hm₀ with hm₀ | ⟨-, rfl⟩
    · simp only [dsTakes, hsent, hm₀]
      rfl
    · cases hre.2.1
  · rcases hre.1 with hev | hev <;> cases hev

/-- **One step**: where restarts succeed, a call is outstanding in PENDING. -/
lemma CallOut.step {as : List Action} {a : Action} (hs : CallOut c as s)
    (hst : RestartStep c s a t) : CallOut c (as ++ [a]) t := by
  obtain ⟨⟨hstep, hssr⟩, hre⟩ := hst
  cases hstep.effect.1 with
  | event n event m₀ m pre hsent hm₀ hcr hm htn ht houts hpre =>
      cases n with
      | ds =>
          intro m' hm' hp
          rw [htn] at hm'
          cases hm'
          have hstop : ∀ o ∈ pre, o ≠ .dsStop := fun o ho => by simp [hpre o ho]
          rcases AgpsStateMachine.pending_after hp with ⟨hnr, hnd, hmp, hno⟩ | ⟨-, hcall⟩ | hrest
          · have hm₀' : s.nif .ds = some m₀ ∧ AgpsStateMachine.state m₀ = .pending := by
              have hst₀ : AgpsStateMachine.state m₀ = .pending := by
                rcases hm with rfl | ⟨-, apn, bearer, rfl⟩
                · exact hmp
                · exact hmp
              rcases hm₀ with hm₀ | ⟨-, rfl⟩
              · exact ⟨hm₀, hst₀⟩
              · cases hst₀
            refine (hs m₀ hm₀'.1 hm₀'.2).snoc ?_ ?_
            · intro hend
              obtain ⟨ev, hev, hsent'⟩ := ends_input hend
              rw [hsent] at hsent'
              cases hsent'
              exact hev.elim hnr hnd
            · intro o ho
              rw [houts] at ho
              exact (List.mem_append.mp ho).elim (hstop o) (hno o)
          · exact outstanding_of_start (houts.trans (congrArg (pre ++ ·) hcall))
          · have htake := dsTakes_of_restarts (r := a.reply) hsent hm₀ hm hrest
            obtain ⟨-, m₁, pre', hout', hact, -⟩ :=
              AgpsStateMachine.restarts_spec (c := c) (r := a.reply) hrest
            have hcall := AgpsStateMachine.requestDataConn_spec.2.1 hact (hre _ htake hrest)
            rw [hcall] at hout'
            refine outstanding_of_start (?_ : a.outs = (pre ++ pre') ++ [Out.dsStart 0])
            rw [List.append_assoc]
            exact houts.trans (congrArg (pre ++ ·) hout')
      | agnss | internet =>
          refine hs.of_sprouts (ht .ds (by simp)) ?_ ?_
          · rintro - hend
            obtain ⟨ev, -, hev⟩ := ends_input hend
            rw [hsent] at hev
            cases hev
          · intro o ho
            rw [houts] at ho
            rcases List.mem_append.mp ho with ho | ho
            · simp [hpre o ho]
            · exact (AgpsStateMachine.base_ne ho).1
  | idle hspr hidle hnone =>
      refine hs.of_sprouts (hspr .ds) ?_ fun o ho => idle_ne_dsStop (hidle o ho)
      intro hne hend
      obtain ⟨ev, -, hev⟩ := ends_input hend
      exact hne (hnone .ds ev hev)
  | restart hin _ _ => exact absurd hin hssr

/-- **A restart that does not succeed** leaves the machine in PENDING with no call. -/
lemma not_dsWaits {as : List Action} {a : Action} (hstep : DsStep c s a t)
    (hre : ¬RestartSucceeds c s a.input a.reply) : ¬DsWaits c (as ++ [a]) t := by
  simp only [RestartSucceeds] at hre
  push Not at hre
  obtain ⟨⟨m', event'⟩, htake, hrest, hfail⟩ := hre
  simp only [dsTakes] at htake
  split at htake
  · rename_i event hsent
    have hm' : s.nif .ds = some m' ∧ event = event' := by
      split at htake
      · rename_i m hm
        cases htake
        exact ⟨hm, rfl⟩
      · split at htake
        · cases htake
          cases hrest.2.1
        · cases htake
    obtain ⟨hm', rfl⟩ := hm'
    cases hstep.1.effect.1 with
    | idle _ _ hnone =>
        rw [hnone .ds event hsent] at hm'
        cases hm'
    | restart hin _ _ => exact absurd hin hstep.2
    | event n event₁ m₀ m pre hsent₁ hm₀ hcr hm htn ht houts hpre =>
        rw [hsent] at hsent₁
        cases hsent₁
        have hmm : m = m' := by
          rcases hm with rfl | ⟨rfl, -⟩
          · rcases hm₀ with hm₀ | ⟨hnone, -⟩
            · exact Option.some.inj (hm₀.symm.trans hm')
            · rw [hnone] at hm'
              cases hm'
          · rcases hrest.1 with hev | hev <;> cases hev
        subst hmm
        obtain ⟨hp, m₁, pre', hout', hact, hpre'⟩ :=
          AgpsStateMachine.restarts_spec (c := c) (r := a.reply) hrest
        intro hw
        rcases hw _ htn hp with harm | hretry
        · rw [Outstanding, dsMarks_snoc] at harm
          refine not_armed_append ?_ ⟨_, List.mem_cons_self, input_ends hrest.1 hsent⟩ harm
          intro z hz hstart
          subst hstart
          rcases List.mem_cons.mp hz with hz | hz
          · cases hz
          · obtain ⟨o, ho, heq⟩ := List.mem_map.mp hz
            cases heq
            rw [houts.trans (congrArg (pre ++ ·) hout')] at ho
            rcases List.mem_append.mp ho with ho | ho
            · cases hpre _ ho
            · rcases List.mem_append.mp ho with ho | ho
              · exact (hpre' _ ho).2 0 rfl
              · exact AgpsStateMachine.requestDataConn_spec.2.2 hfail ho
        · exact not_retries htn hp hretry
  · cases htake

/-- **The DS machine never waits for nothing** as long as every restart succeeds, and the first
that does not makes it do so: in a run in which all restarts before succeeded, a call or a retry
is there for the machine after the next step exactly when that step meets the condition. -/
theorem ds_never_waits_iff {as : List Action} {a : Action}
    (hr : Run (RestartStep c) init as s) (hst : DsStep c s a t) :
    (∀ m : AgpsStateMachine .ds, t.nif .ds = some m → m.state = .pending →
      Outstanding c (as ++ [a]) ∨ Retries c t) ↔ RestartSucceeds c s a.input a.reply := by
  have hcall : CallOut c as s := by
    refine hr.history (P := CallOut c) (fun as s a t hs hst => hs.step hst) ?_
    intro m hm
    cases hm
  constructor
  · intro hw
    by_contra hre
    exact not_dsWaits hst hre hw
  · intro hre m hm hp
    exact Or.inl (hcall.step ⟨hst, hre⟩ m hm hp)

/-- The next state where the step is no modem restart and a restart of the call succeeds. -/
def nextRestart (c : Conf) (s : AgpsManager) (p : Input × Reply) :
    Option (AgpsManager × Action) :=
  if p.1 ≠ .handleModemSSR ∧ RestartSucceeds c s p.1 p.2 then next c s p else none

lemma restartStep_of_next {p : Input × Reply} {q : AgpsManager × Action}
    (h : nextRestart c s p = some q) : RestartStep c s q.2 q.1 := by
  simp only [nextRestart] at h
  split at h
  · rename_i hf
    have hst := step_of_next h
    obtain ⟨q', -, rfl⟩ := Option.map_eq_some_iff.mp h
    exact ⟨⟨hst, hf.1⟩, hf.2⟩
  · cases h

/-- An emergency connection that is released while another request comes: the DS machine is in
RELEASING with a subscriber that waits for a new call. -/
def toReleasing : List (Input × Reply) :=
  [(.createAgpsStateMachines, okReply), (.requestATL 1 .suplEs, okReply),
    (.reportDataCallOpened, okReply), (.releaseATL 1, okReply), (.requestATL 2 .suplEs, okReply)]

/-- **The DS machine waits for nothing**: the old call is closed, the DS client is busy when the
new one is to be started, and the machine is in PENDING with a retry timer that cannot help. -/
theorem ds_waits_for_nothing :
    ¬∀ (c : Conf) (as : List Action) (s : AgpsManager), Run (DsStep c) init as s →
      ∀ m : AgpsStateMachine .ds, s.nif .ds = some m → m.state = .pending →
        Outstanding c as ∨ Retries c s := by
  intro hall
  have hrun : ((execBy (nextRestart emergencyConf) init toReleasing).bind fun p =>
      (next emergencyConf p.1 (.reportDataCallClosed, busyReply)).map fun q =>
        decide (¬RestartSucceeds emergencyConf p.1 q.2.input q.2.reply ∧
          q.2.input ≠ .handleModemSSR)) = some true := by
    decide +kernel
  obtain ⟨p, hp, hrest⟩ := Option.bind_eq_some_iff.mp hrun
  obtain ⟨q, hq, hdec⟩ := Option.map_eq_some_iff.mp hrest
  obtain ⟨hre, hssr⟩ := of_decide_eq_true hdec
  have hr : Run (RestartStep emergencyConf) init p.2 p.1 :=
    Run.of_execBy (fun _ _ _ h => restartStep_of_next h) hp
  have hst : DsStep emergencyConf p.1 q.2 q.1 := ⟨step_of_next hq, hssr⟩
  have hruns : Run (DsStep emergencyConf) init (p.2 ++ [q.2]) q.1 :=
    .snoc (hr.mono fun _ _ _ h => h.1) hst
  exact not_dsWaits hst hre (hall emergencyConf _ _ hruns)

/-- The old call is closed and the new one is started with success. -/
theorem ds_never_waits_iff_restarted :
    ∃ p q, execBy (nextRestart emergencyConf) init toReleasing = some p ∧
      next emergencyConf p.1 (.reportDataCallClosed, okReply) = some q ∧
      ∀ m : AgpsStateMachine .ds, q.1.nif .ds = some m → m.state = .pending →
        Outstanding emergencyConf (p.2 ++ [q.2]) ∨ Retries emergencyConf q.1 := by
  have hrun : ((execBy (nextRestart emergencyConf) init toReleasing).bind fun p =>
      (next emergencyConf p.1 (.reportDataCallClosed, okReply)).map fun q =>
        decide (RestartSucceeds emergencyConf p.1 q.2.input q.2.reply ∧
          q.2.input ≠ .handleModemSSR)) = some true := by
    decide +kernel
  obtain ⟨p, hp, hrest⟩ := Option.bind_eq_some_iff.mp hrun
  obtain ⟨q, hq, hdec⟩ := Option.map_eq_some_iff.mp hrest
  obtain ⟨hre, hssr⟩ := of_decide_eq_true hdec
  have hr : Run (RestartStep emergencyConf) init p.2 p.1 :=
    Run.of_execBy (fun _ _ _ h => restartStep_of_next h) hp
  exact ⟨p, q, hp, hq, (ds_never_waits_iff hr ⟨step_of_next hq, hssr⟩).mpr hre⟩

end Gps.Agps
