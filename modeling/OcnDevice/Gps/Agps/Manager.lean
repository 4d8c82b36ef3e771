import Mathlib
import OcnDevice.Gps.Agps.Machine

/-!
# What one step of the AGPS manager does

Every input either gives one machine one event (`sent`), or leaves the machines as they are but
for new ones, or is the modem restart.  `Step.effect` says this once, with the callbacks that the
step makes; all that is proved about runs of the manager starts from it.
-/

namespace Gps.Agps

namespace AgpsManager

variable {c : Conf} {r : Reply} {s t : AgpsManager} {n : Nif} {h : ℤ} {o : Out}

/-- The subscribers of the machine in a place; none where there is no machine. -/
def subs (s : AgpsManager) (n : Nif) : List AgpsSubscriber :=
  ((s.nif n).map (·.subscribers)).getD []

/-- The state of the machine in a place; RELEASED where there is no machine. -/
def stateIn (s : AgpsManager) (n : Nif) : AgpsState := ((s.nif n).map (·.state)).getD .released

/-- The place is as it was, or a new machine was put in it. -/
def Sprouts (s t : AgpsManager) (n : Nif) : Prop :=
  t.nif n = s.nif n ∨ s.nif n = none ∧ t.nif n = some (.new n.kind n.agpsType)

lemma Sprouts.refl (s : AgpsManager) (n : Nif) : s.Sprouts s n := Or.inl rfl

lemma Sprouts.subs (hs : s.Sprouts t n) : t.subs n = s.subs n := by
  rcases hs with hs | ⟨hs, ht⟩
  · rw [AgpsManager.subs, hs, AgpsManager.subs]
  · rw [AgpsManager.subs, AgpsManager.subs, hs, ht]
    rfl

lemma Sprouts.trans {u : AgpsManager} (hs : s.Sprouts t n) (ht : t.Sprouts u n) :
    s.Sprouts u n := by
  rcases hs with hs | ⟨hs, hsn⟩
  · rw [Sprouts, ← hs]
    exact ht
  · rcases ht with ht | ⟨ht, -⟩
    · exact Or.inr ⟨hs, ht.trans hsn⟩
    · rw [hsn] at ht
      cases ht

lemma nif_set_self {m : AgpsStateMachine n.kind} : (s.set n m).nif n = some m :=
  Function.update_self ..

lemma nif_set_of_ne {m : AgpsStateMachine n.kind} {n' : Nif} (hn : n' ≠ n) :
    (s.set n m).nif n' = s.nif n' :=
  Function.update_of_ne hn ..

lemma sprouts_ensure (n n' : Nif) : s.Sprouts (s.ensure n) n' := by
  simp only [ensure]
  split
  · rename_i hnone
    by_cases hn : n' = n
    · subst hn
      exact Or.inr ⟨Option.isNone_iff_eq_none.mp hnone, nif_set_self⟩
    · exact Or.inl (nif_set_of_ne hn)
  · exact Or.inl rfl

@[simp] lemma ensure_queue (n : Nif) : (s.ensure n).queue = s.queue := by
  simp only [ensure]
  split <;> rfl

@[simp] lemma ensure_timers (n : Nif) : (s.ensure n).timers = s.timers := by
  simp only [ensure]
  split <;> rfl

/-- **Creating the machines** fills empty places only and calls at most the DS client's
initialisation. -/
lemma createAgpsStateMachines_spec :
    (∀ n, s.Sprouts (s.createAgpsStateMachines c r).1 n) ∧
      (s.createAgpsStateMachines c r).1.queue = s.queue ∧
      (s.createAgpsStateMachines c r).1.timers = s.timers ∧
      ∀ o ∈ (s.createAgpsStateMachines c r).2, o = .dsInit false := by
  have h₁ := fun n => sprouts_ensure (s := s) .internet n
  have h₂ := fun n => (h₁ n).trans (sprouts_ensure .agnss n)
  have h₃ := fun n => (h₂ n).trans (sprouts_ensure .ds n)
  simp only [createAgpsStateMachines]
  split
  · split
    · split
      · exact ⟨h₂, by simp, by simp, by simp⟩
      · split
        · exact ⟨h₂, by simp, by simp, by simp⟩
        · exact ⟨h₃, by simp, by simp, by simp⟩
    · exact ⟨h₂, by simp, by simp, by simp⟩
  · exact ⟨h₁, by simp, by simp, by simp⟩

/-- The DS machine is created: the device can do AGPS, an emergency PDN is configured, and the DS
client was initialised. -/
def Creates (c : Conf) (r : Reply) : Prop :=
  c.agpsCapable = true ∧ c.usePdn = true ∧ c.initFn = true ∧ r.initRet = 0

instance (c : Conf) (r : Reply) : Decidable (Creates c r) :=
  inferInstanceAs (Decidable (_ ∧ _ ∧ _ ∧ _))

lemma ensure_nif_of_ne {n' : Nif} (hn : n' ≠ n) : (s.ensure n).nif n' = s.nif n' := by
  simp only [ensure]
  split
  · exact nif_set_of_ne hn
  · rfl

/-- A DS machine is there only after it was created with success. -/
lemma creates_of_isSome (hs : s.nif .ds = none)
    (ht : (s.createAgpsStateMachines c r).1.nif .ds ≠ none) : Creates c r := by
  have h₁ : (s.ensure .internet).nif .ds = none := (ensure_nif_of_ne (by simp)).trans hs
  have h₂ : ((s.ensure .internet).ensure .agnss).nif .ds = none :=
    (ensure_nif_of_ne (by simp)).trans h₁
  simp only [createAgpsStateMachines] at ht
  split at ht
  · rename_i hcap
    split at ht
    · rename_i hpdn
      split at ht
      · exact absurd h₂ ht
      · rename_i hinit
        split at ht
        · exact absurd h₂ ht
        · rename_i hret
          exact ⟨hcap, (Bool.and_eq_true_iff.mp hpdn).2, by simpa using hinit, by simpa using hret⟩
    · exact absurd h₂ ht
  · exact absurd h₁ ht

lemma getAgpsStateMachine_creates {type : AGpsExtType} (hs : s.nif .ds = none)
    (ht : (s.getAgpsStateMachine c r type).1.nif .ds ≠ none) : Creates c r := by
  simp only [getAgpsStateMachine] at ht
  split at ht
  · exact creates_of_isSome hs ht
  · exact absurd hs ht

lemma getAgpsStateMachine_spec (type : AGpsExtType) :
    (∀ n, s.Sprouts (s.getAgpsStateMachine c r type).1 n) ∧
      (s.getAgpsStateMachine c r type).1.queue = s.queue ∧
      (s.getAgpsStateMachine c r type).1.timers = s.timers ∧
      ∀ o ∈ (s.getAgpsStateMachine c r type).2, o = .dsInit false := by
  simp only [getAgpsStateMachine]
  split
  · exact createAgpsStateMachines_spec
  · exact ⟨fun n => .refl s n, rfl, rfl, by simp⟩

lemma subscriberIn_some {sub : AgpsSubscriber} (hs : s.subscriberIn h n = some sub) :
    sub ∈ s.subs n ∧ sub.connHandle = h := by
  obtain ⟨m, hm, hsub⟩ := Option.bind_eq_some_iff.mp hs
  simp only [subs, hm]
  exact AgpsStateMachine.getSubscriber_some hsub

lemma subscriberIn_eq_none :
    s.subscriberIn h n = none ↔ ∀ x ∈ s.subs n, x.connHandle ≠ h := by
  simp only [subscriberIn, subs]
  cases s.nif n with
  | none => simp
  | some m => simp [AgpsStateMachine.getSubscriber]

/-- `releaseATL` finds the handle wherever it is subscribed. -/
lemma search_some {sub : AgpsSubscriber} (hs : s.search h = some (n, sub)) :
    s.subscriberIn h n = some sub := by
  obtain ⟨n', -, hn⟩ := List.exists_of_findSome?_eq_some hs
  obtain ⟨sub', hsub, heq⟩ := Option.map_eq_some_iff.mp hn
  cases heq
  exact hsub

lemma nif_ne_none_of_search {sub : AgpsSubscriber} (hs : s.search h = some (n, sub)) :
    s.nif n ≠ none := by
  obtain ⟨m, hm, -⟩ := Option.bind_eq_some_iff.mp (search_some hs)
  simp [hm]

lemma search_eq_none : s.search h = none ↔ ∀ n, s.subscriberIn h n = none := by
  simp only [search, List.findSome?_eq_none_iff, Option.map_eq_none_iff]
  constructor
  · intro hs n
    exact hs n (by cases n <;> simp)
  · intro hs n _
    exact hs n

/-! ## Which machine is given which event -/

lemma place_eq_ds {type : AGpsExtType} :
    place c type = .ds ↔ type = .suplEs ∧ c.usePdn = true := by
  cases type <;> simp [place]

/-- The machine that the input is for, and the event it is given. -/
def sent (c : Conf) (s : AgpsManager) : Input → Option (Nif × AgpsEvent)
  | .requestATL h type => some (place c type, .subscribe ⟨h, type = .suplEs, false⟩)
  | .postedRequest =>
      s.queue.head?.map fun p => (place c p.2, .subscribe ⟨p.1, p.2 = .suplEs, false⟩)
  | .releaseATL h => (s.search h).map fun p => (p.1, .unsubscribe p.2)
  | .reportDataCallOpened => some (.ds, .granted)
  | .reportDataCallClosed => some (.ds, .released)
  | .reportAtlOpenSuccess type _ _ _ => some (place c type, .granted)
  | .reportAtlOpenFailed type => some (place c type, .denied)
  | .reportAtlClosed type => some (place c type, .released)
  | _ => none

/-- The requests that still wait when the input has been taken. -/
def waiting (s : AgpsManager) : Input → List (ℤ × AGpsExtType)
  | .postedRequest => s.queue.tail
  | _ => s.queue

/-- The callbacks of an input that no machine takes. -/
def Idle (s : AgpsManager) (o : Out) : Input → Prop
  | .requestATL h type => o = .dsInit false ∨ o = .atlOpenStatus h false none bearerInvalid type
  | .postedRequest => o = .dsInit false ∨
      ∃ h type rest, s.queue = (h, type) :: rest ∧
        o = .atlOpenStatus h false none bearerInvalid type
  | .releaseATL h => o = .atlCloseStatus h false
  | .retryTimer => ∃ x ∈ s.subs .ds, x.isInactive = false ∧ o = .sendMsg x.connHandle .suplEs
  | _ => o = .dsInit false

/-- What a step does: it gives a machine an event, or leaves all of them alone, or drops all
subscribers. -/
inductive Effect (c : Conf) (s : AgpsManager) (a : Action) (t : AgpsManager) : Prop
  | event (n : Nif) (event : AgpsEvent) (m₀ m : AgpsStateMachine n.kind) (pre : List Out) :
      s.sent c a.input = some (n, event) →
      (s.nif n = some m₀ ∨ s.nif n = none ∧ m₀ = .new n.kind n.agpsType) →
      (n = .ds → s.nif n = none → Creates c a.reply) →
      (m = m₀ ∨ event = .granted ∧ ∃ apn bearer, m = { m₀ with apn := apn, bearer := bearer }) →
      t.nif n = some (m.processAgpsEvent c a.reply event).1 →
      (∀ n', n' ≠ n → s.Sprouts t n') →
      a.outs = pre ++ (m.processAgpsEvent c a.reply event).2 →
      (∀ o ∈ pre, o = .dsInit false) → Effect c s a t
  | idle : (∀ n, s.Sprouts t n) → (∀ o ∈ a.outs, s.Idle o a.input) →
      (∀ n event, s.sent c a.input = some (n, event) → s.nif n = none) → Effect c s a t
  | restart : a.input = .handleModemSSR →
      (∀ n, t.nif n = (s.nif n).map (·.dropAllSubscribers)) →
      (∀ o ∈ a.outs, o = .dsStop ∨ o = .dsClose ∨ o = .dsRelease ∨ o = .dsInit true) →
      Effect c s a t

lemma deliver_some {event : AgpsEvent} {p : AgpsManager × List Out}
    (hd : s.deliver c r n event = some p) :
    ∃ m, s.nif n = some m ∧ p = (s.set n (m.processAgpsEvent c r event).1,
      (m.processAgpsEvent c r event).2) := by
  obtain ⟨m, hm, rfl⟩ := Option.map_eq_some_iff.mp hd
  exact ⟨m, hm, rfl⟩

lemma deliver_eq_none {event : AgpsEvent} (hd : s.deliver c r n event = none) :
    s.nif n = none := Option.map_eq_none_iff.mp hd

/-- The effect does not depend on what waits in the queue and on the timers. -/
lemma Sprouts.of_nif_eq {s' t' : AgpsManager} (hs : s.nif = s'.nif) (ht : t.nif = t'.nif)
    (h : s'.Sprouts t' n) : s.Sprouts t n := by
  rw [Sprouts, hs, ht]
  exact h

/-- An event given to the machine of a place, after machines may have been created. -/
lemma Effect.of_deliver {a : Action} {s₁ : AgpsManager} {event : AgpsEvent}
    {m₀ m : AgpsStateMachine n.kind} (pre : List Out) (hsend : s.sent c a.input = some (n, event))
    (hs₁ : ∀ n, s.Sprouts s₁ n) (hm₀ : s₁.nif n = some m₀)
    (hcr : s.nif .ds = none → s₁.nif .ds ≠ none → Creates c a.reply)
    (hm : m = m₀ ∨ event = .granted ∧ ∃ apn bearer, m = { m₀ with apn := apn, bearer := bearer })
    (ht : ∀ n', n' ≠ n → t.nif n' = s₁.nif n')
    (htn : t.nif n = some (m.processAgpsEvent c a.reply event).1)
    (houts : a.outs = pre ++ (m.processAgpsEvent c a.reply event).2)
    (hpre : ∀ o ∈ pre, o = .dsInit false) : Effect c s a t := by
  refine .event n event m₀ m pre hsend ?_ ?_ hm htn ?_ houts hpre
  · rcases hs₁ n with hn | ⟨hnone, hn⟩
    · exact Or.inl (hn.symm.trans hm₀)
    · exact Or.inr ⟨hnone, Option.some.inj (hm₀.symm.trans hn)⟩
  · rintro rfl hnone
    exact hcr hnone (by simp [hm₀])
  · intro n' hn'
    refine (hs₁ n').trans (Or.inl (ht n' hn'))

/-- What `requestATL` does, for a request of the modem and for a posted one. -/
lemma requestATL_effect {a : Action} (s₀ : AgpsManager) {type : AGpsExtType}
    (hnif : s₀.nif = s.nif)
    (hsend : s.sent c a.input =
      some (place c type, .subscribe ⟨h, type = .suplEs, false⟩))
    (hidle : ∀ o, o = .dsInit false ∨ o = .atlOpenStatus h false none bearerInvalid type →
      s.Idle o a.input)
    (hp : s₀.requestATL c a.reply h type = (t, a.outs)) :
    Effect c s a t ∧ t.queue = s₀.queue ∧ t.timers = s₀.timers := by
  obtain ⟨hspr, hq, htm, hpre⟩ :=
    getAgpsStateMachine_spec (c := c) (r := a.reply) (s := s₀) type
  have hspr' : ∀ n, s.Sprouts (s₀.getAgpsStateMachine c a.reply type).1 n :=
    fun n => (hspr n).of_nif_eq hnif.symm rfl
  simp only [requestATL] at hp
  cases hd : (s₀.getAgpsStateMachine c a.reply type).1.deliver c a.reply (place c type)
      (.subscribe ⟨h, type = .suplEs, false⟩) with
  | none =>
      simp only [hd] at hp
      obtain ⟨rfl, houts⟩ := Prod.mk.inj hp
      refine ⟨.idle hspr' ?_ ?_, hq, htm⟩
      · intro o ho
        rw [← houts] at ho
        rcases List.mem_append.mp ho with ho | ho
        · exact hidle o (Or.inl (hpre o ho))
        · exact hidle o (Or.inr (List.mem_singleton.mp ho))
      · intro n event hn
        rw [hsend] at hn
        cases hn
        rcases hspr' (place c type) with hsame | ⟨hnone, -⟩
        · exact hsame.symm.trans (deliver_eq_none hd)
        · exact hnone
  | some p =>
      simp only [hd] at hp
      obtain ⟨m, hm, rfl⟩ := deliver_some hd
      obtain ⟨rfl, houts⟩ := Prod.mk.inj hp
      exact ⟨.of_deliver _ hsend hspr' hm (fun h₀ => getAgpsStateMachine_creates (by rw [hnif, h₀]))
        (Or.inl rfl) (fun n' hn' => nif_set_of_ne hn')
        nif_set_self houts.symm hpre, hq, htm⟩

/-- What the reports for a type do. -/
lemma report_effect {a : Action} {type : AGpsExtType} {event : AgpsEvent}
    {f : {k : Kind} → AgpsStateMachine k → AgpsStateMachine k}
    (hf : ∀ (k : Kind) (m : AgpsStateMachine k), f m = m ∨ event = .granted ∧
      ∃ apn bearer, f m = { m with apn := apn, bearer := bearer })
    (hsend : s.sent c a.input = some (place c type, event))
    (hp : s.report c a.reply type f event = some (t, a.outs)) :
    Effect c s a t ∧ t.queue = s.queue ∧ t.timers = s.timers := by
  obtain ⟨hspr, hq, htm, hpre⟩ :=
    getAgpsStateMachine_spec (c := c) (r := a.reply) (s := s) type
  simp only [report] at hp
  obtain ⟨p, hd, heq⟩ := Option.map_eq_some_iff.mp hp
  obtain ⟨m, hm, rfl⟩ := deliver_some hd
  obtain ⟨rfl, houts⟩ := Prod.mk.inj heq
  have hself := Function.update_self (place c type)
    (((s.getAgpsStateMachine c a.reply type).1.nif (place c type)).map f)
    (s.getAgpsStateMachine c a.reply type).1.nif
  obtain ⟨m₀, hm₀, rfl⟩ := Option.map_eq_some_iff.mp (hself.symm.trans hm)
  refine ⟨.of_deliver _ hsend hspr hm₀ getAgpsStateMachine_creates (hf _ m₀) ?_ nif_set_self
    houts.symm hpre, hq, htm⟩
  intro n' hn'
  exact (nif_set_of_ne hn').trans (Function.update_of_ne hn' ..)

/-- The retry timer asks for an active subscriber of the DS machine. -/
lemma mem_delayCallback (ho : o ∈ s.delayCallback) :
    ∃ x ∈ s.subs .ds, x.isInactive = false ∧ o = .sendMsg x.connHandle .suplEs := by
  simp only [delayCallback] at ho
  cases hds : s.nif .ds with
  | none =>
      rw [hds] at ho
      exact absurd ho List.not_mem_nil
  | some m =>
      rw [hds] at ho
      obtain ⟨x, hx, hact, ho⟩ := AgpsStateMachine.mem_retryCallback ho
      refine ⟨x, ?_, hact, ho⟩
      rw [subs, hds]
      exact hx

/-- The posted requests that join the queue change no machine. -/
lemma Effect.absorb {a : Action} {outs : List Out} (he : Effect c s a t) :
    Effect c s a (t.absorb outs) := by
  cases he with
  | event n event m₀ m pre hsend hm₀ hcr hm htn ht houts hpre =>
      exact .event n event m₀ m pre hsend hm₀ hcr hm htn ht houts hpre
  | idle hspr hidle hnone => exact .idle hspr hidle hnone
  | restart hin ht houts => exact .restart hin ht houts

/-- An event for the DS machine, which the code tests for NULL. -/
lemma deliver_ds_effect {a : Action} {event : AgpsEvent}
    (hsend : s.sent c a.input = some (.ds, event))
    (hp : (s.deliver c a.reply .ds event).getD (s, []) = (t, a.outs)) :
    Effect c s a t ∧ t.queue = s.queue ∧ t.timers = s.timers := by
  cases hd : s.deliver c a.reply .ds event with
  | none =>
      simp only [hd, Option.getD_none] at hp
      obtain ⟨rfl, houts⟩ := Prod.mk.inj hp
      refine ⟨.idle (fun n => .refl s n) ?_ ?_, rfl, rfl⟩
      · intro o ho
        rw [← houts] at ho
        exact absurd ho List.not_mem_nil
      · intro n event' hn
        rw [hsend] at hn
        cases hn
        exact deliver_eq_none hd
  | some p =>
      simp only [hd, Option.getD_some] at hp
      subst hp
      obtain ⟨m, hm, heq⟩ := deliver_some hd
      obtain ⟨rfl, houts⟩ := Prod.mk.inj heq
      exact ⟨.of_deliver [] hsend (fun n => .refl s n) hm (fun h₀ h₁ => absurd h₀ h₁)
        (Or.inl rfl)
        (fun n' hn' => nif_set_of_ne hn') nif_set_self houts (by simp), rfl, rfl⟩

lemma releaseATL_effect {a : Action} (hin : a.input = .releaseATL h)
    (hp : s.releaseATL c a.reply h = (t, a.outs)) :
    Effect c s a t ∧ t.queue = s.queue ∧ t.timers = s.timers := by
  simp only [releaseATL] at hp
  cases hsearch : s.search h with
  | none =>
      simp only [hsearch] at hp
      obtain ⟨rfl, houts⟩ := Prod.mk.inj hp
      refine ⟨.idle (fun n => .refl s n) ?_ ?_, rfl, rfl⟩
      · intro o ho
        rw [← houts] at ho
        rw [hin]
        exact List.mem_singleton.mp ho
      · intro n event hn
        rw [hin] at hn
        simp [sent, hsearch] at hn
  | some p =>
      obtain ⟨n, sub⟩ := p
      simp only [hsearch] at hp
      obtain ⟨m, hm, -⟩ := Option.bind_eq_some_iff.mp (search_some hsearch)
      have hd : s.deliver c a.reply n (.unsubscribe sub) =
          some (s.set n (m.processAgpsEvent c a.reply (.unsubscribe sub)).1,
            (m.processAgpsEvent c a.reply (.unsubscribe sub)).2) := by
        rw [deliver, hm]
        rfl
      rw [hd] at hp
      obtain ⟨rfl, houts⟩ := Prod.mk.inj hp
      refine ⟨.of_deliver [] ?_ (fun n => .refl s n) hm (fun h₀ h₁ => absurd h₀ h₁)
        (Or.inl rfl)
        (fun n' hn' => nif_set_of_ne hn') nif_set_self houts.symm (by simp), rfl, rfl⟩
      rw [hin]
      simp only [sent, hsearch, Option.map_some]

/-! ## The machine that takes an event -/

section Taken

variable {event : AgpsEvent} {m₀ m : AgpsStateMachine n.kind}

lemma taken_subscribers (hm₀ : s.nif n = some m₀ ∨ s.nif n = none ∧ m₀ = .new n.kind n.agpsType)
    (hm : m = m₀ ∨ event = .granted ∧ ∃ apn bearer, m = { m₀ with apn := apn, bearer := bearer }) :
    m.subscribers = s.subs n ∧ m.state = s.stateIn n := by
  have h₀ : m₀.subscribers = s.subs n ∧ m₀.state = s.stateIn n := by
    rcases hm₀ with hm₀ | ⟨hnone, rfl⟩
    · simp [subs, stateIn, hm₀]
    · simp [subs, stateIn, hnone, AgpsStateMachine.new]
  rcases hm with rfl | ⟨-, apn, bearer, rfl⟩
  · exact h₀
  · exact h₀

/-- A refused connection is one of a machine that was there and is taken as it is. -/
lemma taken_refuses (hm₀ : s.nif n = some m₀ ∨ s.nif n = none ∧ m₀ = .new n.kind n.agpsType)
    (hm : m = m₀ ∨ event = .granted ∧ ∃ apn bearer, m = { m₀ with apn := apn, bearer := bearer })
    (href : m.Refuses event) : s.nif n = some m := by
  rcases hm with rfl | ⟨rfl, -⟩
  · rcases hm₀ with hm₀ | ⟨-, rfl⟩
    · exact hm₀
    · exact absurd href.2 (by simp [AgpsStateMachine.new])
  · exact absurd href.1 (by simp [AgpsStateMachine.translate])

lemma taken_after {r : Reply} (htn : t.nif n = some (m.processAgpsEvent c r event).1) :
    t.subs n = m.subscribersAfter (m.translate event) := by
  rw [subs, htn]
  exact m.processAgpsEvent_subscribers event

end Taken

end AgpsManager

open AgpsManager

/-- **What a step of the manager does**, and where the requests in its queue come from. -/
theorem Step.effect {c : Conf} {s t : AgpsManager} {a : Action} (hst : Step c s a t) :
    Effect c s a t ∧ t.queue = s.waiting a.input ++ posted a.outs := by
  obtain ⟨s', hp, rfl⟩ := hst
  suffices hsuf : Effect c s a s' ∧ s'.queue = s.waiting a.input by
    refine ⟨hsuf.1.absorb, ?_⟩
    rw [← hsuf.2]
    rfl
  cases hin : a.input with
  | createAgpsStateMachines =>
      rw [hin] at hp
      obtain ⟨hspr, hq, -, hpre⟩ :=
        createAgpsStateMachines_spec (c := c) (r := a.reply) (s := s)
      obtain ⟨rfl, houts⟩ := Prod.mk.inj (Option.some.inj hp)
      refine ⟨.idle hspr ?_ (by simp [hin, sent]), hq⟩
      intro o ho
      rw [← houts] at ho
      rw [hin]
      exact hpre o ho
  | requestATL h type =>
      rw [hin] at hp
      obtain ⟨he, hq, -⟩ := requestATL_effect _ rfl (by rw [hin]; rfl)
        (by rw [hin]; exact fun o ho => ho) (Option.some.inj hp)
      exact ⟨he, hq⟩
  | releaseATL h =>
      rw [hin] at hp
      obtain ⟨he, hq, -⟩ := releaseATL_effect hin (Option.some.inj hp)
      exact ⟨he, hq⟩
  | reportDataCallOpened =>
      rw [hin] at hp
      obtain ⟨he, hq, -⟩ := deliver_ds_effect (by rw [hin]; rfl) (Option.some.inj hp)
      exact ⟨he, hq⟩
  | reportDataCallClosed =>
      rw [hin] at hp
      obtain ⟨he, hq, -⟩ := deliver_ds_effect (by rw [hin]; rfl) (Option.some.inj hp)
      exact ⟨he, hq⟩
  | reportAtlOpenSuccess type apn len bearer =>
      rw [hin] at hp
      obtain ⟨he, hq, -⟩ := report_effect (fun k m => Or.inr ⟨rfl, _, _, rfl⟩)
        (by rw [hin]; rfl) hp
      exact ⟨he, hq⟩
  | reportAtlOpenFailed type =>
      rw [hin] at hp
      obtain ⟨he, hq, -⟩ := report_effect (fun k m => Or.inl rfl)
        (by rw [hin]; rfl) hp
      exact ⟨he, hq⟩
  | reportAtlClosed type =>
      rw [hin] at hp
      obtain ⟨he, hq, -⟩ := report_effect (fun k m => Or.inl rfl)
        (by rw [hin]; rfl) hp
      exact ⟨he, hq⟩
  | handleModemSSR =>
      rw [hin] at hp
      simp only [process, handleModemSSR] at hp
      split at hp
      · split at hp
        · obtain ⟨rfl, houts⟩ := Prod.mk.inj (Option.some.inj hp)
          refine ⟨.restart hin (fun n => rfl) ?_, rfl⟩
          intro o ho
          rw [← houts] at ho
          simpa using ho
        · cases hp
      · obtain ⟨rfl, houts⟩ := Prod.mk.inj (Option.some.inj hp)
        refine ⟨.restart hin (fun n => rfl) ?_, rfl⟩
        intro o ho
        rw [← houts] at ho
        exact absurd ho List.not_mem_nil
  | postedRequest =>
      rw [hin] at hp
      simp only [process] at hp
      split at hp
      · cases hp
      · rename_i h type rest hqueue
        obtain ⟨he, hq, -⟩ := requestATL_effect (s := s) { s with queue := rest } rfl
          (by rw [hin, sent, hqueue]; rfl)
          (by
            rw [hin]
            exact fun o ho => ho.imp_right fun ho => ⟨h, type, rest, hqueue, ho⟩)
          (Option.some.inj hp)
        refine ⟨he, hq.trans ?_⟩
        simp [waiting, hqueue]
  | retryTimer =>
      rw [hin] at hp
      simp only [process] at hp
      split at hp
      · obtain ⟨rfl, houts⟩ := Prod.mk.inj (Option.some.inj hp)
        refine ⟨.idle (fun n => Or.inl rfl) ?_ (by simp [hin, sent]), rfl⟩
        intro o ho
        rw [← houts] at ho
        rw [hin]
        exact mem_delayCallback ho
      · cases hp

/-! ## Consequences -/

section Consequences

variable {c : Conf} {s t : AgpsManager} {n : Nif} {h : ℤ}

/-- The subscribers whose connection the input refuses. -/
def refused (c : Conf) (s : AgpsManager) (i : Input) : List AgpsSubscriber :=
  match s.sent c i with
  | none => []
  | some (n, event) =>
      match s.nif n with
      | none => []
      | some m => if m.translate event = .denied ∧ m.state = .pending then m.subscribers else []

/-- Whoever subscribes was asked for by the modem or by a request that waited. -/
lemma sent_subscribe {i : Input} {x : AgpsSubscriber} (hs : s.sent c i = some (n, .subscribe x)) :
    (∃ type, i = .requestATL x.connHandle type ∧ n = place c type) ∨
      ∃ type, (x.connHandle, type) ∈ s.queue ∧ n = place c type := by
  cases i with
  | requestATL h type =>
      cases hs
      exact Or.inl ⟨type, rfl, rfl⟩
  | postedRequest =>
      obtain ⟨⟨h, type⟩, hp, heq⟩ := Option.map_eq_some_iff.mp hs
      cases heq
      exact Or.inr ⟨type, List.mem_of_head? hp, rfl⟩
  | releaseATL h =>
      obtain ⟨p, -, heq⟩ := Option.map_eq_some_iff.mp hs
      cases heq
  | _ => cases hs

lemma mem_refused {i : Input} {event : AgpsEvent} {m : AgpsStateMachine n.kind}
    {x : AgpsSubscriber} (hs : s.sent c i = some (n, event)) (hm : s.nif n = some m)
    (href : m.Refuses event) (hx : x ∈ m.subscribers) : x ∈ refused c s i := by
  simp only [refused, hs, hm]
  rw [if_pos (show m.translate event = .denied ∧ m.state = .pending from href)]
  exact hx

lemma mem_subs_of_refused {i : Input} {x : AgpsSubscriber} (hx : x ∈ refused c s i) :
    ∃ n, x ∈ s.subs n := by
  simp only [refused] at hx
  split at hx
  · exact absurd hx List.not_mem_nil
  · rename_i n event hs
    split at hx
    · exact absurd hx List.not_mem_nil
    · rename_i m hm
      split at hx
      · exact ⟨n, by rw [subs, hm]; exact hx⟩
      · exact absurd hx List.not_mem_nil

lemma mem_waiting {i : Input} {p : ℤ × AGpsExtType} (hp : p ∈ s.waiting i) : p ∈ s.queue := by
  cases i with
  | postedRequest => exact List.mem_of_mem_tail hp
  | _ => exact hp

lemma mem_posted {outs : List Out} {type : AGpsExtType} :
    (h, type) ∈ posted outs ↔ .sendMsg h type ∈ outs := by
  simp only [posted, List.mem_filterMap]
  constructor
  · rintro ⟨o, ho, heq⟩
    cases o <;> simp at heq
    obtain ⟨rfl, rfl⟩ := heq
    exact ho
  · intro ho
    exact ⟨_, ho, rfl⟩

/-- The lists keep distinct handles. -/
lemma distinct_step {a : Action} (hd : ∀ n, ((s.subs n).map (·.connHandle)).Nodup)
    (hst : Step c s a t) : ∀ n, ((t.subs n).map (·.connHandle)).Nodup := by
  intro n'
  cases hst.effect.1 with
  | event n event m₀ m pre hsent hm₀ hcr hm htn ht houts hpre =>
      by_cases hn : n' = n
      · subst hn
        rw [taken_after htn]
        refine AgpsStateMachine.nodup_subscribersAfter ?_ _
        rw [AgpsStateMachine.handles, (taken_subscribers hm₀ hm).1]
        exact hd n'
      · rw [(ht n' hn).subs]
        exact hd n'
  | idle hspr _ _ =>
      rw [(hspr n').subs]
      exact hd n'
  | restart hin ht houts =>
      simp only [subs, ht]
      cases s.nif n' <;> simp [AgpsStateMachine.dropAllSubscribers]

/-- **A release out of a state other than RELEASED** leaves its handle inactive in the machine in
which it was found. -/
lemma inactive_of_release {a : Action} {sub : AgpsSubscriber}
    (hd : ∀ n, ((s.subs n).map (·.connHandle)).Nodup) (hin : a.input = .releaseATL h)
    (hs : s.search h = some (n, sub)) (hstate : stateIn s n ≠ .released) (hst : Step c s a t) :
    (∀ x ∈ t.subs n, x.connHandle = h → x.isInactive = true) ∧
      ∀ n', n' ≠ n → t.subs n' = s.subs n' := by
  cases hst.effect.1 with
  | idle _ _ hnone => exact absurd (hnone n _ (by rw [hin, sent, hs]; rfl)) (nif_ne_none_of_search hs)
  | restart hin' => simp [hin] at hin'
  | event n' event m₀ m pre hsent hm₀ hcr hm htn ht houts hpre =>
      simp only [hin, sent, hs, Option.map_some, Option.some.injEq, Prod.mk.injEq] at hsent
      obtain ⟨rfl, rfl⟩ := hsent
      obtain ⟨hsubs, hst'⟩ := taken_subscribers hm₀ hm
      obtain ⟨-, hsub⟩ := subscriberIn_some (search_some hs)
      have htr : m.translate (.unsubscribe sub) = .unsubscribe sub := by
        simp [AgpsStateMachine.translate]
      refine ⟨?_, fun n' hn => (ht n' hn).subs⟩
      intro x hx hxh
      rw [taken_after htn, htr, AgpsStateMachine.subscribersAfter, hst', if_neg hstate] at hx
      have hdm : m.handles.Nodup := by
        rw [AgpsStateMachine.handles, hsubs]
        exact hd n
      cases hact : x.isInactive with
      | true => rfl
      | false =>
          exact absurd ⟨x, hx, hxh.trans hsub.symm, hact⟩ (AgpsStateMachine.not_active_retire hdm)

/-- The DS machine that takes the input, created for it if need be, and the event it is given. -/
def dsTakes (c : Conf) (r : Reply) (s : AgpsManager) (i : Input) :
    Option (AgpsStateMachine .ds × AgpsEvent) :=
  match s.sent c i with
  | some (.ds, event) =>
      match s.nif .ds with
      | some m => some (m, event)
      | none => if Creates c r then some (.new .ds .suplEs, event) else none
  | _ => none

end Consequences

/-! ## Executing the manager -/

/-- The next state, for a reply of the callbacks. -/
def next (c : Conf) (s : AgpsManager) (p : Input × Reply) : Option (AgpsManager × Action) :=
  (s.process c p.2 p.1).map fun q => (q.1.absorb q.2, ⟨p.1, p.2, q.2⟩)

lemma step_of_next {c : Conf} {s : AgpsManager} {p : Input × Reply} {q : AgpsManager × Action}
    (h : next c s p = some q) : Step c s q.2 q.1 := by
  obtain ⟨q', hq', rfl⟩ := Option.map_eq_some_iff.mp h
  exact ⟨q'.1, hq', rfl⟩

/-- A configuration with an emergency PDN and every function registered. -/
def emergencyConf : Conf := ⟨true, true, true, true, true⟩

/-- The DS client answers that it is busy; everything else succeeds. -/
def busyReply : Reply := ⟨errEngineBusy, false, 0⟩

/-- Every callback succeeds. -/
def okReply : Reply := ⟨0, false, 0⟩

end Gps.Agps
