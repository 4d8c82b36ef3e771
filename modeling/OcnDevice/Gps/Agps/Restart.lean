import Mathlib
import OcnDevice.Gps.Agps.Manager
import OcnDevice.Gps.Agps.Relink

/-!
# After a modem restart

`handleModemSSR` drops all subscribers and keeps everything else: the state of each machine, the
retries that the DS machine has counted, its retry timers, and the requests in the queue.  Where
there was nothing of the kind to keep (`Restartable`), the manager goes on as one whose machines
were just created: `Same` relates the two, every input keeps it (`process_same`), and so the
later runs of both show the same inputs and the same callbacks, but for the APN and bearer that a
refused connection is reported with.
-/

namespace Gps.Agps

open AgpsManager

variable {c : Conf} {r : Reply} {s s' t t' : AgpsManager} {n : Nif} {h : ℤ}

/-! ## Managers that are the same -/

/-- Both values are missing, or both are there and related. -/
def Both {α : Type} (R : α → α → Prop) (o o' : Option α) : Prop :=
  (o = none ∧ o' = none) ∨ ∃ a a', o = some a ∧ o' = some a' ∧ R a a'

/-- The same machines, requests and timers. -/
structure Same (s s' : AgpsManager) : Prop where
  nif : ∀ n, Both AgpsStateMachine.Alike (s.nif n) (s'.nif n)
  queue : s'.queue = s.queue
  timers : s'.timers = s.timers

/-- The same manager with the same callbacks. -/
def SameOut (p p' : AgpsManager × List Out) : Prop :=
  Same p.1 p'.1 ∧ p'.2.map mask = p.2.map mask

lemma Same.symm (hs : Same s s') : Same s' s := by
  refine ⟨fun n => ?_, hs.queue.symm, hs.timers.symm⟩
  rcases hs.nif n with ⟨h, h'⟩ | ⟨m, m', h, h', ha⟩
  · exact Or.inl ⟨h', h⟩
  · exact Or.inr ⟨m', m, h', h, ha.symm⟩

lemma Same.isNone (hs : Same s s') (n : Nif) : (s'.nif n).isNone = (s.nif n).isNone := by
  rcases hs.nif n with ⟨h, h'⟩ | ⟨m, m', h, h', -⟩
  · rw [h, h']
  · rw [h, h']
    rfl

lemma Same.set {m m' : AgpsStateMachine n.kind} (hs : Same s s') (ha : m.Alike m') :
    Same (s.set n m) (s'.set n m') := by
  refine ⟨fun n' => ?_, hs.queue, hs.timers⟩
  by_cases hn : n' = n
  · subst hn
    exact Or.inr ⟨m, m', nif_set_self, nif_set_self, ha⟩
  · rw [nif_set_of_ne hn, nif_set_of_ne hn]
    exact hs.nif n'

lemma Same.ensure (hs : Same s s') (n : Nif) : Same (s.ensure n) (s'.ensure n) := by
  simp only [AgpsManager.ensure, hs.isNone n]
  split
  · exact hs.set (.refl _)
  · exact hs

lemma Same.createAgpsStateMachines (hs : Same s s') :
    SameOut (s.createAgpsStateMachines c r) (s'.createAgpsStateMachines c r) := by
  have h₁ := hs.ensure .internet
  have h₂ := h₁.ensure .agnss
  simp only [AgpsManager.createAgpsStateMachines, h₂.isNone .ds]
  split
  · split
    · split
      · exact ⟨h₂, rfl⟩
      · split
        · exact ⟨h₂, rfl⟩
        · exact ⟨h₂.ensure .ds, rfl⟩
    · exact ⟨h₂, rfl⟩
  · exact ⟨h₁, rfl⟩

lemma Same.getAgpsStateMachine (hs : Same s s') (type : AGpsExtType) :
    SameOut (s.getAgpsStateMachine c r type) (s'.getAgpsStateMachine c r type) := by
  simp only [AgpsManager.getAgpsStateMachine, hs.isNone .ds]
  split
  · exact hs.createAgpsStateMachines
  · exact ⟨hs, rfl⟩

/-- **An event of the machines in a place**; where it grants a connection, the base machines have
been given the same APN and bearer before. -/
lemma Same.deliver (hs : Same s s') (event : AgpsEvent)
    (hg : event = .granted → n.kind = .base → s'.nif n = s.nif n) :
    Both SameOut (s.deliver c r n event) (s'.deliver c r n event) := by
  rcases hs.nif n with ⟨h, h'⟩ | ⟨m, m', h, h', ha⟩
  · exact Or.inl ⟨by rw [AgpsManager.deliver, h]; rfl, by rw [AgpsManager.deliver, h']; rfl⟩
  · have hg' : n.kind = .base → event = .granted → m' = m := by
      intro hk hev
      have heq := hg hev hk
      rw [h, h'] at heq
      exact Option.some.inj heq
    obtain ⟨hm, houts⟩ := ha.processAgpsEvent (c := c) (r := r) hg'
    refine Or.inr ⟨_, _, by rw [AgpsManager.deliver, h]; rfl,
      by rw [AgpsManager.deliver, h']; rfl, hs.set hm, houts⟩

lemma Same.requestATL (hs : Same s s') (h : ℤ) (type : AGpsExtType) :
    SameOut (s.requestATL c r h type) (s'.requestATL c r h type) := by
  obtain ⟨hsm, houts⟩ := hs.getAgpsStateMachine (c := c) (r := r) type
  simp only [AgpsManager.requestATL]
  rcases hsm.deliver (c := c) (r := r) (n := place c type)
    (.subscribe ⟨h, type = .suplEs, false⟩) (by simp) with ⟨hd, hd'⟩ | ⟨p, p', hd, hd', hp⟩
  · rw [hd, hd']
    exact ⟨hsm, by simp [houts]⟩
  · rw [hd, hd']
    exact ⟨hp.1, by simp [houts, hp.2]⟩

lemma Same.search (hs : Same s s') (h : ℤ) : s'.search h = s.search h := by
  have hin : ∀ n, s'.subscriberIn h n = s.subscriberIn h n := by
    intro n
    simp only [subscriberIn]
    rcases hs.nif n with ⟨hn, hn'⟩ | ⟨m, m', hn, hn', ha⟩
    · rw [hn, hn']
    · rw [hn, hn']
      simp only [Option.bind_some, AgpsStateMachine.getSubscriber, ha.subscribers]
  simp only [AgpsManager.search, hin]

lemma Same.releaseATL (hs : Same s s') (h : ℤ) :
    SameOut (s.releaseATL c r h) (s'.releaseATL c r h) := by
  simp only [AgpsManager.releaseATL, hs.search]
  cases s.search h with
  | none => exact ⟨hs, rfl⟩
  | some p =>
      simp only []
      rcases hs.deliver (c := c) (r := r) (n := p.1) (.unsubscribe p.2) (by simp) with
        ⟨hd, hd'⟩ | ⟨q, q', hd, hd', hq⟩
      · rw [hd, hd']
        exact ⟨hs, rfl⟩
      · rw [hd, hd']
        exact hq

/-- **A report for a type**: it leaves the machines alone before the event, or gives both the same
APN and bearer. -/
lemma Same.report (hs : Same s s') (type : AGpsExtType) (event : AgpsEvent)
    {f : {k : Kind} → AgpsStateMachine k → AgpsStateMachine k}
    (hf : ∀ (k : Kind) (m m' : AgpsStateMachine k), m.Alike m' →
      (f m).Alike (f m') ∧ (event = .granted → f m' = f m)) :
    Both SameOut (s.report c r type f event) (s'.report c r type f event) := by
  obtain ⟨hsm, houts⟩ := hs.getAgpsStateMachine (c := c) (r := r) type
  have hprep : Same ((s.getAgpsStateMachine c r type).1.prepare (place c type) f)
      ((s'.getAgpsStateMachine c r type).1.prepare (place c type) f) := by
    refine ⟨fun n => ?_, hsm.queue, hsm.timers⟩
    simp only [prepare]
    by_cases hn : n = place c type
    · subst hn
      rw [Function.update_self, Function.update_self]
      rcases hsm.nif (place c type) with ⟨h, h'⟩ | ⟨m, m', h, h', ha⟩
      · exact Or.inl ⟨by rw [h]; rfl, by rw [h']; rfl⟩
      · exact Or.inr ⟨f m, f m', by rw [h]; rfl, by rw [h']; rfl, (hf _ m m' ha).1⟩
    · rw [Function.update_of_ne hn, Function.update_of_ne hn]
      exact hsm.nif n
  have hgr : event = .granted →
      ((s'.getAgpsStateMachine c r type).1.prepare (place c type) f).nif (place c type) =
        ((s.getAgpsStateMachine c r type).1.prepare (place c type) f).nif (place c type) := by
    intro hev
    simp only [prepare, Function.update_self]
    rcases hsm.nif (place c type) with ⟨h, h'⟩ | ⟨m, m', h, h', ha⟩
    · rw [h, h']
    · rw [h, h', Option.map_some, Option.map_some, (hf _ m m' ha).2 hev]
  simp only [AgpsManager.report]
  rcases hprep.deliver (c := c) (r := r) (n := place c type) event
    (fun hev _ => hgr hev) with ⟨hd, hd'⟩ | ⟨q, q', hd, hd', hq⟩
  · exact Or.inl ⟨by rw [hd]; rfl, by rw [hd']; rfl⟩
  · exact Or.inr ⟨(q.1, (s.getAgpsStateMachine c r type).2 ++ q.2),
      (q'.1, (s'.getAgpsStateMachine c r type).2 ++ q'.2), by rw [hd]; rfl, by rw [hd']; rfl,
      hq.1, by simp [houts, hq.2]⟩

lemma Same.delayCallback (hs : Same s s') : s'.delayCallback = s.delayCallback := by
  simp only [AgpsManager.delayCallback]
  rcases hs.nif .ds with ⟨h, h'⟩ | ⟨m, m', h, h', ha⟩
  · rw [h, h']
  · rw [h, h']
    obtain ⟨apn, bearer, rfl⟩ := ha.link
    rfl

/-- **Every input** keeps two managers the same and makes the same callbacks. -/
theorem Same.process (hs : Same s s') (i : Input) :
    Both SameOut (s.process c r i) (s'.process c r i) := by
  have some_of : ∀ {p p' : AgpsManager × List Out}, SameOut p p' →
      Both SameOut (some p) (some p') := fun hp => Or.inr ⟨_, _, rfl, rfl, hp⟩
  cases i with
  | createAgpsStateMachines => exact some_of hs.createAgpsStateMachines
  | requestATL h type => exact some_of (hs.requestATL h type)
  | releaseATL h => exact some_of (hs.releaseATL h)
  | reportDataCallOpened | reportDataCallClosed =>
      refine some_of ?_
      rcases hs.deliver (c := c) (r := r) (n := .ds) _ (by simp [Nif.kind]) with
        ⟨hd, hd'⟩ | ⟨q, q', hd, hd', hq⟩
      · rw [hd, hd']
        exact ⟨hs, rfl⟩
      · rw [hd, hd']
        exact hq
  | reportAtlOpenSuccess type apn len bearer =>
      refine hs.report type .granted
        (f := fun {k} (m : AgpsStateMachine k) => (m.setBearer bearer).setAPN apn len) ?_
      intro k m m' ha
      obtain ⟨apn', bearer', rfl⟩ := ha.link
      exact ⟨.refl _, fun _ => rfl⟩
  | reportAtlOpenFailed type => exact hs.report type _ fun k m m' ha => ⟨ha, by simp⟩
  | reportAtlClosed type => exact hs.report type _ fun k m m' ha => ⟨ha, by simp⟩
  | handleModemSSR =>
      simp only [AgpsManager.process, AgpsManager.handleModemSSR]
      have hdrop : Same
          { s with nif := fun n => (s.nif n).map (·.dropAllSubscribers) }
          { s' with nif := fun n => (s'.nif n).map (·.dropAllSubscribers) } := by
        refine ⟨fun n => ?_, hs.queue, hs.timers⟩
        rcases hs.nif n with ⟨h, h'⟩ | ⟨m, m', h, h', ha⟩
        · exact Or.inl ⟨by simp [h], by simp [h']⟩
        · refine Or.inr ⟨m.dropAllSubscribers, m'.dropAllSubscribers, by simp [h], by simp [h'], ?_⟩
          obtain ⟨⟨apn, bearer, rfl⟩, held⟩ := ha
          exact ⟨⟨apn, bearer, rfl⟩, fun hk hst => by rw [held hk hst]⟩
      split
      · split
        · exact some_of ⟨hdrop, rfl⟩
        · exact Or.inl ⟨rfl, rfl⟩
      · exact some_of ⟨hdrop, rfl⟩
  | postedRequest =>
      simp only [AgpsManager.process, hs.queue]
      cases s.queue with
      | nil => exact Or.inl ⟨rfl, rfl⟩
      | cons p rest =>
          have hrest : Same { s with queue := rest } { s' with queue := rest } :=
            ⟨hs.nif, rfl, hs.timers⟩
          exact some_of (hrest.requestATL p.1 p.2)
  | retryTimer =>
      simp only [AgpsManager.process, hs.timers, hs.delayCallback]
      split
      · exact some_of ⟨⟨hs.nif, hs.queue, rfl⟩, rfl⟩
      · exact Or.inl ⟨rfl, rfl⟩

/-! ## Runs of managers that are the same -/

/-- What is seen of a step: its input, its reply, and its callbacks without the APN and bearer of
refused connections. -/
def seen (a : Action) : Action := { a with outs := a.outs.map mask }

lemma posted_mask (outs : List Out) : posted (outs.map mask) = posted outs := by
  induction outs with
  | nil => rfl
  | cons o outs ih =>
      have hcons : ∀ (o : Out) (l : List Out), posted (o :: l) = posted [o] ++ posted l := by
        intro o l
        simp only [posted, ← List.filterMap_append]
        rfl
      rw [List.map_cons, hcons, ih, hcons o]
      congr 1
      cases o with
      | atlOpenStatus h ok apn bearer type => cases ok <;> rfl
      | _ => rfl

lemma count_mask (outs : List Out) : (outs.map mask).count .timerStart = outs.count .timerStart := by
  induction outs with
  | nil => rfl
  | cons o outs ih =>
      rw [List.map_cons, List.count_cons, List.count_cons, ih]
      congr 1
      cases o with
      | atlOpenStatus h ok apn bearer type => cases ok <;> rfl
      | _ => rfl

/-- **A step of one is a step of the other.** -/
lemma Same.step {a : Action} (hs : Same s s') (hst : Step c s a t) :
    ∃ a' t', Step c s' a' t' ∧ seen a' = seen a ∧ Same t t' := by
  obtain ⟨u, hu, rfl⟩ := hst
  rcases hs.process (c := c) (r := a.reply) a.input with ⟨h, -⟩ | ⟨p, p', h, h', hp⟩
  · rw [hu] at h
    cases h
  · rw [hu] at h
    cases h
    obtain ⟨hsame, houts⟩ := hp
    refine ⟨⟨a.input, a.reply, p'.2⟩, p'.1.absorb p'.2, ⟨p'.1, h', rfl⟩, ?_, hsame.nif, ?_, ?_⟩
    · simp [seen, houts]
    · show p'.1.queue ++ posted p'.2 = u.queue ++ posted a.outs
      rw [hsame.queue, ← posted_mask p'.2, houts, posted_mask]
    · show p'.1.timers + _ = u.timers + _
      rw [hsame.timers, ← count_mask p'.2, houts, count_mask]

/-- **A run of one is a run of the other.** -/
lemma Same.run {as : List Action} (hs : Same s s') (hr : Run (Step c) s as t) :
    ∃ as' t', Run (Step c) s' as' t' ∧ as'.map seen = as.map seen ∧ Same t t' := by
  induction hr with
  | nil => exact ⟨[], s', .nil s', rfl, hs⟩
  | snoc _ hst ih =>
      obtain ⟨as', u', hr', has, hu⟩ := ih
      obtain ⟨a', t', hst', ha, ht⟩ := hu.step hst
      exact ⟨as' ++ [a'], t', hr'.snoc hst', by simp [has, ha], ht⟩

/-! ## The restart -/

/-- **The condition**: every machine is in RELEASED, no retry was counted or is to come, and no
request waits. -/
structure Restartable (s : AgpsManager) : Prop where
  released : ∀ n m, s.nif n = some m → m.state = .released
  retries : ∀ n m, s.nif n = some m → m.retries = 0
  queue : s.queue = []
  timers : s.timers = 0

/-- The manager with its machines as they are when they are created. -/
def fresh (s : AgpsManager) : AgpsManager :=
  ⟨fun n => (s.nif n).map fun m => .new n.kind m.agpsType, [], 0⟩

/-- What the restart leaves of a manager for which the condition holds. -/
lemma Restartable.step {a : Action} (hs : Restartable s) (hst : Step c s a t)
    (hin : a.input = .handleModemSSR) :
    Restartable t ∧ ∀ n m, t.nif n = some m → m.subscribers = [] := by
  obtain ⟨u, hu, rfl⟩ := hst
  rw [hin] at hu
  have hnif : ∃ outs, (u, a.outs) =
      ({ s with nif := fun n => (s.nif n).map (·.dropAllSubscribers) }, outs) ∧
      posted outs = [] ∧ outs.count .timerStart = 0 := by
    simp only [AgpsManager.process, AgpsManager.handleModemSSR] at hu
    split at hu
    · split at hu
      · exact ⟨_, (Option.some.inj hu).symm, rfl, rfl⟩
      · cases hu
    · exact ⟨_, (Option.some.inj hu).symm, rfl, rfl⟩
  obtain ⟨outs, heq, hposted, hcount⟩ := hnif
  obtain ⟨rfl, rfl⟩ := Prod.mk.inj heq
  have hm : ∀ n m, ((s.nif n).map (·.dropAllSubscribers)) = some m →
      ∃ m₀, s.nif n = some m₀ ∧ m = m₀.dropAllSubscribers := by
    intro n m hm
    obtain ⟨m₀, hm₀, rfl⟩ := Option.map_eq_some_iff.mp hm
    exact ⟨m₀, hm₀, rfl⟩
  refine ⟨⟨?_, ?_, ?_, ?_⟩, ?_⟩
  · intro n m h
    obtain ⟨m₀, hm₀, rfl⟩ := hm n m h
    exact hs.released n m₀ hm₀
  · intro n m h
    obtain ⟨m₀, hm₀, rfl⟩ := hm n m h
    exact hs.retries n m₀ hm₀
  · simp [absorb, hs.queue, hposted]
  · simp [absorb, hs.timers, hcount]
  · intro n m h
    obtain ⟨m₀, hm₀, rfl⟩ := hm n m h
    rfl

/-- Such a manager without subscribers is the same as one whose machines were just created. -/
lemma Restartable.same_fresh (hs : Restartable s)
    (hnil : ∀ n m, s.nif n = some m → m.subscribers = []) : Same s (fresh s) := by
  refine ⟨fun n => ?_, hs.queue.symm, hs.timers.symm⟩
  cases hn : s.nif n with
  | none => exact Or.inl ⟨rfl, by simp [fresh, hn]⟩
  | some m =>
      refine Or.inr ⟨m, .new n.kind m.agpsType, rfl, by simp [fresh, hn], ?_⟩
      have hst := hs.released n m hn
      refine ⟨⟨none, bearerInvalid, ?_⟩, ?_⟩
      · rw [AgpsStateMachine.relink, hnil n m hn, hst, hs.retries n m hn]
        rfl
      · intro _ hacq
        rw [hst] at hacq
        cases hacq

/-- The first subscriber of a machine in RELEASED makes it ask for a connection. -/
lemma subscribe_asks {k : Kind} {m : AgpsStateMachine k} {x : AgpsSubscriber}
    (hst : m.state = .released) (hnil : m.subscribers = []) (hx : x.isInactive = false) :
    .frameworkStatus m.agpsType true ∈ (m.processAgpsEvent c r (.subscribe x)).2 ∨
      k = .ds ∧ (.dsStart r.startRet ∈ (m.processAgpsEvent c r (.subscribe x)).2 ∨
        c.startFn = false) := by
  have htr : m.translate (.subscribe x) = .subscribe x := by simp [AgpsStateMachine.translate]
  simp only [AgpsStateMachine.processAgpsEvent, htr, AgpsStateMachine.processAgpsEventSubscribe,
    hst]
  cases k with
  | base => exact Or.inl (by simp [AgpsStateMachine.requestOrReleaseDataConn])
  | ds =>
      refine Or.inr ⟨rfl, ?_⟩
      have hfirst : (m.addSubscriber x).getFirstSubscriber false = some x := by
        simp [AgpsStateMachine.getFirstSubscriber, AgpsStateMachine.addSubscriber, hnil, hx]
      simp only [AgpsStateMachine.requestOrReleaseDataConn, hfirst]
      cases hstart : c.startFn with
      | false => exact Or.inr rfl
      | true =>
          left
          simp only [Bool.not_true, Bool.false_and, Bool.false_eq_true, if_false, if_true,
            AgpsStateMachine.startDataCall]
          split_ifs <;> simp

/-- The first request for a machine in RELEASED asks for a connection. -/
lemma requestATL_asks {type : AGpsExtType} {m : AgpsStateMachine (place c type).kind}
    (hm : s.nif (place c type) = some m) (hst : m.state = .released) (hnil : m.subscribers = []) :
    .frameworkStatus m.agpsType true ∈ (s.requestATL c r h type).2 ∨
      (place c type).kind = .ds ∧ (.dsStart r.startRet ∈ (s.requestATL c r h type).2 ∨
        c.startFn = false) := by
  have hget : s.getAgpsStateMachine c r type = (s, []) := by
    rw [AgpsManager.getAgpsStateMachine, if_neg]
    rintro ⟨rfl, hpdn, hnone⟩
    have hsome : (s.nif (place c .suplEs)).isNone = false := by
      rw [hm]
      rfl
    rw [place_eq_ds.mpr ⟨rfl, hpdn⟩, hnone] at hsome
    cases hsome
  have hd : ∀ event, s.deliver c r (place c type) event =
      some (s.set (place c type) (m.processAgpsEvent c r event).1,
        (m.processAgpsEvent c r event).2) := by
    intro event
    rw [AgpsManager.deliver, hm]
    rfl
  simp only [AgpsManager.requestATL, hget, hd, List.nil_append]
  exact subscribe_asks hst hnil rfl

/-- **Recovery after a modem restart**: where the condition holds before it, every machine is in
RELEASED with no subscribers after it, the first request asks for a connection, and the later
runs are those of a manager whose machines were just created. -/
theorem restart_recovers {a : Action} (hs : Restartable s) (hst : Step c s a t)
    (hin : a.input = .handleModemSSR) :
    (∀ n m, t.nif n = some m → m.state = .released ∧ m.subscribers = []) ∧
    (∀ h r type m, t.nif (place c type) = some m →
      .frameworkStatus m.agpsType true ∈ (t.requestATL c r h type).2 ∨
        (place c type).kind = .ds ∧ (.dsStart r.startRet ∈ (t.requestATL c r h type).2 ∨
          c.startFn = false)) ∧
    (∀ bs u, Run (Step c) t bs u → ∃ bs' u', Run (Step c) (fresh t) bs' u' ∧
      bs'.map seen = bs.map seen ∧ Same u u') ∧
    ∀ bs u, Run (Step c) (fresh t) bs u → ∃ bs' u', Run (Step c) t bs' u' ∧
      bs'.map seen = bs.map seen ∧ Same u u' := by
  obtain ⟨ht, hnil⟩ := hs.step hst hin
  have hsame := ht.same_fresh hnil
  refine ⟨fun n m hm => ⟨ht.released n m hm, hnil n m hm⟩, ?_, ?_, ?_⟩
  · intro h r type m hm
    exact requestATL_asks hm (ht.released _ m hm) (hnil _ m hm)
  · intro bs u hr
    exact hsame.run hr
  · intro bs u hr
    exact hsame.symm.run hr

/-- **A machine that the restart leaves in PENDING**: a request of the modem waits for its
connection, the restart drops it, and the machine has no subscriber and is not in RELEASED. -/
theorem restart_leaves_pending :
    ¬∀ (c : Conf) (as : List Action) (s t : AgpsManager) (a : Action),
      Run (Step c) init as s → Step c s a t → a.input = .handleModemSSR →
        ∀ n m, t.nif n = some m → m.state = .released ∧ m.subscribers = [] := by
  intro hall
  have hrun : ((execBy (next emergencyConf) init
      [(.createAgpsStateMachines, okReply), (.requestATL 1 .supl, okReply)]).bind fun p =>
      (next emergencyConf p.1 (.handleModemSSR, okReply)).bind fun q =>
        (q.1.nif .agnss).map fun m => decide (m.state = .pending ∧
          q.2.input = .handleModemSSR)) = some true := by
    decide +kernel
  obtain ⟨p, hp, hrest⟩ := Option.bind_eq_some_iff.mp hrun
  obtain ⟨q, hq, hrest⟩ := Option.bind_eq_some_iff.mp hrest
  obtain ⟨m, hm, hdec⟩ := Option.map_eq_some_iff.mp hrest
  obtain ⟨hpend, hin⟩ := of_decide_eq_true hdec
  have hr : Run (Step emergencyConf) init p.2 p.1 :=
    Run.of_execBy (fun _ _ _ h => step_of_next h) hp
  have hst : Step emergencyConf p.1 q.2 q.1 := step_of_next hq
  have hrel := (hall emergencyConf p.2 p.1 q.1 q.2 hr hst hin .agnss m hm).1
  rw [hpend] at hrel
  cases hrel

/-- A restart between two connections: the first was granted and given back before. -/
theorem restart_recovers_idle :
    ∃ p q, execBy (next emergencyConf) init
      [(.createAgpsStateMachines, okReply), (.requestATL 1 .supl, okReply),
        (.reportAtlOpenSuccess .supl (some [105]) 1 1, okReply), (.releaseATL 1, okReply)] =
        some p ∧
      next emergencyConf p.1 (.handleModemSSR, okReply) = some q ∧
      ∀ bs u, Run (Step emergencyConf) q.1 bs u →
        ∃ bs' u', Run (Step emergencyConf) (fresh q.1) bs' u' ∧
          bs'.map seen = bs.map seen ∧ Same u u' := by
  have hrun : ((execBy (next emergencyConf) init
      [(.createAgpsStateMachines, okReply), (.requestATL 1 .supl, okReply),
        (.reportAtlOpenSuccess .supl (some [105]) 1 1, okReply),
        (.releaseATL 1, okReply)]).bind fun p =>
      (next emergencyConf p.1 (.handleModemSSR, okReply)).map fun q =>
        decide ((∀ n ∈ [Nif.agnss, .internet, .ds], ∀ m ∈ p.1.nif n,
          m.state = .released ∧ m.retries = 0) ∧ p.1.queue = [] ∧ p.1.timers = 0 ∧
          q.2.input = .handleModemSSR)) = some true := by
    decide +kernel
  obtain ⟨p, hp, hrest⟩ := Option.bind_eq_some_iff.mp hrun
  obtain ⟨q, hq, hdec⟩ := Option.map_eq_some_iff.mp hrest
  obtain ⟨hm, hqueue, htimers, hin⟩ := of_decide_eq_true hdec
  have hclean : Restartable p.1 :=
    ⟨fun n m h => (hm n (by cases n <;> simp) m h).1,
      fun n m h => (hm n (by cases n <;> simp) m h).2, hqueue, htimers⟩
  exact ⟨p, q, hp, hq, (restart_recovers hclean (step_of_next hq) hin).2.2.1⟩

end Gps.Agps
