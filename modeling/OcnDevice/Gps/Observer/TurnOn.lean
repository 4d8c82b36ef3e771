import OcnDevice.Core.Run

/-!
# Turning data items on and off

The observer counts for every data item how often it was turned on, and the framework should be told
of the first time and of the last time back.  The count changes in the call, and the framework is
told by the message thread, from a message that is bound to what it is for.

The message of `turnOff` is bound to the object of the framework, and that of `turnOn` to the
observer itself.  So processing it counts once more, or, when the item is gone by then, posts the
same message again; the framework is never told to turn anything on (`Bound`).  A run is
right just if nobody turned anything on (`told_right_iff`).

As long as the object of the framework is not set both operations do nothing.
-/

namespace Gps.Observer

variable {F DIT : Type*} [DecidableEq DIT]

/-! ## Model -/

/-- An `IFrameworkActionReq`: the observer is one too. -/
inductive IFrameworkActionReq (F : Type*)
  | observer
  | framework (obj : F)

/-- What the framework is told. -/
inductive FrameworkCall (DIT : Type*)
  | turnOn (dit : DIT) (timeOut : ℤ)
  | turnOff (dit : DIT)
  deriving DecidableEq

/-- The two messages, with what they are bound to. -/
structure ActionMsg (F DIT : Type*) where
  mFrameworkActionReqObj : IFrameworkActionReq F
  call : FrameworkCall DIT

/-- The part of the observer that counts. -/
structure ActionSys (F DIT : Type*) where
  mFrameworkActionReqObj : Option F
  mActiveRequestCount : DIT → Option ℤ
  msgs : List (ActionMsg F DIT)

namespace ActionSys

/-- A new observer. -/
def init : ActionSys F DIT where
  mFrameworkActionReqObj := none
  mActiveRequestCount _ := none
  msgs := []

variable (s : ActionSys F DIT) (dit : DIT) (timeOut : ℤ)

/-- `sendMsg`. -/
def sendMsg (msg : ActionMsg F DIT) : ActionSys F DIT := { s with msgs := s.msgs ++ [msg] }

/-- The count of a data item is set, or the item leaves the map. -/
def setCount (count : Option ℤ) : ActionSys F DIT :=
  { s with mActiveRequestCount := Function.update s.mActiveRequestCount dit count }

/-- `turnOn`. -/
def turnOn : ActionSys F DIT :=
  match s.mFrameworkActionReqObj with
  | none => s
  | some _ =>
      match s.mActiveRequestCount dit with
      -- the message is bound to this observer
      | none => (s.setCount dit (some 1)).sendMsg ⟨.observer, .turnOn dit timeOut⟩
      | some count => s.setCount dit (some (count + 1))

/-- `turnOff`. -/
def turnOff : ActionSys F DIT :=
  match s.mFrameworkActionReqObj with
  | none => s
  | some obj =>
      match s.mActiveRequestCount dit with
      | none => s
      | some count =>
          if count - 1 = 0 then (s.setCount dit none).sendMsg ⟨.framework obj, .turnOff dit⟩
          else s.setCount dit (some (count - 1))

/-- The call that a message makes of the observer itself. -/
def callSelf : FrameworkCall DIT → ActionSys F DIT
  | .turnOn dit timeOut => s.turnOn dit timeOut
  | .turnOff dit => s.turnOff dit

/-- `proc` of a message: the observer afterwards, and the calls of an object of the framework. -/
def proc (msg : ActionMsg F DIT) : ActionSys F DIT × List (F × FrameworkCall DIT) :=
  match msg.mFrameworkActionReqObj with
  | .observer => (s.callSelf msg.call, [])
  | .framework obj => (s, [(obj, msg.call)])

end ActionSys

/-! ## Runs -/

/-- What happens: the object of the framework is set, some client calls, or the message thread
processes the next message. -/
inductive ActionStep (F DIT : Type*)
  | setFrameworkActionReqObj (obj : Option F)
  | turnOn (dit : DIT) (timeOut : ℤ)
  | turnOff (dit : DIT)
  | proc

/-- The observer, with the turn-ons of each item that clients have outstanding, with what the
objects of the framework should have been told, and with what they were told. -/
structure Audited (F DIT : Type*) extends ActionSys F DIT where
  outstanding : DIT → ℕ
  due : List (F × FrameworkCall DIT)
  received : List (F × FrameworkCall DIT)

namespace Audited

/-- A new observer. -/
def init : Audited F DIT where
  toActionSys := .init
  outstanding _ := 0
  due := []
  received := []

variable (s : Audited F DIT)

/-- A client turns an item on.  The first time is due to the framework; without an object of the
framework there is nothing to turn on. -/
def countOn (dit : DIT) (timeOut : ℤ) : Audited F DIT :=
  match s.mFrameworkActionReqObj with
  | none => s
  | some obj =>
      { s with
        outstanding := Function.update s.outstanding dit (s.outstanding dit + 1)
        due := if s.outstanding dit = 0 then s.due ++ [(obj, .turnOn dit timeOut)] else s.due }

/-- A client turns an item off.  The last time is due to the framework, and one without a turn-on
is nothing. -/
def countOff (dit : DIT) : Audited F DIT :=
  match s.mFrameworkActionReqObj with
  | none => s
  | some obj =>
      { s with
        outstanding := Function.update s.outstanding dit (s.outstanding dit - 1)
        due := if s.outstanding dit = 1 then s.due ++ [(obj, .turnOff dit)] else s.due }

/-- One step. -/
inductive Step : Audited F DIT → ActionStep F DIT → Audited F DIT → Prop
  | setFrameworkActionReqObj (s : Audited F DIT) (obj : Option F) :
      Step s (.setFrameworkActionReqObj obj) { s with mFrameworkActionReqObj := obj }
  | turnOn (s : Audited F DIT) (dit : DIT) (timeOut : ℤ) :
      Step s (.turnOn dit timeOut)
        { s.countOn dit timeOut with toActionSys := s.toActionSys.turnOn dit timeOut }
  | turnOff (s : Audited F DIT) (dit : DIT) :
      Step s (.turnOff dit) { s.countOff dit with toActionSys := s.toActionSys.turnOff dit }
  | proc {s : Audited F DIT} {msg : ActionMsg F DIT} {rest : List (ActionMsg F DIT)}
      (h : s.msgs = msg :: rest) :
      Step s .proc
        { s with
          toActionSys := (({ s.toActionSys with msgs := rest } : ActionSys F DIT).proc msg).1
          received := s.received ++
            (({ s.toActionSys with msgs := rest } : ActionSys F DIT).proc msg).2 }

/-- **The framework was told what was due**, and the counts are those of the clients. -/
structure Right : Prop where
  told : s.received = s.due
  counts : ∀ dit, s.mActiveRequestCount dit =
    if s.outstanding dit = 0 then none else some (s.outstanding dit : ℤ)

/-- Nobody turns an item on while there is an object of the framework. -/
def Unused (s : Audited F DIT) : ActionStep F DIT → Prop
  | .turnOn _ _ => s.mFrameworkActionReqObj = none
  | .setFrameworkActionReqObj _ | .turnOff _ | .proc => True

end Audited

/-! ## What messages are bound to -/

/-- A turn-on is for the observer itself, and a turn-off for the framework. -/
inductive ActionMsg.Bound : ActionMsg F DIT → Prop
  | turnOn (dit : DIT) (timeOut : ℤ) : Bound ⟨.observer, .turnOn dit timeOut⟩
  | turnOff (obj : F) (dit : DIT) : Bound ⟨.framework obj, .turnOff dit⟩

namespace ActionSys

variable {s : ActionSys F DIT} {dit : DIT} {timeOut : ℤ} {msg : ActionMsg F DIT}

lemma bound_turnOn (hs : ∀ msg ∈ s.msgs, msg.Bound) :
    ∀ msg ∈ (s.turnOn dit timeOut).msgs, msg.Bound := by
  rw [turnOn]
  split
  · exact hs
  · split
    · intro msg hmsg
      rcases List.mem_append.mp hmsg with hmsg | hmsg
      · exact hs msg hmsg
      · rw [List.mem_singleton.mp hmsg]
        exact .turnOn dit timeOut
    · exact hs

lemma bound_turnOff (hs : ∀ msg ∈ s.msgs, msg.Bound) :
    ∀ msg ∈ (s.turnOff dit).msgs, msg.Bound := by
  rw [turnOff]
  split
  · exact hs
  · rename_i obj hobj
    split
    · exact hs
    · split_ifs
      · intro msg hmsg
        rcases List.mem_append.mp hmsg with hmsg | hmsg
        · exact hs msg hmsg
        · rw [List.mem_singleton.mp hmsg]
          exact .turnOff obj dit
      · exact hs

/-- **Processing a message** posts bound messages only, and turns nothing on. -/
lemma bound_proc (hs : ∀ msg ∈ s.msgs, msg.Bound) (hmsg : msg.Bound) :
    (∀ m ∈ (s.proc msg).1.msgs, m.Bound) ∧
      ∀ p ∈ (s.proc msg).2, ∀ dit timeOut, p.2 ≠ .turnOn dit timeOut := by
  cases hmsg with
  | turnOn dit timeOut => exact ⟨bound_turnOn hs, by simp [proc]⟩
  | turnOff obj dit => exact ⟨hs, by simp [proc]⟩

/-- **Processing a message counts** an item more at most, and posts the message again only if the
item was not counted before. -/
lemma proc_counts (hmsg : msg.Bound) :
    (∀ dit, (s.proc msg).1.mActiveRequestCount dit = none → s.mActiveRequestCount dit = none) ∧
      ((s.proc msg).1.msgs = s.msgs ∨ ((s.proc msg).1.msgs = s.msgs ++ [msg] ∧
        ∃ dit timeOut, msg.call = .turnOn dit timeOut ∧ s.mActiveRequestCount dit = none ∧
          (s.proc msg).1.mActiveRequestCount dit ≠ none)) := by
  cases hmsg with
  | turnOff obj dit => exact ⟨fun _ => id, Or.inl rfl⟩
  | turnOn dit timeOut =>
      have hset : ∀ (count : ℤ) (d : DIT),
          (s.setCount dit (some count)).mActiveRequestCount d = none →
            s.mActiveRequestCount d = none := by
        intro count d hd
        rcases eq_or_ne d dit with rfl | hne
        · simp [setCount] at hd
        · simpa [setCount, hne] using hd
      simp only [proc, callSelf, turnOn]
      split
      · exact ⟨fun _ => id, Or.inl rfl⟩
      · split
        · rename_i hnone
          exact ⟨hset 1, Or.inr ⟨rfl, dit, timeOut, rfl, hnone, by simp [sendMsg, setCount]⟩⟩
        · exact ⟨hset _, Or.inl rfl⟩

/-- The message would be posted again. -/
def fresh (s : ActionSys F DIT) (msg : ActionMsg F DIT) : Bool :=
  match msg.call with
  | .turnOn dit _ => (s.mActiveRequestCount dit).isNone
  | .turnOff _ => false

/-- How many messages there are to process at most. -/
def pending (s : ActionSys F DIT) : ℕ := s.msgs.countP s.fresh + s.msgs.length

omit [DecidableEq DIT] in
lemma pending_cons {rest : List (ActionMsg F DIT)} (h : s.msgs = msg :: rest) : s.pending =
    ({ s with msgs := rest } : ActionSys F DIT).pending + (if s.fresh msg then 1 else 0) + 1 := by
  rw [pending, h, List.countP_cons, List.length_cons]
  change _ = rest.countP s.fresh + rest.length + _ + 1
  omega

/-- **A message that is posted again** will not be posted once more. -/
lemma pending_proc (hmsg : msg.Bound) :
    (s.proc msg).1.pending < s.pending + (if s.fresh msg then 1 else 0) + 1 := by
  obtain ⟨hcount, hposted⟩ := proc_counts (s := s) hmsg
  have hle : s.msgs.countP (s.proc msg).1.fresh ≤ s.msgs.countP s.fresh := by
    refine List.countP_mono_left fun m _ hfresh => ?_
    cases hcall : m.call with
    | turnOn dit timeOut =>
        have hnone : (s.proc msg).1.mActiveRequestCount dit = none := by
          simpa [fresh, hcall] using hfresh
        simp [fresh, hcall, hcount dit hnone]
    | turnOff dit => simp [fresh, hcall] at hfresh
  rw [pending, pending]
  rcases hposted with hrest | ⟨hagain, dit, timeOut, hcall, hnone, hsome⟩
  · rw [hrest]
    omega
  · have hbefore : s.fresh msg = true := by simp [fresh, hcall, hnone]
    have hafter : (s.proc msg).1.fresh msg = false := by
      simpa [fresh, hcall] using Option.isSome_iff_ne_none.mpr hsome
    rw [hagain, List.countP_append, List.length_append, List.countP_singleton, hbefore, hafter]
    simp only [List.length_singleton, if_true, Bool.false_eq_true, if_false]
    omega

end ActionSys

namespace Audited

variable {s t : Audited F DIT} {as : List (ActionStep F DIT)}

/-- The messages that wait are bound, and nothing was turned on. -/
structure Bound (s : Audited F DIT) : Prop where
  msgs : ∀ msg ∈ s.msgs, msg.Bound
  received : ∀ p ∈ s.received, ∀ dit timeOut, p.2 ≠ .turnOn dit timeOut

@[simp] lemma received_countOn {dit : DIT} {timeOut : ℤ} :
    (s.countOn dit timeOut).received = s.received := by
  rw [countOn]
  split <;> rfl

@[simp] lemma received_countOff {dit : DIT} : (s.countOff dit).received = s.received := by
  rw [countOff]
  split <;> rfl

lemma Bound.step {a : ActionStep F DIT} (hs : s.Bound) (hst : Step s a t) : t.Bound := by
  cases hst with
  | setFrameworkActionReqObj obj => exact ⟨hs.msgs, hs.received⟩
  | turnOn dit timeOut =>
      exact ⟨ActionSys.bound_turnOn hs.msgs, by simpa using hs.received⟩
  | turnOff dit => exact ⟨ActionSys.bound_turnOff hs.msgs, by simpa using hs.received⟩
  | @proc msg rest h =>
      have hrest : ∀ m ∈ rest, m.Bound := fun m hm => hs.msgs m (h ▸ List.mem_cons_of_mem _ hm)
      have hproc := ActionSys.bound_proc (s := { s.toActionSys with msgs := rest }) hrest
        (hs.msgs msg (h ▸ List.mem_cons_self))
      refine ⟨hproc.1, fun p hp => ?_⟩
      rcases List.mem_append.mp hp with hp | hp
      · exact hs.received p hp
      · exact hproc.2 p hp

/-- **The framework is never told to turn anything on.** -/
lemma Bound.of_run (hr : Run Step (init : Audited F DIT) as t) : t.Bound :=
  hr.invariant (fun _ _ _ => Bound.step) ⟨by simp [init, ActionSys.init], by simp [init]⟩

/-! ## Runs without turn-ons -/

/-- Nothing was counted, posted or due. -/
structure Idle (s : Audited F DIT) : Prop where
  count : ∀ dit, s.mActiveRequestCount dit = none
  msgs : s.msgs = []
  outstanding : ∀ dit, s.outstanding dit = 0
  due : s.due = []
  received : s.received = []

omit [DecidableEq DIT] in
lemma Idle.right (hs : s.Idle) : s.Right :=
  ⟨by rw [hs.due, hs.received], fun dit => by rw [hs.count, if_pos (hs.outstanding dit)]⟩

lemma Idle.step {a : ActionStep F DIT} (hs : s.Idle) (ha : s.Unused a) (hst : Step s a t) :
    t.Idle := by
  cases hst with
  | setFrameworkActionReqObj obj => exact ⟨hs.count, hs.msgs, hs.outstanding, hs.due, hs.received⟩
  | turnOn dit timeOut =>
      have hobj : s.mFrameworkActionReqObj = none := ha
      have hcount : s.countOn dit timeOut = s := by rw [countOn, hobj]
      have hturn : s.toActionSys.turnOn dit timeOut = s.toActionSys := by
        rw [ActionSys.turnOn, hobj]
      rwa [hcount, hturn]
  | turnOff dit =>
      have hturn : s.toActionSys.turnOff dit = s.toActionSys := by
        rw [ActionSys.turnOff, hs.count]
        split <;> rfl
      rw [hturn, countOff]
      split
      · exact hs
      · have hsame : Function.update s.outstanding dit (s.outstanding dit - 1) = s.outstanding := by
          rw [hs.outstanding, Nat.zero_sub, ← hs.outstanding dit, Function.update_eq_self]
        have h1 : ¬s.outstanding dit = 1 := by
          rw [hs.outstanding]
          exact zero_ne_one
        rw [hsame, if_neg h1]
        exact hs
  | proc h =>
      rw [hs.msgs] at h
      cases h

omit [DecidableEq DIT] in
lemma idle_init : (init : Audited F DIT).Idle := ⟨fun _ => rfl, rfl, fun _ => rfl, rfl, rfl⟩

/-- A run in which nobody turns anything on. -/
abbrev UnusedStep (s : Audited F DIT) (a : ActionStep F DIT) (t : Audited F DIT) : Prop :=
  s.Unused a ∧ Step s a t

lemma Idle.of_run (hr : Run UnusedStep (init : Audited F DIT) as t) : t.Idle :=
  hr.invariant (fun _ _ _ hs hst => hs.step hst.1 hst.2) idle_init

/-! ## Results -/

/-- What is due stays due. -/
lemma due_step {a : ActionStep F DIT} (hst : Step s a t) : s.due <+: t.due := by
  cases hst with
  | setFrameworkActionReqObj obj => exact List.prefix_rfl
  | turnOn dit timeOut =>
      rw [countOn]
      split
      · exact List.prefix_rfl
      · dsimp only
        split_ifs
        · exact List.prefix_append _ _
        · exact List.prefix_rfl
  | turnOff dit =>
      rw [countOff]
      split
      · exact List.prefix_rfl
      · dsimp only
        split_ifs
        · exact List.prefix_append _ _
        · exact List.prefix_rfl
  | proc h => exact List.prefix_rfl

/-- **The first turn-on is due.** -/
lemma unused_or_due (hr : Run Step (init : Audited F DIT) as t) :
    Run UnusedStep init as t ∨ ∃ p ∈ t.due, ∃ dit timeOut, p.2 = .turnOn dit timeOut := by
  induction hr with
  | nil => exact Or.inl (.nil _)
  | @snoc s t as a _ hst ih =>
      rcases ih with hclean | ⟨p, hp, hon⟩
      · by_cases ha : s.Unused a
        · exact Or.inl (.snoc hclean ⟨ha, hst⟩)
        · refine Or.inr ?_
          cases hst with
          | turnOn dit timeOut =>
              obtain ⟨obj, hobj⟩ := Option.ne_none_iff_exists'.mp ha
              rw [countOn, hobj]
              dsimp only
              rw [if_pos ((Idle.of_run hclean).outstanding dit)]
              exact ⟨(obj, .turnOn dit timeOut), by simp, dit, timeOut, rfl⟩
          | setFrameworkActionReqObj obj => exact absurd trivial ha
          | turnOff dit => exact absurd trivial ha
          | proc h => exact absurd trivial ha
      · exact Or.inr ⟨p, (due_step hst).subset hp, hon⟩

/-- Each message is processed at the price of one that can wait. -/
lemma pending_step (hs : s.Bound) (hst : Step s .proc t) :
    t.toActionSys.pending < s.toActionSys.pending := by
  cases hst with
  | @proc msg rest h =>
      have hlt := ActionSys.pending_proc (s := { s.toActionSys with msgs := rest })
        (hs.msgs msg (h ▸ List.mem_cons_self))
      rwa [ActionSys.pending_cons h]

/-- **Processing comes to an end.** -/
lemma exists_processed (hs : s.Bound) :
    ∃ bs t, Run Step s bs t ∧ (∀ b ∈ bs, b = .proc) ∧ t.msgs = [] := by
  induction hn : s.toActionSys.pending using Nat.strong_induction_on generalizing s with
  | _ n ih =>
      cases hmsgs : s.msgs with
      | nil => exact ⟨[], s, .nil s, by simp, hmsgs⟩
      | cons msg rest =>
          have hst := Step.proc hmsgs
          obtain ⟨bs, t, hr, hbs, ht⟩ := ih _ (hn ▸ pending_step hs hst) (hs.step hst) rfl
          exact ⟨.proc :: bs, t, hr.cons hst, by simpa using hbs, ht⟩

/-- **The framework is told right of a run** whose messages are all processed just if nobody turned
anything on.  The messages of a run can always be processed. -/
theorem told_right_iff {s : Audited F DIT} {as : List (ActionStep F DIT)}
    (hr : Run Step init as s) :
    (∃ bs t, Run Step s bs t ∧ (∀ b ∈ bs, b = .proc) ∧ t.msgs = []) ∧
      (s.msgs = [] → (s.Right ↔ Run UnusedStep init as s)) := by
  have hs := Bound.of_run hr
  refine ⟨exists_processed hs, fun _ => ⟨fun hright => ?_, fun hclean => ?_⟩⟩
  · rcases unused_or_due hr with hclean | ⟨p, hp, dit, timeOut, hon⟩
    · exact hclean
    · exact absurd hon (hs.received p (hright.told ▸ hp) dit timeOut)
  · exact (Idle.of_run hclean).right

/-- **An item is turned on and the framework is not told.**  The message is processed by the
observer itself, which counts the same turn-on again. -/
theorem turnOn_is_not_told : ¬∀ (as : List (ActionStep ℕ ℕ)) (s : Audited ℕ ℕ),
    Run Step init as s → s.msgs = [] → s.Right := by
  intro hall
  have hset : Run Step (init : Audited ℕ ℕ) [.setFrameworkActionReqObj (some 9)] _ :=
    .snoc (.nil init) (.setFrameworkActionReqObj init (some 9))
  have hon : Run Step init [.setFrameworkActionReqObj (some 9), .turnOn 1 0] _ :=
    .snoc hset (.turnOn _ 1 0)
  have hproc : Run Step init [.setFrameworkActionReqObj (some 9), .turnOn 1 0, .proc] _ :=
    .snoc hon (.proc rfl)
  have htold := (hall _ _ hproc rfl).told
  simp [init, countOn, ActionSys.proc] at htold

/-- Turning off what was not turned on is no harm. -/
theorem turnOff_alone_is_right : ∃ (as : List (ActionStep ℕ ℕ)) (s : Audited ℕ ℕ),
    as.length = 2 ∧ Run Step init as s ∧ s.msgs = [] ∧ s.Right := by
  have hset : Run UnusedStep (init : Audited ℕ ℕ) [.setFrameworkActionReqObj (some 9)] _ :=
    .snoc (.nil init) ⟨trivial, .setFrameworkActionReqObj init (some 9)⟩
  have hoff : Run UnusedStep init [.setFrameworkActionReqObj (some 9), .turnOff 1] _ :=
    .snoc hset ⟨trivial, .turnOff _ 1⟩
  have hr := hoff.mono fun _ _ _ hst => hst.2
  exact ⟨_, _, rfl, hr, rfl, ((told_right_iff hr).2 rfl).mpr hoff⟩

end Audited

end Gps.Observer
