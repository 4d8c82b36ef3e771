import OcnDevice.Gps.Observer.InStep

/-!
# What the framework is told

The observer subscribes with the framework for an item that was not in its index of data items
before, and unsubscribes when the list of the item is empty.  Requests for data go into the same
index, so an item may be there that nobody has subscribed to, and then no subscription is ever
sent for it (`requested_item_is_never_subscribed`).  What else goes wrong comes from the lists
that are not in step with the subscriptions: an item that a client drops by an update, or drops
with all the others, is not unsubscribed.

`Tells` is the message that none of this happens to; what the framework was told is exact in every
run of such messages (`framework_follows`).
-/

open scoped SetAlgorithms

namespace Gps.Observer

variable {CT DIT : Type*} [LinearOrder CT] [LinearOrder DIT] {c : CT} {d : DIT} {l : List DIT}
  {F : Finset DIT} {S : Finset (CT × DIT)}

/-! ## Calls -/

omit [LinearOrder CT] in
lemma tell_unlessEmpty_subscribe :
    (SystemStatusOsObserver.unlessEmpty l .subscribe : List (Call CT DIT)).foldl Call.tell F =
      F ∪ l.toFinset := by
  rw [SystemStatusOsObserver.unlessEmpty]
  split_ifs with h
  · simp [h]
  · rfl

omit [LinearOrder CT] in
lemma tell_unlessEmpty_unsubscribe :
    (SystemStatusOsObserver.unlessEmpty l .unsubscribe : List (Call CT DIT)).foldl Call.tell F =
      F \ l.toFinset := by
  rw [SystemStatusOsObserver.unlessEmpty]
  split_ifs with h
  · simp [h]
  · rfl

omit [LinearOrder CT] in
lemma tell_sendFirstResponse {s : SystemStatusOsObserver CT DIT} :
    (s.sendFirstResponse l c).foldl Call.tell F = F := by
  simp only [SystemStatusOsObserver.sendFirstResponse]
  split_ifs <;> rfl

lemma tell_handleNotify {s : SystemStatusOsObserver CT DIT} {dlist : List (DIT × Bool)} :
    (s.handleNotify dlist).2.foldl Call.tell F = F := by
  have hgo : ∀ (ids : CT → List DIT) (clients : List CT), (clients.flatMap fun c =>
      SystemStatusOsObserver.sendCachedDataItems (ids c) c).foldl Call.tell F = F := by
    intro ids clients
    induction clients with
    | nil => rfl
    | cons c clients ih => exact ih
  exact hgo _ _

/-! ## Standing subscriptions -/

/-- Some client has a standing subscription for the item. -/
def Held (S : Finset (CT × DIT)) (d : DIT) : Prop := ∃ p ∈ S, p.2 = d

/-- Some other client has. -/
def HeldBut (S : Finset (CT × DIT)) (c : CT) (d : DIT) : Prop := ∃ p ∈ S, p.1 ≠ c ∧ p.2 = d

instance (S : Finset (CT × DIT)) (d : DIT) : Decidable (Held S d) :=
  inferInstanceAs (Decidable (∃ p ∈ S, p.2 = d))

instance (S : Finset (CT × DIT)) (c : CT) (d : DIT) : Decidable (HeldBut S c d) :=
  inferInstanceAs (Decidable (∃ p ∈ S, p.1 ≠ c ∧ p.2 = d))

omit [LinearOrder CT] [LinearOrder DIT] in
lemma HeldBut.held (h : HeldBut S c d) : Held S d := by
  obtain ⟨p, hp, -, hd⟩ := h
  exact ⟨p, hp, hd⟩

lemma held_union : Held (S ∪ l.toFinset.image fun id => (c, id)) d ↔ Held S d ∨ d ∈ l := by
  constructor
  · rintro ⟨⟨c', id⟩, hp, rfl⟩
    rcases Finset.mem_union.mp hp with hp | hp
    · exact Or.inl ⟨_, hp, rfl⟩
    · exact Or.inr (Synced.mem_asked.mp hp).2
  · rintro (⟨p, hp, hd⟩ | hd)
    · exact ⟨p, Finset.mem_union_left _ hp, hd⟩
    · exact ⟨(c, d), Finset.mem_union_right _ (Synced.mem_asked.mpr ⟨rfl, hd⟩), rfl⟩

omit [LinearOrder DIT] in
lemma held_filter_ne : Held (S.filter fun p => p.1 ≠ c) d ↔ HeldBut S c d := by
  simp only [Held, HeldBut, Finset.mem_filter, and_assoc]

lemma held_filter_not : Held (S.filter fun p => ¬(p.1 = c ∧ p.2 ∈ l)) d ↔
    if d ∈ l then HeldBut S c d else Held S d := by
  split_ifs with hd
  · constructor
    · rintro ⟨p, hp, rfl⟩
      obtain ⟨hp, hnot⟩ := Finset.mem_filter.mp hp
      exact ⟨p, hp, fun h => hnot ⟨h, hd⟩, rfl⟩
    · rintro ⟨p, hp, hne, rfl⟩
      exact ⟨p, Finset.mem_filter.mpr ⟨hp, fun h => hne h.1⟩, rfl⟩
  · constructor
    · rintro ⟨p, hp, rfl⟩
      exact ⟨p, (Finset.mem_filter.mp hp).1, rfl⟩
    · rintro ⟨p, hp, rfl⟩
      exact ⟨p, Finset.mem_filter.mpr ⟨hp, fun h => hd h.2⟩, rfl⟩

/-! ## Messages that tell the framework what it has to know -/

/-- The message keeps what the framework was told exact. -/
def Tracked.Tells (s : Tracked CT DIT) : Msg CT DIT → Prop
  | .handleSubscribeReq l _ =>
      ∀ id ∈ l, s.mDataItemIndex.lookup id = none ∨ Held s.standing id
  | .handleUpdateSubscriptionReq l client => l = [] ∨
      (∀ id ∈ l, s.mDataItemIndex.lookup id = none ∨ Held s.standing id) ∧
      (∀ p ∈ s.standing, p.1 = client → p.2 ∉ l → HeldBut s.standing client p.2) ∧
      -- the client keeps an item of the list, whatever the set operations overlook
      (s.mClientIndex.lookup client = none ∨
        ∃ id ∈ l, (id ∈ s.mClientIndex.listOf client ∨
            id ∈ setDifference l (s.mClientIndex.listOf client)) ∧
          id ∉ setDifference (s.mClientIndex.listOf client) l)
  | .handleRequestData _ _ => True
  | .handleUnsubscribeReq l client => ∀ id ∈ l, Held s.standing id →
      ((s.mDataItemIndex.listOf id = [] ∨ s.mDataItemIndex.listOf id = [client]) ↔
        ¬HeldBut s.standing client id)
  | .handleUnsubscribeAllReq client =>
      ∀ p ∈ s.standing, p.1 = client → HeldBut s.standing client p.2
  | .handleNotify _ => True

instance (s : Tracked CT DIT) : (msg : Msg CT DIT) → Decidable (s.Tells msg)
  | .handleSubscribeReq l _ => inferInstanceAs (Decidable (∀ id ∈ l, _ ∨ _))
  | .handleUpdateSubscriptionReq l client => inferInstanceAs (Decidable (l = [] ∨
      (∀ id ∈ l, _ ∨ _) ∧ (∀ p ∈ s.standing, p.1 = client → p.2 ∉ l → _) ∧
        (_ ∨ ∃ id ∈ l, _ ∧ _)))
  | .handleRequestData _ _ => inferInstanceAs (Decidable True)
  | .handleUnsubscribeReq l _ => inferInstanceAs (Decidable (∀ id ∈ l, _ → (_ ↔ _)))
  | .handleUnsubscribeAllReq client =>
      inferInstanceAs (Decidable (∀ p ∈ s.standing, p.1 = client → _))
  | .handleNotify _ => inferInstanceAs (Decidable True)

/-- What the framework was told is exact. -/
structure Told (s : Tracked CT DIT) : Prop where
  exact : ∀ d, d ∈ s.framework ↔ Held s.standing d
  nodup : ∀ d, (s.mDataItemIndex.listOf d).Nodup

namespace Told

variable {s : Tracked CT DIT}

/-- What is subscribed with the framework after items were added to the index. -/
lemma subscribed (H : Told s)
    (h : ∀ id ∈ l, s.mDataItemIndex.lookup id = none ∨ Held s.standing id) :
    d ∈ s.framework ∪ (s.mDataItemIndex.add c l).2.toFinset ↔ Held s.standing d ∨ d ∈ l := by
  rw [Finset.mem_union, List.mem_toFinset, DataItemIndex.add_spec.2.2, H.exact]
  constructor
  · exact Or.imp_right And.left
  · rintro (hd | hd)
    · exact Or.inl hd
    · exact (h d hd).elim (fun hnone => Or.inr ⟨hd, hnone⟩) Or.inl

/-- A client that updates its subscription stays in the index. -/
lemma stays (h : s.mClientIndex.lookup c = none ∨ ∃ id ∈ l,
      (id ∈ s.mClientIndex.listOf c ∨ id ∈ setDifference l (s.mClientIndex.listOf c)) ∧
        id ∉ setDifference (s.mClientIndex.listOf c) l) (hl : l ≠ []) :
    ((s.mClientIndex.add c l).1.removeItems c (setDifference
      (s.mClientIndex.getSubscribedList c) l)).1.isSubscribedClient c = true := by
  rcases h with h | ⟨d, -, hd, hnot⟩
  · obtain ⟨d, hd⟩ := List.exists_mem_of_ne_nil l hl
    refine ClientIndex.isSubscribedClient_of_mem (d := d) (ClientIndex.mem_removeItems
      (ClientIndex.mem_add.mpr (Or.inr (Or.inl ⟨h, hd⟩))) ?_)
    rw [ClientIndex.getSubscribedList, ListMap.listOf_of_none h]
    exact List.not_mem_nil
  · exact ClientIndex.isSubscribedClient_of_mem (ClientIndex.mem_removeItems
      (ClientIndex.mem_add.mpr (hd.imp_right Or.inr)) hnot)

/-- **What a message does to what the framework was told.** -/
lemma exact_proc (H : Told s) {msg : Msg CT DIT} (h : s.Tells msg) :
    d ∈ (s.toSystemStatusOsObserver.proc msg).2.foldl Call.tell s.framework ↔
      Held (msg.stand s.standing) d := by
  cases msg with
  | handleSubscribeReq l c =>
      by_cases hl : l = []
      · simpa [hl, Msg.stand, Msg.relate, SystemStatusOsObserver.proc,
          SystemStatusOsObserver.handleSubscribeReq] using H.exact d
      · simp only [Msg.stand, Msg.relate, SystemStatusOsObserver.proc,
          SystemStatusOsObserver.handleSubscribeReq, if_neg hl, List.foldl_append,
          tell_sendFirstResponse, tell_unlessEmpty_subscribe, held_union]
        exact H.subscribed h
  | handleUpdateSubscriptionReq l c =>
      by_cases hl : l = []
      · simpa [hl, Msg.stand, Msg.relate, SystemStatusOsObserver.proc,
          SystemStatusOsObserver.handleUpdateSubscriptionReq] using H.exact d
      · obtain ⟨hnew, hold, hstays⟩ := h.resolve_left hl
        simp only [Msg.stand, Msg.relate, SystemStatusOsObserver.proc,
          SystemStatusOsObserver.handleUpdateSubscriptionReq, if_neg hl, if_pos (stays hstays hl),
          List.foldl_append, tell_sendFirstResponse, tell_unlessEmpty_subscribe,
          tell_unlessEmpty_unsubscribe, held_union, held_filter_ne]
        rw [List.toFinset_nil, Finset.sdiff_empty, H.subscribed hnew]
        constructor
        · rintro (⟨p, hp, rfl⟩ | hd)
          · by_cases hpl : p.2 ∈ l
            · exact Or.inr hpl
            · by_cases hc : p.1 = c
              · exact Or.inl (hold p hp hc hpl)
              · exact Or.inl ⟨p, hp, hc, rfl⟩
          · exact Or.inr hd
        · exact Or.imp_left HeldBut.held
  | handleRequestData l c =>
      simp only [Msg.stand, SystemStatusOsObserver.proc, SystemStatusOsObserver.handleRequestData]
      split_ifs <;> exact H.exact d
  | handleUnsubscribeReq l c =>
      by_cases hl : l = []
      · simpa [hl, Msg.stand, Msg.relate, SystemStatusOsObserver.proc,
          SystemStatusOsObserver.handleUnsubscribeReq] using H.exact d
      · simp only [Msg.stand, Msg.relate, SystemStatusOsObserver.proc,
          SystemStatusOsObserver.handleUnsubscribeReq, if_neg hl, tell_unlessEmpty_unsubscribe,
          held_filter_not]
        rw [Finset.mem_sdiff, List.mem_toFinset, (unsubscribePasses_spec H.nodup).2, H.exact,
          clientsLeft_eq_nil]
        split_ifs with hd
        · constructor
          · rintro ⟨hheld, hkept⟩
            exact not_not.mp fun hno => hkept ⟨hd, (h d hd hheld).mpr hno⟩
          · intro hbut
            exact ⟨hbut.held, fun hgone => (h d hd hbut.held).mp hgone.2 hbut⟩
        · exact and_iff_left fun hgone => hd hgone.1
  | handleUnsubscribeAllReq c =>
      show d ∈ s.framework ↔ Held (s.standing.filter fun p => p.1 ≠ c) d
      rw [held_filter_ne, H.exact]
      refine ⟨?_, HeldBut.held⟩
      rintro ⟨p, hp, rfl⟩
      by_cases hc : p.1 = c
      · exact h p hp hc
      · exact ⟨p, hp, hc, rfl⟩
  | handleNotify dlist =>
      show d ∈ (s.handleNotify dlist).2.foldl Call.tell s.framework ↔ Held s.standing d
      rw [tell_handleNotify, H.exact]

/-- No client is listed twice afterwards. -/
lemma nodup_proc (H : Told s) {msg : Msg CT DIT} (h : s.Tells msg) :
    ((s.toSystemStatusOsObserver.proc msg).1.mDataItemIndex.listOf d).Nodup := by
  cases msg with
  | handleSubscribeReq l c | handleRequestData l c =>
      simp only [SystemStatusOsObserver.proc, SystemStatusOsObserver.handleSubscribeReq,
        SystemStatusOsObserver.handleRequestData]
      split_ifs
      · exact H.nodup d
      · exact DataItemIndex.nodup_add H.nodup d
  | handleUpdateSubscriptionReq l c =>
      by_cases hl : l = []
      · simpa [hl, SystemStatusOsObserver.proc,
          SystemStatusOsObserver.handleUpdateSubscriptionReq] using H.nodup d
      · simp only [SystemStatusOsObserver.proc,
          SystemStatusOsObserver.handleUpdateSubscriptionReq, if_neg hl,
          if_pos (stays (h.resolve_left hl).2.2 hl)]
        exact DataItemIndex.nodup_add H.nodup d
  | handleUnsubscribeReq l c =>
      simp only [SystemStatusOsObserver.proc, SystemStatusOsObserver.handleUnsubscribeReq]
      split_ifs
      · exact H.nodup d
      · exact nodup_unsubscribePasses H.nodup d
  | handleUnsubscribeAllReq c => exact H.nodup d
  | handleNotify dlist => exact H.nodup d

end Told

/-! ## Runs -/

/-- The action keeps what the framework was told exact. -/
def Action.Tells (s : Tracked CT DIT) : Action CT DIT → Prop
  | .call _ => True
  | .proc msg _ => s.Tells msg

instance (s : Tracked CT DIT) : (a : Action CT DIT) → Decidable (a.Tells s)
  | .call _ => inferInstanceAs (Decidable True)
  | .proc msg _ => inferInstanceAs (Decidable (s.Tells msg))

/-- A tracked step that keeps what the framework was told exact. -/
def TellsStep (s : Tracked CT DIT) (a : Action CT DIT) (t : Tracked CT DIT) : Prop :=
  TrackedStep s a t ∧ a.Tells s

lemma Told.step {s t : Tracked CT DIT} {a : Action CT DIT} (H : Told s) (hst : TellsStep s a t) :
    Told t := by
  obtain ⟨⟨hstep, ht⟩, h⟩ := hst
  rw [ht]
  generalize t.toObserverSys = u at hstep
  cases hstep with
  | call op =>
      refine ⟨H.exact, fun d => ?_⟩
      show ((s.call op).mDataItemIndex.listOf d).Nodup
      rw [ObserverSys.call_observer]
      exact H.nodup d
  | proc hmsgs => exact ⟨fun d => H.exact_proc h, fun d => H.nodup_proc h⟩

/-- **The framework is told what the clients want**, in every run of messages that keep it exact:
an item is subscribed with the framework just when some client has a standing subscription. -/
theorem framework_follows {s : Tracked CT DIT} {as : List (Action CT DIT)}
    (hr : Run TellsStep Tracked.init as s) (d : DIT) :
    d ∈ s.framework ↔ ∃ c, (c, d) ∈ s.standing := by
  have H : Told s := hr.invariant (P := Told) (fun _ _ _ H hst => H.step hst)
    ⟨by simp [Tracked.init, Held], by simp [Tracked.init, ObserverSys.init]⟩
  rw [H.exact]
  constructor
  · rintro ⟨⟨c, id⟩, hp, rfl⟩
    exact ⟨c, hp⟩
  · rintro ⟨c, hp⟩
    exact ⟨_, hp, rfl⟩

/-- The next tracked state where what the framework was told is kept exact. -/
def Tracked.nextTells (s : Tracked CT DIT) (p : Option (Op CT DIT)) :
    Option (Tracked CT DIT × Action CT DIT) :=
  (s.next p).filter fun q => decide (q.2.Tells s)

lemma tellsStep_of_next {s : Tracked CT DIT} {p : Option (Op CT DIT)}
    {q : Tracked CT DIT × Action CT DIT} (h : s.nextTells p = some q) : TellsStep s q.2 q.1 := by
  obtain ⟨hq, htells⟩ := Option.filter_eq_some_iff.mp h
  exact ⟨trackedStep_of_next hq, of_decide_eq_true htells⟩

/-- **An item that was requested is never subscribed.**  One client asks for its data once, and
another one subscribes to it: the item is in the index, so the framework is not told. -/
theorem requested_item_is_never_subscribed :
    ¬∀ (s : Tracked ℕ ℕ) (as : List (Action ℕ ℕ)), Run TrackedStep Tracked.init as s →
      ∀ d, d ∈ s.framework ↔ ∃ c, (c, d) ∈ s.standing := by
  intro hall
  have hrun : ((execBy Tracked.next Tracked.init
      [some .setSubscriptionObj, some (.requestData [1] 7), none, some (.subscribe [1] 9),
        none]).map fun p => decide (1 ∉ p.1.framework ∧ (9, 1) ∈ p.1.standing)) = some true := by
    decide +kernel
  obtain ⟨p, hp, hdec⟩ := Option.map_eq_some_iff.mp hrun
  obtain ⟨hno, hstanding⟩ := of_decide_eq_true hdec
  have hr : Run TrackedStep Tracked.init p.2 p.1 :=
    Run.of_execBy (fun _ _ _ h => trackedStep_of_next h) hp
  exact hno ((hall p.1 p.2 hr 1).mpr ⟨9, hstanding⟩)

/-- Two clients subscribe to an item, and both give it back. -/
theorem framework_follows_two :
    ∃ p, execBy Tracked.nextTells Tracked.init
      [some .setSubscriptionObj, some (.subscribe [1, 2] 7), none, some (.subscribe [2] 9), none,
        some (.unsubscribe [2] 7), none, some (.unsubscribe [2] 9), none] = some p ∧
      (2 ∈ p.1.framework ↔ ∃ c, (c, 2) ∈ p.1.standing) := by
  have hrun : (execBy Tracked.nextTells Tracked.init
      [some .setSubscriptionObj, some (.subscribe [1, 2] 7), none, some (.subscribe [2] 9), none,
        some (.unsubscribe [2] 7), none, some (.unsubscribe [2] 9), none]).isSome = true := by
    decide +kernel
  obtain ⟨p, hp⟩ := Option.isSome_iff_exists.mp hrun
  have hr : Run TellsStep Tracked.init p.2 p.1 :=
    Run.of_execBy (fun _ _ _ h => tellsStep_of_next h) hp
  exact ⟨p, hp, framework_follows hr 2⟩

end Gps.Observer
