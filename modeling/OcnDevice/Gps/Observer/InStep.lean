import OcnDevice.Core.Run
import OcnDevice.Core.Separated
import OcnDevice.Gps.Observer.Indexes

/-!
# The two indexes in step

What the senders of the messages mean is a relation between clients and data items: `relate`
says what each message makes of it, and a run is tracked with this relation, with the standing
subscriptions, and with what the framework was told.

The code keeps both indexes equal to the relation (`Synced`) as long as no step does one of the
following (`InStep` is the message that does none of them).

* A client that is in the index gives or takes back items in an order in which the set operations
  overlook some of them.
* A client that replaces its subscription leaves out an item it had: the item goes from the list
  of the client, and the client stays in the list of the item.
* A client that unsubscribes is listed for an item behind a client with a larger address: the
  lists of clients are searched as if they were sorted, and new clients are put at the end.
* A client with items unsubscribes from all of them: `remove` reports that there was none, so the
  lists of the items are left alone, and notifications still go to the client
  (`unsubscribed_client_is_notified`).
-/

open scoped SetAlgorithms

namespace Gps.Observer

variable {CT DIT : Type*} [LinearOrder CT] [LinearOrder DIT] {c c' : CT} {d d' : DIT}
  {l r : List DIT}

/-! ## What is meant -/

/-- The relation that the sender of a message means there to be afterwards. -/
def Msg.relate (R : Finset (CT × DIT)) : Msg CT DIT → Finset (CT × DIT)
  | .handleSubscribeReq l client | .handleRequestData l client =>
      R ∪ l.toFinset.image fun id => (client, id)
  | .handleUpdateSubscriptionReq l client =>
      if l = [] then R
      else (R.filter fun p => p.1 ≠ client) ∪ l.toFinset.image fun id => (client, id)
  | .handleUnsubscribeReq l client => R.filter fun p => ¬(p.1 = client ∧ p.2 ∈ l)
  | .handleUnsubscribeAllReq client => R.filter fun p => p.1 ≠ client
  | .handleNotify _ => R

/-- The standing subscriptions afterwards: a request for data once is none. -/
def Msg.stand (S : Finset (CT × DIT)) : Msg CT DIT → Finset (CT × DIT)
  | .handleRequestData _ _ => S
  | msg => msg.relate S

/-- What the framework was told is subscribed. -/
def Call.tell (F : Finset DIT) : Call CT DIT → Finset DIT
  | .subscribe l => F ∪ l.toFinset
  | .unsubscribe l => F \ l.toFinset
  | .requestData _ | .notify _ _ => F

/-- The observer with the relation, the standing subscriptions, and what the framework was told. -/
structure Tracked (CT DIT : Type*) extends ObserverSys CT DIT where
  related : Finset (CT × DIT)
  standing : Finset (CT × DIT)
  framework : Finset DIT

/-- Nothing was asked for yet. -/
def Tracked.init : Tracked CT DIT := ⟨ObserverSys.init, ∅, ∅, ∅⟩

/-- The tracked state after an action that leads to a state of the observer. -/
def Tracked.after (s : Tracked CT DIT) (t : ObserverSys CT DIT) : Action CT DIT → Tracked CT DIT
  | .call _ => { s with toObserverSys := t }
  | .proc msg calls =>
      ⟨t, msg.relate s.related, msg.stand s.standing, calls.foldl Call.tell s.framework⟩

/-- One step, tracked. -/
def TrackedStep (s : Tracked CT DIT) (a : Action CT DIT) (t : Tracked CT DIT) : Prop :=
  s.toObserverSys.Step a t.toObserverSys ∧ t = s.after t.toObserverSys a

/-- A message that makes the client leave everything. -/
def Action.Leaves (c : CT) (a : Action CT DIT) : Prop :=
  ∃ calls, a = .proc (.handleUnsubscribeAllReq c) calls

/-- A message by which the client asks for something. -/
def Action.Joins (c : CT) (a : Action CT DIT) : Prop :=
  ∃ l calls, a = .proc (.handleSubscribeReq l c) calls ∨
    a = .proc (.handleUpdateSubscriptionReq l c) calls ∨ a = .proc (.handleRequestData l c) calls

/-- **Who has left is related to nothing** until it asks again. -/
lemma not_related_of_leaves {s : Tracked CT DIT} {as : List (Action CT DIT)}
    (hr : Run TrackedStep Tracked.init as s) (harm : Armed (Action.Leaves c) (Action.Joins c) as) :
    (c, d) ∉ s.related := by
  revert harm
  refine hr.history (P := fun as (s : Tracked CT DIT) =>
    Armed (Action.Leaves c) (Action.Joins c) as → (c, d) ∉ s.related) ?_
    (fun h => absurd h not_armed_nil)
  rintro as s a t ih ⟨-, ht⟩ harm
  have hrel : t.related = (s.after t.toObserverSys a).related := congrArg Tracked.related ht
  rw [hrel]
  rcases armed_snoc.mp harm with ⟨calls, rfl⟩ | ⟨hbefore, hjoin⟩
  · simp [Tracked.after, Msg.relate]
  · cases a with
    | call op => exact ih hbefore
    | proc msg calls =>
        have hold := ih hbefore
        cases msg with
        | handleSubscribeReq l c' | handleRequestData l c' =>
            have hne : c' ≠ c := by
              rintro rfl
              exact hjoin ⟨l, calls, by simp⟩
            simp [Tracked.after, Msg.relate, hold, hne]
        | handleUpdateSubscriptionReq l c' =>
            have hne : c' ≠ c := by
              rintro rfl
              exact hjoin ⟨l, calls, by simp⟩
            simp only [Tracked.after, Msg.relate]
            split_ifs
            · exact hold
            · simp [hold, hne]
        | handleUnsubscribeReq | handleUnsubscribeAllReq =>
            simp [Tracked.after, Msg.relate, hold]
        | handleNotify => exact hold

/-! ## Indexes that are the relation -/

/-- Both indexes are the relation, and no client is listed twice for an item. -/
structure Synced (x : ClientIndex CT DIT) (y : DataItemIndex CT DIT) (R : Finset (CT × DIT)) :
    Prop where
  items : ∀ c d, d ∈ x.listOf c ↔ (c, d) ∈ R
  clients : ∀ c d, c ∈ y.listOf d ↔ (c, d) ∈ R
  nodup : ∀ d, (y.listOf d).Nodup

/-- Every new item of a list shows in the difference. -/
def Seen (items l : List DIT) : Prop := ∀ d ∈ l, d ∈ items ∨ d ∈ setDifference l items

instance (items l : List DIT) : Decidable (Seen items l) :=
  inferInstanceAs (Decidable (∀ d ∈ l, _))

/-- The message leaves the indexes in step. -/
def SystemStatusOsObserver.InStep (s : SystemStatusOsObserver CT DIT) : Msg CT DIT → Prop
  | .handleSubscribeReq l client | .handleRequestData l client =>
      s.mClientIndex.lookup client = none ∨ Seen (s.mClientIndex.listOf client) l
  | .handleUpdateSubscriptionReq l client =>
      l = [] ∨ s.mClientIndex.lookup client = none ∨
        Seen (s.mClientIndex.listOf client) l ∧ (∀ id ∈ s.mClientIndex.listOf client, id ∈ l) ∧
          setDifference (s.mClientIndex.listOf client) l = []
  | .handleUnsubscribeReq l client => ∀ id ∈ l,
      (s.mClientIndex.listOf client).count id ≤
        (setIntersection (s.mClientIndex.listOf client) l).count id ∧
      (client ∈ s.mDataItemIndex.listOf id →
        ∀ other ∈ (s.mDataItemIndex.listOf id).takeWhile (· ≠ client), other < client)
  | .handleUnsubscribeAllReq client => s.mClientIndex.listOf client = []
  | .handleNotify _ => True

instance (s : SystemStatusOsObserver CT DIT) : (msg : Msg CT DIT) → Decidable (s.InStep msg)
  | .handleSubscribeReq _ _ | .handleRequestData _ _ => inferInstanceAs (Decidable (_ ∨ _))
  | .handleUpdateSubscriptionReq _ _ => inferInstanceAs (Decidable (_ ∨ _))
  | .handleUnsubscribeReq l _ => inferInstanceAs (Decidable (∀ id ∈ l, _ ∧ (_ → ∀ other ∈ _, _)))
  | .handleUnsubscribeAllReq _ => inferInstanceAs (Decidable (_ = []))
  | .handleNotify _ => inferInstanceAs (Decidable True)

/-- The action leaves the indexes in step. -/
def Action.InStep (s : SystemStatusOsObserver CT DIT) : Action CT DIT → Prop
  | .call _ => True
  | .proc msg _ => s.InStep msg

instance (s : SystemStatusOsObserver CT DIT) : (a : Action CT DIT) → Decidable (a.InStep s)
  | .call _ => inferInstanceAs (Decidable True)
  | .proc msg _ => inferInstanceAs (Decidable (s.InStep msg))

/-- A tracked step that leaves the indexes in step. -/
def InStepStep (s : Tracked CT DIT) (a : Action CT DIT) (t : Tracked CT DIT) : Prop :=
  TrackedStep s a t ∧ a.InStep s.toSystemStatusOsObserver

section Lists

variable {x : ClientIndex CT DIT} {y : DataItemIndex CT DIT}

/-- A client gets the items it asks for, when none is overlooked. -/
lemma ClientIndex.mem_add_iff (h : x.lookup c = none ∨ Seen (x.listOf c) l) :
    d ∈ (x.add c l).1.listOf c' ↔ d ∈ x.listOf c' ∨ c' = c ∧ d ∈ l := by
  by_cases hc : c' = c
  · subst hc
    rw [ClientIndex.mem_add]
    constructor
    · rintro (hd | ⟨-, hd⟩ | hd)
      · exact Or.inl hd
      · exact Or.inr ⟨rfl, hd⟩
      · exact Or.inr ⟨rfl, setDifference_sublist.subset hd⟩
    · rintro (hd | ⟨-, hd⟩)
      · exact Or.inl hd
      · rcases h with h | h
        · exact Or.inr (Or.inl ⟨h, hd⟩)
        · exact (h d hd).imp_right Or.inr
  · rw [ClientIndex.listOf_add_ne hc]
    simp [hc]

/-- A client is listed for the items it asks for. -/
lemma DataItemIndex.mem_add_iff :
    c' ∈ (y.add c l).1.listOf d ↔ c' ∈ y.listOf d ∨ c' = c ∧ d ∈ l := by
  rw [DataItemIndex.add_spec.1]
  split_ifs with hd
  · simp only [List.mem_append, List.mem_singleton, hd.1, and_true]
  · refine ⟨Or.inl, ?_⟩
    rintro (hc | ⟨rfl, hl⟩)
    · exact hc
    · exact not_not.mp fun hc => hd ⟨hl, hc⟩

/-- The items that a client gives back are gone, when all their copies are found. -/
lemma ClientIndex.mem_removeItems_all
    (h : ∀ d ∈ l, (x.listOf c).count d ≤ (setIntersection (x.listOf c) l).count d) :
    d ∈ (x.removeItems c l).1.listOf c' ↔ d ∈ x.listOf c' ∧ ¬(c' = c ∧ d ∈ l) := by
  by_cases hc : c' = c
  · subst hc
    by_cases hd : d ∈ l
    · have hgone := h d hd
      simp [ClientIndex.mem_removeItems_iff, hd, hgone]
    · simp only [hd, and_false, not_false_eq_true, and_true]
      refine ⟨fun h => ?_, fun h => ClientIndex.mem_removeItems h hd⟩
      rw [ClientIndex.listOf_removeItems] at h
      exact List.diff_subset _ _ h
  · rw [ClientIndex.listOf_removeItems_ne hc]
    simp [hc]

/-- The client is not listed for them any longer, when it is found in every list. -/
lemma mem_unsubscribePasses (hy : ∀ d, (y.listOf d).Nodup)
    (h : ∀ d ∈ l, c ∈ y.listOf d → ∀ c' ∈ (y.listOf d).takeWhile (· ≠ c), c' < c) :
    c' ∈ (l.foldl (SystemStatusOsObserver.unsubscribePass c) (y, [])).1.listOf d ↔
      c' ∈ y.listOf d ∧ ¬(c' = c ∧ d ∈ l) := by
  rw [(unsubscribePasses_spec hy).1]
  split_ifs with hd
  · by_cases hc : c' = c
    · subst hc
      rw [mem_clientsLeft_self (hy d)]
      have hgo := h d hd
      tauto
    · rw [mem_clientsLeft_of_ne hc]
      simp [hc]
  · simp [hd]

end Lists

namespace Synced

variable {x : ClientIndex CT DIT} {y : DataItemIndex CT DIT} {R : Finset (CT × DIT)}

lemma mem_asked : (c', d) ∈ (l.toFinset.image fun id => (c, id)) ↔ c' = c ∧ d ∈ l := by
  simp [and_comm, eq_comm]

/-- **A client asks for items.** -/
lemma add (H : Synced x y R) (h : x.lookup c = none ∨ Seen (x.listOf c) l) :
    Synced (x.add c l).1 (y.add c l).1 (R ∪ l.toFinset.image fun id => (c, id)) := by
  refine ⟨fun c' d => ?_, fun c' d => ?_, DataItemIndex.nodup_add H.nodup⟩
  · rw [ClientIndex.mem_add_iff h, H.items, Finset.mem_union, mem_asked]
  · rw [DataItemIndex.mem_add_iff, H.clients, Finset.mem_union, mem_asked]

/-- Nothing is taken out of the index of clients. -/
lemma removeNone (H : Synced x y R) : Synced (x.removeItems c []).1 y R := by
  refine ⟨fun c' d => ?_, H.clients, H.nodup⟩
  by_cases hc : c' = c
  · subst hc
    have hnone : setIntersection (x.listOf c') [] = [] :=
      List.eq_nil_iff_forall_not_mem.mpr fun d hd =>
        absurd (mem_of_mem_setIntersection hd) List.not_mem_nil
    rw [ClientIndex.listOf_removeItems, hnone, List.diff_nil, H.items]
  · rw [ClientIndex.listOf_removeItems_ne hc, H.items]

/-- **A client replaces its items** by a list that has them all. -/
lemma update (H : Synced x y R) (hsub : ∀ d ∈ x.listOf c, d ∈ l)
    (hremove : setDifference (x.listOf c) l = [])
    (h : x.lookup c = none ∨ Seen (x.listOf c) l) :
    Synced ((x.add c l).1.removeItems c (setDifference (x.listOf c) l)).1 (y.add c l).1
      ((R.filter fun p => p.1 ≠ c) ∪ l.toFinset.image fun id => (c, id)) := by
  have hrel : (R.filter fun p => p.1 ≠ c) ∪ (l.toFinset.image fun id => (c, id)) =
      R ∪ l.toFinset.image fun id => (c, id) := by
    ext ⟨c', d⟩
    simp only [Finset.mem_union, Finset.mem_filter, mem_asked]
    constructor
    · exact Or.imp_left And.left
    · rintro (hR | hask)
      · by_cases hc : c' = c
        · subst hc
          exact Or.inr ⟨rfl, hsub d ((H.items c' d).mpr hR)⟩
        · exact Or.inl ⟨hR, hc⟩
      · exact Or.inr hask
  rw [hrel, hremove]
  exact (H.add h).removeNone

/-- A client that has nothing replaces it by any list. -/
lemma update_of_inStep (H : Synced x y R) (h : x.lookup c = none ∨
    Seen (x.listOf c) l ∧ (∀ d ∈ x.listOf c, d ∈ l) ∧ setDifference (x.listOf c) l = []) :
    Synced ((x.add c l).1.removeItems c (setDifference (x.listOf c) l)).1 (y.add c l).1
      ((R.filter fun p => p.1 ≠ c) ∪ l.toFinset.image fun id => (c, id)) := by
  rcases h with h | ⟨hseen, hsub, hremove⟩
  · have hnil := ListMap.listOf_of_none h
    exact H.update (by simp [hnil]) (by rw [hnil]; rfl) (Or.inl h)
  · exact H.update hsub hremove (Or.inr hseen)

/-- **A client gives items back.** -/
lemma unsubscribe (H : Synced x y R)
    (hitems : ∀ d ∈ l, (x.listOf c).count d ≤ (setIntersection (x.listOf c) l).count d)
    (hfound : ∀ d ∈ l, c ∈ y.listOf d → ∀ c' ∈ (y.listOf d).takeWhile (· ≠ c), c' < c) :
    Synced (x.removeItems c l).1 (l.foldl (SystemStatusOsObserver.unsubscribePass c) (y, [])).1
      (R.filter fun p => ¬(p.1 = c ∧ p.2 ∈ l)) := by
  refine ⟨fun c' d => ?_, fun c' d => ?_, nodup_unsubscribePasses H.nodup⟩
  · rw [ClientIndex.mem_removeItems_all hitems, H.items, Finset.mem_filter]
  · rw [mem_unsubscribePasses H.nodup hfound, H.clients, Finset.mem_filter]

/-- **A client without items leaves.** -/
lemma unsubscribeAll (H : Synced x y R) (h : x.listOf c = []) :
    Synced (x.remove c).1 y (R.filter fun p => p.1 ≠ c) := by
  have hnone : ∀ d, (c, d) ∉ R := by
    intro d hR
    have hd := (H.items c d).mpr hR
    rw [h] at hd
    exact List.not_mem_nil hd
  have hrel : (R.filter fun p => p.1 ≠ c) = R := by
    refine Finset.filter_eq_self.mpr ?_
    rintro ⟨c', d⟩ hR rfl
    exact hnone d hR
  rw [hrel]
  refine ⟨fun c' d => ?_, H.clients, H.nodup⟩
  by_cases hc : c' = c
  · subst hc
    simp [ClientIndex.remove, hnone]
  · rw [ClientIndex.remove, ListMap.listOf_erase_ne hc, H.items]

end Synced

/-- **A message leaves the indexes in step.** -/
lemma Synced.proc {s : SystemStatusOsObserver CT DIT} {R : Finset (CT × DIT)}
    (H : Synced s.mClientIndex s.mDataItemIndex R) {msg : Msg CT DIT} (h : s.InStep msg) :
    Synced (s.proc msg).1.mClientIndex (s.proc msg).1.mDataItemIndex (msg.relate R) := by
  cases msg with
  | handleSubscribeReq l c =>
      simp only [SystemStatusOsObserver.proc, SystemStatusOsObserver.handleSubscribeReq,
        Msg.relate]
      split_ifs with hl
      · simpa [hl] using H
      · exact H.add h
  | handleUpdateSubscriptionReq l c =>
      simp only [SystemStatusOsObserver.proc, SystemStatusOsObserver.handleUpdateSubscriptionReq,
        Msg.relate]
      by_cases hl : l = []
      · rw [if_pos hl, if_pos hl]
        exact H
      · have hnew := H.update_of_inStep (h.resolve_left hl)
        -- the client has the items of the list now, so it stays in the index
        obtain ⟨d, hd⟩ := List.exists_mem_of_ne_nil l hl
        have hmem := (hnew.items c d).mpr
          (Finset.mem_union_right _ (Synced.mem_asked.mpr ⟨rfl, hd⟩))
        have hsubscribed : ((s.mClientIndex.add c l).1.removeItems c (setDifference
            (s.mClientIndex.getSubscribedList c) l)).1.isSubscribedClient c = true :=
          ClientIndex.isSubscribedClient_of_mem hmem
        rw [if_neg hl, if_neg hl, if_pos hsubscribed]
        exact hnew
  | handleRequestData l c =>
      simp only [SystemStatusOsObserver.proc, SystemStatusOsObserver.handleRequestData, Msg.relate]
      split_ifs with hl
      · simpa [hl] using H
      · exact H.add h
  | handleUnsubscribeReq l c =>
      simp only [SystemStatusOsObserver.proc, SystemStatusOsObserver.handleUnsubscribeReq,
        Msg.relate]
      split_ifs with hl
      · simpa [hl] using H
      · exact H.unsubscribe (fun d hd => (h d hd).1) fun d hd => (h d hd).2
  | handleUnsubscribeAllReq c => exact H.unsubscribeAll h
  | handleNotify dlist => exact H

/-- Notifications go to clients that are listed for some item. -/
lemma SystemStatusOsObserver.listed_of_notify {s : SystemStatusOsObserver CT DIT}
    {dlist : List (DIT × Bool)} {ids : List DIT}
    (h : Call.notify c ids ∈ (s.handleNotify dlist).2) : ∃ d, c ∈ s.mDataItemIndex.listOf d := by
  simp only [handleNotify, List.mem_flatMap, mem_destutter_ne, sendCachedDataItems,
    List.mem_singleton, Call.notify.injEq] at h
  obtain ⟨c', ⟨d, -, hd⟩, rfl, -⟩ := h
  exact ⟨d, hd⟩

/-! ## Runs -/

lemma Synced.step {s t : Tracked CT DIT} {a : Action CT DIT}
    (H : Synced s.mClientIndex s.mDataItemIndex s.related) (hst : InStepStep s a t) :
    Synced t.mClientIndex t.mDataItemIndex t.related := by
  obtain ⟨⟨hstep, ht⟩, h⟩ := hst
  rw [ht]
  generalize t.toObserverSys = u at hstep
  cases hstep with
  | call op =>
      show Synced (s.call op).mClientIndex (s.call op).mDataItemIndex s.related
      rwa [ObserverSys.call_observer]
  | proc hmsgs => exact H.proc h

/-- **The indexes stay in step** in every run whose messages leave them in step: both are the
relation that is meant, and a client that has left everything and not asked again is not called
by any notification. -/
theorem indexes_in_step {s : Tracked CT DIT} {as : List (Action CT DIT)}
    (hr : Run InStepStep Tracked.init as s) :
    (∀ c d, (c ∈ s.mDataItemIndex.listOf d ↔ d ∈ s.mClientIndex.listOf c) ∧
      (d ∈ s.mClientIndex.listOf c ↔ (c, d) ∈ s.related)) ∧
    ∀ c, Armed (Action.Leaves c) (Action.Joins c) as →
      ∀ dlist calls t, TrackedStep s (.proc (.handleNotify dlist) calls) t →
        ∀ ids, .notify c ids ∉ calls := by
  have H : Synced s.mClientIndex s.mDataItemIndex s.related :=
    hr.invariant (P := fun s : Tracked CT DIT =>
      Synced s.mClientIndex s.mDataItemIndex s.related) (fun _ _ _ H hst => H.step hst)
      ⟨by simp [Tracked.init, ObserverSys.init], by simp [Tracked.init, ObserverSys.init],
        by simp [Tracked.init, ObserverSys.init]⟩
  refine ⟨fun c d => ⟨(H.clients c d).trans (H.items c d).symm, H.items c d⟩, ?_⟩
  rintro c harm dlist calls t ⟨hstep, -⟩ ids hmem
  generalize t.toObserverSys = u at hstep
  cases hstep with
  | proc hmsgs =>
      obtain ⟨d, hd⟩ := SystemStatusOsObserver.listed_of_notify hmem
      exact not_related_of_leaves (hr.mono fun _ _ _ h => h.1) harm ((H.clients c d).mp hd)

/-- The next tracked state. -/
def Tracked.next (s : Tracked CT DIT) (p : Option (Op CT DIT)) :
    Option (Tracked CT DIT × Action CT DIT) :=
  (s.toObserverSys.next p).map fun q => (s.after q.1 q.2, q.2)

lemma trackedStep_of_next {s : Tracked CT DIT} {p : Option (Op CT DIT)}
    {q : Tracked CT DIT × Action CT DIT} (h : s.next p = some q) : TrackedStep s q.2 q.1 := by
  obtain ⟨⟨t, a⟩, hq, rfl⟩ := Option.map_eq_some_iff.mp h
  have hself : (s.after t a).toObserverSys = t := by cases a <;> rfl
  refine ⟨?_, ?_⟩
  · rw [hself]
    exact ObserverSys.step_of_next hq
  · rw [hself]

/-- The next tracked state where the indexes are left in step. -/
def Tracked.nextInStep (s : Tracked CT DIT) (p : Option (Op CT DIT)) :
    Option (Tracked CT DIT × Action CT DIT) :=
  (s.next p).filter fun q => decide (q.2.InStep s.toSystemStatusOsObserver)

lemma inStepStep_of_next {s : Tracked CT DIT} {p : Option (Op CT DIT)}
    {q : Tracked CT DIT × Action CT DIT} (h : s.nextInStep p = some q) : InStepStep s q.2 q.1 := by
  obtain ⟨hq, hin⟩ := Option.filter_eq_some_iff.mp h
  exact ⟨trackedStep_of_next hq, of_decide_eq_true hin⟩

/-- **A client that has unsubscribed is notified.**  `remove` returns zero, and the handler of
`unsubscribeAll` takes this for a client that was not there. -/
theorem unsubscribed_client_is_notified :
    ¬∀ (s : Tracked ℕ ℕ) (as : List (Action ℕ ℕ)), Run TrackedStep Tracked.init as s →
      (∀ c d, (c ∈ s.mDataItemIndex.listOf d ↔ d ∈ s.mClientIndex.listOf c) ∧
        (d ∈ s.mClientIndex.listOf c ↔ (c, d) ∈ s.related)) ∧
      ∀ c, Armed (Action.Leaves c) (Action.Joins c) as →
        ∀ dlist calls t, TrackedStep s (.proc (.handleNotify dlist) calls) t →
          ∀ ids, .notify c ids ∉ calls := by
  intro hall
  have hrun : ((execBy Tracked.next Tracked.init
      [some .setSubscriptionObj, some (.subscribe [1] 7), none, some (.unsubscribeAll 7), none,
        some (.notify [(1, false)])]).bind fun p =>
      (p.1.next none).map fun q => decide (
        p.2 = [Action.call .setSubscriptionObj, .call (.subscribe [1] 7),
          .proc (.handleSubscribeReq [1] 7) [.subscribe [1]], .call (.unsubscribeAll 7)] ++
            Action.proc (.handleUnsubscribeAllReq 7) [] :: [.call (.notify [(1, false)])] ∧
        q.2 = Action.proc (.handleNotify [(1, false)]) [.notify 7 []])) = some true := by
    decide +kernel
  obtain ⟨p, hp, hrest⟩ := Option.bind_eq_some_iff.mp hrun
  obtain ⟨q, hq, hdec⟩ := Option.map_eq_some_iff.mp hrest
  obtain ⟨hlabels, hnotify⟩ := of_decide_eq_true hdec
  have hr : Run TrackedStep Tracked.init p.2 p.1 :=
    Run.of_execBy (fun _ _ _ h => trackedStep_of_next h) hp
  have hst := trackedStep_of_next hq
  rw [hnotify] at hst
  have harm : Armed (Action.Leaves 7) (Action.Joins 7) p.2 := by
    rw [hlabels]
    exact ⟨_, _, _, rfl, ⟨[], rfl⟩, by simp [Action.Joins]⟩
  exact (hall p.1 p.2 hr).2 7 harm _ _ _ hst [] (by simp)

/-- Two clients with an item in common, of which one gives an item back and the other asks for
more. -/
theorem indexes_in_step_two :
    ∃ p, execBy Tracked.nextInStep Tracked.init
      [some .setSubscriptionObj, some (.subscribe [1, 2] 7), none, some (.subscribe [2] 9), none,
        some (.unsubscribe [1] 7), none, some (.updateSubscription [2, 3] 9), none] = some p ∧
      (9 ∈ p.1.mDataItemIndex.listOf 3 ↔ 3 ∈ p.1.mClientIndex.listOf 9) := by
  have hrun : (execBy Tracked.nextInStep Tracked.init
      [some .setSubscriptionObj, some (.subscribe [1, 2] 7), none, some (.subscribe [2] 9), none,
        some (.unsubscribe [1] 7), none, some (.updateSubscription [2, 3] 9), none]).isSome =
      true := by
    decide +kernel
  obtain ⟨p, hp⟩ := Option.isSome_iff_exists.mp hrun
  have hr : Run InStepStep Tracked.init p.2 p.1 :=
    Run.of_execBy (fun _ _ _ h => inStepStep_of_next h) hp
  exact ⟨p, hp, ((indexes_in_step hr).1 9 3).1⟩

end Gps.Observer
