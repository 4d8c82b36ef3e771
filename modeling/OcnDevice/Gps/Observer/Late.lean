import OcnDevice.Gps.Observer.Framework

/-!
# A subscription object that comes late

Before there is a subscription object, `subscribe` and `requestData` put their items into a cache, and
the other operations of clients are turned down with an error.  `setSubscriptionObj` makes the cached
calls then, all subscriptions first, client by client.

The result is that of an object that was there from the start, if what was turned down is left out
(`late_object_changes_nothing`); with it this is not so (`dropped_unsubscribe_shows`).  Two kinds of
runs are left aside, in which not even the same messages in an other order come to the same.  The set
operations overlook items, or clients, in lists that are not ascending (`Plain` is the step that
overlooks nothing).  And an item that was requested once is never subscribed with the framework, so
it matters whether a subscription comes before a request (`SubscribedFirst`).

What a message does to the two indexes and to the framework, when nothing is overlooked, depends on
no order and no copies; it is worked out on sets (`Msg.sketch`).
-/

open scoped SetAlgorithms

namespace Gps.Observer

variable {CT DIT : Type*} [LinearOrder CT] [LinearOrder DIT] {c c' : CT} {d d' : DIT}
  {l r : List DIT}

/-! ## Sets instead of lists -/

/-- Both indexes, and what the framework was told. -/
@[ext]
structure Sketch (CT DIT : Type*) where
  items : Set (CT × DIT)
  clients : Set (CT × DIT)
  told : Set DIT

/-- The pairs that a client asks for. -/
def asked (l : List DIT) (client : CT) : Set (CT × DIT) := {p | p.1 = client ∧ p.2 ∈ l}

/-- What a message makes of it. -/
def Msg.sketch (k : Sketch CT DIT) : Msg CT DIT → Sketch CT DIT
  | .handleSubscribeReq l client =>
      ⟨k.items ∪ asked l client, k.clients ∪ asked l client,
        k.told ∪ {id | id ∈ l ∧ ∀ other, (other, id) ∉ k.clients}⟩
  | .handleUpdateSubscriptionReq l client =>
      if l = [] then k
      else
        ⟨{p ∈ k.items | p.1 ≠ client} ∪ asked l client, k.clients ∪ asked l client,
          k.told ∪ {id | id ∈ l ∧ ∀ other, (other, id) ∉ k.clients}⟩
  | .handleRequestData l client => ⟨k.items ∪ asked l client, k.clients ∪ asked l client, k.told⟩
  | .handleUnsubscribeReq l client =>
      ⟨k.items \ asked l client, k.clients \ asked l client,
        k.told \ {id | id ∈ l ∧ ∀ other, (other, id) ∈ k.clients → other = client}⟩
  | .handleUnsubscribeAllReq client => ⟨{p ∈ k.items | p.1 ≠ client}, k.clients, k.told⟩
  | .handleNotify _ => k

/-- The set operations overlook nothing in a message. -/
def SystemStatusOsObserver.Plain (s : SystemStatusOsObserver CT DIT) : Msg CT DIT → Prop
  | .handleSubscribeReq l client | .handleRequestData l client =>
      s.mClientIndex.lookup client = none ∨ Seen (s.mClientIndex.listOf client) l
  | .handleUpdateSubscriptionReq l client =>
      l = [] ∨ (s.mClientIndex.lookup client = none ∨ Seen (s.mClientIndex.listOf client) l) ∧
        ∀ id ∈ (s.mClientIndex.add client l).1.listOf client,
          (setIntersection ((s.mClientIndex.add client l).1.listOf client)
            (setDifference (s.mClientIndex.listOf client) l)).count id <
              ((s.mClientIndex.add client l).1.listOf client).count id ↔ id ∈ l
  | .handleUnsubscribeReq l client => ∀ id ∈ l,
      (s.mClientIndex.listOf client).count id ≤
        (setIntersection (s.mClientIndex.listOf client) l).count id ∧
      (client ∈ s.mDataItemIndex.listOf id →
        ∀ other ∈ (s.mDataItemIndex.listOf id).takeWhile (· ≠ client), other < client)
  | .handleUnsubscribeAllReq _ | .handleNotify _ => True

instance (s : SystemStatusOsObserver CT DIT) : (msg : Msg CT DIT) → Decidable (s.Plain msg)
  | .handleSubscribeReq _ _ | .handleRequestData _ _ => inferInstanceAs (Decidable (_ ∨ _))
  | .handleUpdateSubscriptionReq l client => inferInstanceAs (Decidable (l = [] ∨ _ ∧
      ∀ id ∈ (s.mClientIndex.add client l).1.listOf client, (_ ↔ _)))
  | .handleUnsubscribeReq l _ => inferInstanceAs (Decidable (∀ id ∈ l, _ ∧ (_ → ∀ other ∈ _, _)))
  | .handleUnsubscribeAllReq _ | .handleNotify _ => inferInstanceAs (Decidable True)

/-- The indexes, and what the framework was told, are as sketched. -/
structure Drawn (s : SystemStatusOsObserver CT DIT) (F : Finset DIT) (k : Sketch CT DIT) :
    Prop where
  items : ∀ c d, d ∈ s.mClientIndex.listOf c ↔ (c, d) ∈ k.items
  clients : ∀ c d, c ∈ s.mDataItemIndex.listOf d ↔ (c, d) ∈ k.clients
  told : ∀ d, d ∈ F ↔ d ∈ k.told
  nodup : ∀ d, (s.mDataItemIndex.listOf d).Nodup
  full : s.mDataItemIndex.Full

namespace Drawn

variable {s : SystemStatusOsObserver CT DIT} {F : Finset DIT} {k : Sketch CT DIT}

/-- Nobody is listed for an item that is not in the index. -/
lemma lookup_none (H : Drawn s F k) :
    s.mDataItemIndex.lookup d = none ↔ ∀ other, (other, d) ∉ k.clients := by
  rw [H.full.lookup_eq_none, List.eq_nil_iff_forall_not_mem]
  exact forall_congr' fun other => not_congr (H.clients other d)

end Drawn

lemma DataItemIndex.full_add {y : DataItemIndex CT DIT} (h : y.Full) : (y.add c l).1.Full := by
  intro d hd
  have hlist : (y.add c l).1.listOf d = [] := ListMap.listOf_of_some hd
  have hsome : y.lookup d ≠ none ∨ d ∈ l := by
    by_contra hnone
    push Not at hnone
    rw [(DataItemIndex.add_spec.2.1 d).mpr ⟨hnone.2, hnone.1⟩] at hd
    cases hd
  have hnot : ∀ other, other ∉ (y.add c l).1.listOf d := by simp [hlist]
  rcases hsome with hold | hnew
  · obtain ⟨other, hother⟩ := List.exists_mem_of_ne_nil _ fun hnil =>
      hold (h.lookup_eq_none.mpr hnil)
    exact hnot other (DataItemIndex.mem_add_iff.mpr (Or.inl hother))
  · exact hnot c (DataItemIndex.mem_add_iff.mpr (Or.inr ⟨rfl, hnew⟩))

lemma full_unsubscribePasses {y : DataItemIndex CT DIT} (h : y.Full) :
    (l.foldl (SystemStatusOsObserver.unsubscribePass c) (y, [])).1.Full := by
  induction l using List.reverseRecOn with
  | nil => exact h
  | append_singleton l d ih =>
      rw [List.foldl_append]
      exact ih.removeFound

omit [LinearOrder CT] in
/-- Every client in a list without copies is the same one. -/
lemma forall_eq_iff_of_nodup {clients : List CT} (h : clients.Nodup) :
    (clients = [] ∨ clients = [c]) ↔ ∀ other ∈ clients, other = c := by
  constructor
  · rintro (rfl | rfl) <;> simp
  · intro hall
    cases clients with
    | nil => exact Or.inl rfl
    | cons a rest =>
        have ha : a = c := hall a List.mem_cons_self
        have hrest : rest = [] := by
          refine List.eq_nil_iff_forall_not_mem.mpr fun b hb => ?_
          have hba : b = a := (hall b (List.mem_cons_of_mem a hb)).trans ha.symm
          exact (List.nodup_cons.mp h).1 (hba ▸ hb)
        exact Or.inr (by rw [ha, hrest])

namespace Drawn

variable {s : SystemStatusOsObserver CT DIT} {F : Finset DIT} {k : Sketch CT DIT}

/-- **A client asks for items**, once or as a subscription. -/
lemma add (H : Drawn s F k) (h : s.mClientIndex.lookup c = none ∨ Seen (s.mClientIndex.listOf c) l)
    {F' : Finset DIT} {told : Set DIT} (hF : ∀ d, d ∈ F' ↔ d ∈ told) :
    Drawn { s with
      mClientIndex := (s.mClientIndex.add c l).1
      mDataItemIndex := (s.mDataItemIndex.add c l).1 } F'
      ⟨k.items ∪ asked l c, k.clients ∪ asked l c, told⟩ := by
  refine ⟨fun c' d => ?_, fun c' d => ?_, hF, DataItemIndex.nodup_add H.nodup,
    DataItemIndex.full_add H.full⟩
  · rw [ClientIndex.mem_add_iff h, H.items]
    rfl
  · rw [DataItemIndex.mem_add_iff, H.clients]
    rfl

/-- What the framework is told of items that were not in the index. -/
lemma told_add (H : Drawn s F k) : d ∈ F ∪ (s.mDataItemIndex.add c l).2.toFinset ↔
    d ∈ k.told ∪ {id | id ∈ l ∧ ∀ other, (other, id) ∉ k.clients} := by
  rw [Finset.mem_union, List.mem_toFinset, DataItemIndex.add_spec.2.2, H.lookup_none, H.told]
  rfl

/-- **A client replaces its items.**  It stays listed for those it leaves out. -/
lemma update (H : Drawn s F k)
    (hadd : s.mClientIndex.lookup c = none ∨ Seen (s.mClientIndex.listOf c) l)
    (hremove : ∀ id ∈ (s.mClientIndex.add c l).1.listOf c,
      (setIntersection ((s.mClientIndex.add c l).1.listOf c)
        (setDifference (s.mClientIndex.listOf c) l)).count id <
          ((s.mClientIndex.add c l).1.listOf c).count id ↔ id ∈ l) :
    Drawn { s with
      mClientIndex := ((s.mClientIndex.add c l).1.removeItems c
        (setDifference (s.mClientIndex.listOf c) l)).1
      mDataItemIndex := (s.mDataItemIndex.add c l).1 }
      (F ∪ (s.mDataItemIndex.add c l).2.toFinset)
      ⟨{p ∈ k.items | p.1 ≠ c} ∪ asked l c, k.clients ∪ asked l c,
        k.told ∪ {id | id ∈ l ∧ ∀ other, (other, id) ∉ k.clients}⟩ := by
  have hnew : Drawn { s with
      mClientIndex := (s.mClientIndex.add c l).1
      mDataItemIndex := (s.mDataItemIndex.add c l).1 }
      (F ∪ (s.mDataItemIndex.add c l).2.toFinset)
      ⟨k.items ∪ asked l c, k.clients ∪ asked l c,
        k.told ∪ {id | id ∈ l ∧ ∀ other, (other, id) ∉ k.clients}⟩ :=
    H.add hadd fun d => H.told_add
  refine ⟨fun c' d => ?_, hnew.clients, hnew.told, hnew.nodup, hnew.full⟩
  by_cases hc : c' = c
  · subst hc
    have hmem : d ∈ l → d ∈ (s.mClientIndex.add c' l).1.listOf c' := fun hd =>
      (ClientIndex.mem_add_iff hadd).mpr (Or.inr ⟨rfl, hd⟩)
    have hsketch : (c', d) ∈ {p ∈ k.items | p.1 ≠ c'} ∪ asked l c' ↔ d ∈ l := by simp [asked]
    rw [hsketch, ClientIndex.mem_removeItems_iff]
    constructor
    · intro hcount
      exact (hremove d (List.count_pos_iff.mp (Nat.zero_lt_of_lt hcount))).mp hcount
    · intro hd
      exact (hremove d (hmem hd)).mpr hd
  · have hsketch : (c', d) ∈ {p ∈ k.items | p.1 ≠ c} ∪ asked l c ↔ (c', d) ∈ k.items := by
      simp [asked, hc]
    rw [hsketch, ClientIndex.listOf_removeItems_ne hc, ClientIndex.listOf_add_ne hc, H.items]

/-- **A client gives items back.** -/
lemma unsubscribe (H : Drawn s F k)
    (hitems : ∀ d ∈ l, (s.mClientIndex.listOf c).count d ≤
      (setIntersection (s.mClientIndex.listOf c) l).count d)
    (hfound : ∀ d ∈ l, c ∈ s.mDataItemIndex.listOf d →
      ∀ c' ∈ (s.mDataItemIndex.listOf d).takeWhile (· ≠ c), c' < c) :
    Drawn { s with
      mClientIndex := (s.mClientIndex.removeItems c l).1
      mDataItemIndex :=
        (l.foldl (SystemStatusOsObserver.unsubscribePass c) (s.mDataItemIndex, [])).1 }
      (F \ (l.foldl (SystemStatusOsObserver.unsubscribePass c) (s.mDataItemIndex, [])).2.toFinset)
      ⟨k.items \ asked l c, k.clients \ asked l c,
        k.told \ {id | id ∈ l ∧ ∀ other, (other, id) ∈ k.clients → other = c}⟩ := by
  refine ⟨fun c' d => ?_, fun c' d => ?_, fun d => ?_, nodup_unsubscribePasses H.nodup,
    full_unsubscribePasses H.full⟩
  · rw [ClientIndex.mem_removeItems_all hitems, H.items]
    rfl
  · rw [mem_unsubscribePasses H.nodup hfound, H.clients]
    rfl
  · have hlast : clientsLeft c (s.mDataItemIndex.listOf d) = [] ↔
        ∀ other, (other, d) ∈ k.clients → other = c := by
      rw [clientsLeft_eq_nil, forall_eq_iff_of_nodup (H.nodup d)]
      exact forall_congr' fun other => imp_congr_left (H.clients other d)
    rw [Finset.mem_sdiff, List.mem_toFinset, (unsubscribePasses_spec H.nodup).2, H.told, hlast]
    rfl

/-- **What a message does**, when nothing is overlooked. -/
theorem proc (H : Drawn s F k) {msg : Msg CT DIT} (h : s.Plain msg) :
    Drawn (s.proc msg).1 ((s.proc msg).2.foldl Call.tell F) (msg.sketch k) := by
  cases msg with
  | handleSubscribeReq l c =>
      by_cases hl : l = []
      · subst hl
        simpa [SystemStatusOsObserver.proc, SystemStatusOsObserver.handleSubscribeReq, Msg.sketch,
          asked] using H
      · simp only [SystemStatusOsObserver.proc, SystemStatusOsObserver.handleSubscribeReq, if_neg hl,
          List.foldl_append, tell_sendFirstResponse, tell_unlessEmpty_subscribe]
        exact H.add h fun d => H.told_add
  | handleRequestData l c =>
      by_cases hl : l = []
      · subst hl
        simpa [SystemStatusOsObserver.proc, SystemStatusOsObserver.handleRequestData, Msg.sketch,
          asked] using H
      · simp only [SystemStatusOsObserver.proc, SystemStatusOsObserver.handleRequestData, if_neg hl]
        exact H.add h H.told
  | handleUpdateSubscriptionReq l c =>
      by_cases hl : l = []
      · simpa [hl, SystemStatusOsObserver.proc, SystemStatusOsObserver.handleUpdateSubscriptionReq,
          Msg.sketch] using H
      · obtain ⟨hadd, hremove⟩ := h.resolve_left hl
        have hnew := H.update hadd hremove
        -- the client has the items of the list now, so it stays in the index
        obtain ⟨d, hd⟩ := List.exists_mem_of_ne_nil l hl
        have hmem := (hnew.items c d).mpr (Or.inr ⟨rfl, hd⟩)
        have hsubscribed : ((s.mClientIndex.add c l).1.removeItems c (setDifference
            (s.mClientIndex.getSubscribedList c) l)).1.isSubscribedClient c = true :=
          ClientIndex.isSubscribedClient_of_mem hmem
        simp only [SystemStatusOsObserver.proc, SystemStatusOsObserver.handleUpdateSubscriptionReq,
          if_neg hl, if_pos hsubscribed, Msg.sketch, List.foldl_append, tell_sendFirstResponse,
          tell_unlessEmpty_subscribe, tell_unlessEmpty_unsubscribe, List.toFinset_nil,
          Finset.sdiff_empty]
        exact hnew
  | handleUnsubscribeReq l c =>
      by_cases hl : l = []
      · subst hl
        simpa [SystemStatusOsObserver.proc, SystemStatusOsObserver.handleUnsubscribeReq, Msg.sketch,
          asked] using H
      · simp only [SystemStatusOsObserver.proc, SystemStatusOsObserver.handleUnsubscribeReq,
          if_neg hl, tell_unlessEmpty_unsubscribe]
        exact H.unsubscribe (fun d hd => (h d hd).1) fun d hd => (h d hd).2
  | handleUnsubscribeAllReq c =>
      refine ⟨fun c' d => ?_, H.clients, H.told, H.nodup, H.full⟩
      by_cases hc : c' = c
      · subst hc
        simp [SystemStatusOsObserver.proc, SystemStatusOsObserver.handleUnsubscribeAllReq,
          ClientIndex.remove, Msg.sketch]
      · simp only [SystemStatusOsObserver.proc, SystemStatusOsObserver.handleUnsubscribeAllReq,
          ClientIndex.remove, if_pos, Msg.sketch]
        rw [ListMap.listOf_erase_ne hc, H.items]
        simp [hc]
  | handleNotify dlist =>
      refine ⟨H.items, H.clients, fun d => ?_, H.nodup, H.full⟩
      show d ∈ (s.handleNotify dlist).2.foldl Call.tell F ↔ d ∈ k.told
      rw [tell_handleNotify, H.told]

end Drawn

/-! ## Operations -/

/-- The message that an operation sends when there is a subscription object. -/
def Op.msg : Op CT DIT → Option (Msg CT DIT)
  | .setSubscriptionObj => none
  | .subscribe l client => some (.handleSubscribeReq l client)
  | .updateSubscription l client => some (.handleUpdateSubscriptionReq l client)
  | .requestData l client => some (.handleRequestData l client)
  | .unsubscribe l client => some (.handleUnsubscribeReq l client)
  | .unsubscribeAll client => some (.handleUnsubscribeAllReq client)
  | .notify dlist => some (.handleNotify dlist)

/-- An operation that is not turned down when there is none. -/
def Op.isKept : Op CT DIT → Bool
  | .subscribe _ _ | .requestData _ _ | .notify _ => true
  | .setSubscriptionObj | .updateSubscription _ _ | .unsubscribe _ _ | .unsubscribeAll _ => false

/-- The cache overlooks nothing. -/
def Op.Plain (s : ObserverSys CT DIT) : Op CT DIT → Prop
  | .subscribe l client => s.mSubscriptionObj = true ∨
      s.mSubscribeReqCache.lookup client = none ∨ Seen (s.mSubscribeReqCache.listOf client) l
  | .requestData l client => s.mSubscriptionObj = true ∨
      s.mReqDataCache.lookup client = none ∨ Seen (s.mReqDataCache.listOf client) l
  | _ => True

instance (s : ObserverSys CT DIT) : (op : Op CT DIT) → Decidable (op.Plain s)
  | .subscribe _ _ | .requestData _ _ => inferInstanceAs (Decidable (_ ∨ _ ∨ _))
  | .setSubscriptionObj | .updateSubscription _ _ | .unsubscribe _ _ | .unsubscribeAll _
  | .notify _ => inferInstanceAs (Decidable True)

/-- A client has subscribed to an item. -/
def Subscribed (ops : List (Op CT DIT)) (c : CT) (d : DIT) : Prop :=
  ∃ l, .subscribe l c ∈ ops ∧ d ∈ l

/-- A client has requested an item. -/
def Requested (ops : List (Op CT DIT)) (c : CT) (d : DIT) : Prop :=
  ∃ l, .requestData l c ∈ ops ∧ d ∈ l

/-- An item that has been requested before it is subscribed to has been subscribed to before. -/
def SubscribedFirst (ops : List (Op CT DIT)) : Prop :=
  ∀ before l c after, ops = before ++ .subscribe l c :: after →
    ∀ d ∈ l, (∃ other, Requested before other d) → ∃ other, Subscribed before other d

/-- What comes of operations that ask for items, when none of the others is made. -/
def asking (ops : List (Op CT DIT)) : Sketch CT DIT where
  items := {p | Subscribed ops p.1 p.2 ∨ Requested ops p.1 p.2}
  clients := {p | Subscribed ops p.1 p.2 ∨ Requested ops p.1 p.2}
  told := {d | ∃ c, Subscribed ops c d}

section Operations

variable {ops : List (Op CT DIT)} {op : Op CT DIT}

omit [LinearOrder CT] [LinearOrder DIT]

lemma subscribed_snoc : Subscribed (ops ++ [op]) c d ↔
    Subscribed ops c d ∨ ∃ l, op = .subscribe l c ∧ d ∈ l := by
  simp only [Subscribed, List.mem_append, List.mem_singleton, or_and_right, exists_or]
  exact or_congr_right (exists_congr fun l => and_congr_left fun _ => eq_comm)

lemma requested_snoc : Requested (ops ++ [op]) c d ↔
    Requested ops c d ∨ ∃ l, op = .requestData l c ∧ d ∈ l := by
  simp only [Requested, List.mem_append, List.mem_singleton, or_and_right, exists_or]
  exact or_congr_right (exists_congr fun l => and_congr_left fun _ => eq_comm)

lemma SubscribedFirst.of_snoc (h : SubscribedFirst (ops ++ [op])) : SubscribedFirst ops := by
  intro before l c after hops
  exact h before l c (after ++ [op]) (by rw [hops, List.append_assoc, List.cons_append])

/-- Where no subscription comes after a request, every item is subscribed to first. -/
lemma subscribedFirst_of_pairwise
    (h : ops.Pairwise fun a b => ∀ l c l' c', ¬(a = .requestData l c ∧ b = .subscribe l' c')) :
    SubscribedFirst ops := by
  rintro before l c after rfl d _ ⟨other, l', hmem, _⟩
  exact absurd ⟨rfl, rfl⟩
    ((List.pairwise_append.mp h).2.2 _ hmem _ List.mem_cons_self l' other l c)

end Operations

omit [LinearOrder CT] [LinearOrder DIT] in
/-- **What asking comes to** depends only on who asks for what, if every item is subscribed to
first. -/
lemma sketch_asking {ops : List (Op CT DIT)} (h : SubscribedFirst ops) :
    ((ops.filter Op.isKept).filterMap Op.msg).foldl Msg.sketch ⟨∅, ∅, ∅⟩ = asking ops := by
  induction ops using List.reverseRecOn with
  | nil => ext <;> simp [asking, Subscribed, Requested]
  | append_singleton ops op ih =>
      rw [List.filter_append, List.filterMap_append, List.foldl_append, ih h.of_snoc]
      cases op with
      | subscribe l c =>
          have hnew : ∀ d ∈ l, (∃ other, Subscribed ops other d) ∨
              ∀ other, ¬(Subscribed ops other d ∨ Requested ops other d) := by
            intro d hd
            by_cases hrequested : ∃ other, Requested ops other d
            · exact Or.inl (h ops l c [] rfl d hd hrequested)
            · by_cases hsubscribed : ∃ other, Subscribed ops other d
              · exact Or.inl hsubscribed
              · right
                rintro other (hother | hother)
                · exact hsubscribed ⟨other, hother⟩
                · exact hrequested ⟨other, hother⟩
          show Msg.sketch (asking ops) (.handleSubscribeReq l c) =
            asking (ops ++ [Op.subscribe l c])
          ext x
          · simp [Msg.sketch, asking, asked, subscribed_snoc, requested_snoc, or_right_comm, eq_comm]
          · simp [Msg.sketch, asking, asked, subscribed_snoc, requested_snoc, or_right_comm, eq_comm]
          · have hx := hnew x
            simp only [Msg.sketch, asking, subscribed_snoc, exists_or, Set.mem_union,
              Set.mem_ofPred_eq, Op.subscribe.injEq]
            constructor
            · rintro (hold | ⟨hd, _⟩)
              · exact Or.inl hold
              · exact Or.inr ⟨c, l, ⟨rfl, rfl⟩, hd⟩
            · rintro (hold | ⟨_, _, ⟨rfl, rfl⟩, hd⟩)
              · exact Or.inl hold
              · exact (hx hd).imp_right fun hnone => ⟨hd, hnone⟩
      | requestData l c =>
          show Msg.sketch (asking ops) (.handleRequestData l c) =
            asking (ops ++ [Op.requestData l c])
          ext x <;> simp [Msg.sketch, asking, asked, subscribed_snoc, requested_snoc, or_assoc,
            eq_comm]
      | notify dlist =>
          show asking ops = asking (ops ++ [Op.notify dlist])
          ext x <;> simp [asking, subscribed_snoc, requested_snoc]
      | setSubscriptionObj | updateSubscription | unsubscribe | unsubscribeAll =>
          ext x <;> simp [Op.isKept, asking, subscribed_snoc, requested_snoc]

/-! ## The caches -/

/-- The caches hold what was asked for, and there is no subscription object. -/
structure Cached (s : ObserverSys CT DIT) (ops : List (Op CT DIT)) : Prop where
  unset : s.mSubscriptionObj = false
  subscribes : ∀ c d, d ∈ s.mSubscribeReqCache.listOf c ↔ Subscribed ops c d
  requests : ∀ c d, d ∈ s.mReqDataCache.listOf c ↔ Requested ops c d

/-- An operation other than setting the object. -/
lemma Cached.call {s : ObserverSys CT DIT} {ops : List (Op CT DIT)} {op : Op CT DIT}
    (H : Cached s ops) (hop : op ≠ .setSubscriptionObj) (hplain : op.Plain s) :
    Cached (s.call op) (ops ++ [op]) := by
  cases op with
  | setSubscriptionObj => exact absurd rfl hop
  | subscribe l c =>
      have hseen := hplain.resolve_left (Bool.eq_false_iff.mp H.unset)
      simp only [ObserverSys.call, H.unset, Bool.false_eq_true, ↓reduceIte]
      refine ⟨rfl, fun c' d => ?_, fun c' d => ?_⟩
      · rw [subscribed_snoc, ← H.subscribes]
        refine (ClientIndex.mem_add_iff hseen).trans (or_congr_right ?_)
        simp [eq_comm]
      · rw [requested_snoc, ← H.requests]
        simp
  | requestData l c =>
      have hseen := hplain.resolve_left (Bool.eq_false_iff.mp H.unset)
      simp only [ObserverSys.call, H.unset, Bool.false_eq_true, ↓reduceIte]
      refine ⟨rfl, fun c' d => ?_, fun c' d => ?_⟩
      · rw [subscribed_snoc, ← H.subscribes]
        simp
      · rw [requested_snoc, ← H.requests]
        refine (ClientIndex.mem_add_iff hseen).trans (or_congr_right ?_)
        simp [eq_comm]
  | updateSubscription | unsubscribe | unsubscribeAll =>
      simp only [ObserverSys.call, H.unset, Bool.false_eq_true, ↓reduceIte]
      refine ⟨H.unset, fun c' d => ?_, fun c' d => ?_⟩
      · rw [subscribed_snoc, ← H.subscribes]
        simp
      · rw [requested_snoc, ← H.requests]
        simp
  | notify dlist =>
      refine ⟨H.unset, fun c' d => ?_, fun c' d => ?_⟩
      · rw [subscribed_snoc, ← H.subscribes]
        simp [ObserverSys.call, ObserverSys.sendMsg]
      · rw [requested_snoc, ← H.requests]
        simp [ObserverSys.call, ObserverSys.sendMsg]

/-- Operations that come to the same as those before the subscription object was set: notifications
first, then the cached requests. -/
structure Replay (ops replay : List (Op CT DIT)) : Prop where
  kept : ∀ op ∈ replay, op.isKept = true
  first : SubscribedFirst replay
  subscribed : ∀ c d, Subscribed replay c d ↔ Subscribed ops c d
  requested : ∀ c d, Requested replay c d ↔ Requested ops c d

omit [LinearOrder DIT] in
/-- The calls for a cache. -/
lemma cached_eq_msgs (reqCache : ListMap CT DIT) (msg : List DIT → CT → Msg CT DIT)
    (op : List DIT → CT → Op CT DIT) (hop : ∀ l c, (op l c).msg = some (msg l c)) :
    ObserverSys.cached reqCache msg = ((reqCache.keys.insertionSort (· ≤ ·)).map fun client =>
      op (reqCache.listOf client) client).filterMap Op.msg := by
  rw [ObserverSys.cached, List.filterMap_map]
  simp [hop]

omit [LinearOrder DIT] in
/-- Every list of a map belongs to one of its keys. -/
lemma exists_key (reqCache : ListMap CT DIT) :
    (∃ client ∈ reqCache.keys.insertionSort (· ≤ ·),
      client = c ∧ d ∈ reqCache.listOf client) ↔ d ∈ reqCache.listOf c := by
  constructor
  · rintro ⟨_, _, rfl, hd⟩
    exact hd
  · intro hd
    refine ⟨c, (List.mem_insertionSort _).mpr (AList.mem_keys.mp ?_), rfl, hd⟩
    by_contra hnone
    rw [ListMap.listOf_of_none (AList.lookup_eq_none.mpr hnone)] at hd
    exact List.not_mem_nil hd

/-- What is called for the caches, after the notifications. -/
def replayOf (s : ObserverSys CT DIT) (ops : List (Op CT DIT)) : List (Op CT DIT) :=
  ops.filter (fun op => op matches .notify _) ++
    (s.mSubscribeReqCache.keys.insertionSort (· ≤ ·)).map
      (fun client => .subscribe (s.mSubscribeReqCache.listOf client) client) ++
    (s.mReqDataCache.keys.insertionSort (· ≤ ·)).map
      (fun client => .requestData (s.mReqDataCache.listOf client) client)

omit [LinearOrder DIT] in
lemma Cached.replay {s : ObserverSys CT DIT} {ops : List (Op CT DIT)} (H : Cached s ops) :
    Replay ops (replayOf s ops) where
  kept := by
    simp only [replayOf, List.mem_append, List.mem_filter, List.mem_map]
    rintro op ((⟨_, hop⟩ | ⟨client, _, rfl⟩) | ⟨client, _, rfl⟩)
    · cases op <;> simp [Op.isKept] at hop ⊢
    · rfl
    · rfl
  first := by
    have hask : ∀ l c, Op.requestData l c ∉ ops.filter (fun op => op matches .notify _) ++
        (s.mSubscribeReqCache.keys.insertionSort (· ≤ ·)).map
          fun client => Op.subscribe (s.mSubscribeReqCache.listOf client) client := by
      simp
    refine subscribedFirst_of_pairwise (List.pairwise_append.mpr ⟨?_, ?_, ?_⟩)
    · refine List.pairwise_of_forall_mem_list fun a ha _ _ l c _ _ => ?_
      rintro ⟨rfl, _⟩
      exact hask l c ha
    · refine List.pairwise_of_forall_mem_list fun _ _ b hb l c l' c' => ?_
      rintro ⟨_, rfl⟩
      simp at hb
    · rintro a ha _ _ l c _ _ ⟨rfl, _⟩
      exact hask l c ha
  subscribed c d := by
    rw [← H.subscribes, ← exists_key]
    simp only [Subscribed, replayOf, List.mem_append, List.mem_filter, List.mem_map,
      Op.subscribe.injEq, reduceCtorEq, and_false, false_or, or_false, exists_false]
    constructor
    · rintro ⟨_, ⟨client, hkey, rfl, rfl⟩, hd⟩
      exact ⟨client, hkey, rfl, hd⟩
    · rintro ⟨client, hkey, rfl, hd⟩
      exact ⟨_, ⟨client, hkey, rfl, rfl⟩, hd⟩
  requested c d := by
    rw [← H.requests, ← exists_key]
    simp only [Requested, replayOf, List.mem_append, List.mem_filter, List.mem_map,
      Op.requestData.injEq, reduceCtorEq, and_false, false_or, exists_false]
    constructor
    · rintro ⟨_, ⟨client, hkey, rfl, rfl⟩, hd⟩
      exact ⟨client, hkey, rfl, hd⟩
    · rintro ⟨client, hkey, rfl, hd⟩
      exact ⟨_, ⟨client, hkey, rfl, rfl⟩, hd⟩

/-! ## Runs -/

/-- The operations that were called. -/
def calls (as : List (Action CT DIT)) : List (Op CT DIT) :=
  as.filterMap fun
    | .call op => some op
    | .proc _ _ => none

/-- The messages that were processed. -/
def processed (as : List (Action CT DIT)) : List (Msg CT DIT) :=
  as.filterMap fun
    | .call _ => none
    | .proc msg _ => some msg

/-- Nothing is overlooked in an action. -/
def Action.Plain (s : Tracked CT DIT) : Action CT DIT → Prop
  | .call op => op.Plain s.toObserverSys
  | .proc msg _ => s.toSystemStatusOsObserver.Plain msg

instance (s : Tracked CT DIT) : (a : Action CT DIT) → Decidable (a.Plain s)
  | .call op => inferInstanceAs (Decidable (op.Plain s.toObserverSys))
  | .proc msg _ => inferInstanceAs (Decidable (s.toSystemStatusOsObserver.Plain msg))

/-- A tracked step that overlooks nothing. -/
def PlainStep (s : Tracked CT DIT) (a : Action CT DIT) (t : Tracked CT DIT) : Prop :=
  TrackedStep s a t ∧ a.Plain s

section Runs

variable {s t : Tracked CT DIT} {as : List (Action CT DIT)} {a : Action CT DIT}
  {pre post : List (Op CT DIT)}

/-- What a tracked step can do. -/
lemma trackedStep_cases (h : TrackedStep s a t) :
    (∃ op, a = .call op ∧ t = { s with toObserverSys := s.toObserverSys.call op }) ∨
    ∃ msg rest, s.msgs = msg :: rest ∧
      a = .proc msg (s.toSystemStatusOsObserver.proc msg).2 ∧
      t = ⟨{ s.toObserverSys with
          toSystemStatusOsObserver := (s.toSystemStatusOsObserver.proc msg).1
          msgs := rest }, msg.relate s.related, msg.stand s.standing,
        (s.toSystemStatusOsObserver.proc msg).2.foldl Call.tell s.framework⟩ := by
  obtain ⟨hstep, ht⟩ := h
  rw [ht]
  generalize t.toObserverSys = u at hstep
  cases hstep with
  | call op => exact Or.inl ⟨op, rfl, rfl⟩
  | proc hmsgs => exact Or.inr ⟨_, _, hmsgs, rfl, rfl⟩

/-- **The indexes and the framework are as sketched** by the messages that were processed. -/
lemma drawn_of_run (hr : Run PlainStep Tracked.init as s) :
    Drawn s.toSystemStatusOsObserver s.framework
      ((processed as).foldl Msg.sketch ⟨∅, ∅, ∅⟩) := by
  refine hr.history (P := fun as (s : Tracked CT DIT) => Drawn s.toSystemStatusOsObserver
    s.framework ((processed as).foldl Msg.sketch ⟨∅, ∅, ∅⟩)) ?_ ?_
  · rintro as s a t H ⟨hst, hplain⟩
    rcases trackedStep_cases hst with ⟨op, rfl, rfl⟩ | ⟨msg, rest, _, rfl, rfl⟩
    · have hsame : processed (as ++ [Action.call op]) = processed as := by simp [processed]
      rw [hsame]
      dsimp only
      rw [ObserverSys.call_observer]
      exact H
    · have hmore : ∀ out, processed (as ++ [Action.proc msg out]) = processed as ++ [msg] := by
        simp [processed]
      rw [hmore, List.foldl_append]
      exact H.proc hplain
  · exact ⟨by simp [Tracked.init, ObserverSys.init, processed],
      by simp [Tracked.init, ObserverSys.init, processed], by simp [Tracked.init, processed],
      by simp [Tracked.init, ObserverSys.init],
      by simpa [Tracked.init, ObserverSys.init] using ListMap.full_empty⟩

/-- Before the object is set, only notifications are posted. -/
lemma cached_of_run (hr : Run PlainStep Tracked.init as s)
    (hset : ∀ op ∈ calls as, op ≠ .setSubscriptionObj) :
    Cached s.toObserverSys (calls as) ∧ processed as ++ s.msgs =
      ((calls as).filter fun op => op matches .notify _).filterMap Op.msg := by
  revert hset
  refine hr.history (P := fun as (s : Tracked CT DIT) =>
    (∀ op ∈ calls as, op ≠ .setSubscriptionObj) →
      Cached s.toObserverSys (calls as) ∧ processed as ++ s.msgs =
        ((calls as).filter fun op => op matches .notify _).filterMap Op.msg) ?_ ?_
  · rintro as s a t ih ⟨hst, hplain⟩ hset
    rcases trackedStep_cases hst with ⟨op, rfl, rfl⟩ | ⟨msg, rest, hmsgs, rfl, rfl⟩
    · have hcalls : calls (as ++ [Action.call op]) = calls as ++ [op] := by simp [calls]
      have hsame : processed (as ++ [Action.call op]) = processed as := by simp [processed]
      rw [hcalls] at hset ⊢
      obtain ⟨hcached, hposted⟩ := ih fun op' hop' => hset op' (List.mem_append_left _ hop')
      have hop : op ≠ .setSubscriptionObj := hset op (List.mem_append_right _ List.mem_cons_self)
      refine ⟨hcached.call hop hplain, ?_⟩
      rw [hsame, List.filter_append, List.filterMap_append, ← hposted]
      cases op <;> simp [ObserverSys.call, ObserverSys.sendMsg, hcached.unset, Op.msg] at hop ⊢
    · have hcalls : ∀ out, calls (as ++ [Action.proc msg out]) = calls as := by simp [calls]
      have hmore : ∀ out, processed (as ++ [Action.proc msg out]) = processed as ++ [msg] := by
        simp [processed]
      rw [hcalls] at hset ⊢
      obtain ⟨hcached, hposted⟩ := ih hset
      refine ⟨⟨hcached.unset, hcached.subscribes, hcached.requests⟩, ?_⟩
      rw [hmore, ← hposted, hmsgs, List.append_assoc, List.singleton_append]
  · intro _
    refine ⟨⟨rfl, ?_, ?_⟩, rfl⟩
    · simp [Tracked.init, ObserverSys.init, calls, Subscribed]
    · simp [Tracked.init, ObserverSys.init, calls, Requested]

/-- An operation when there is a subscription object. -/
lemma call_of_set {u : ObserverSys CT DIT} {op : Op CT DIT} (hobj : u.mSubscriptionObj = true)
    (hop : op ≠ .setSubscriptionObj) :
    (u.call op).mSubscriptionObj = true ∧ (u.call op).msgs = u.msgs ++ [op].filterMap Op.msg := by
  cases op <;> simp [ObserverSys.call, ObserverSys.sendMsg, hobj, Op.msg] at hop ⊢

/-- What is posted when the object is set. -/
lemma msgs_set {u : ObserverSys CT DIT} {ms : List (Msg CT DIT)}
    (h : ms ++ u.msgs = (pre.filter fun op => op matches .notify _).filterMap Op.msg) :
    ms ++ (u.call .setSubscriptionObj).msgs = (replayOf u pre).filterMap Op.msg := by
  have hsubscribe := cached_eq_msgs u.mSubscribeReqCache .handleSubscribeReq .subscribe
    fun _ _ => rfl
  have hrequest := cached_eq_msgs u.mReqDataCache .handleRequestData .requestData fun _ _ => rfl
  rw [replayOf, List.filterMap_append, List.filterMap_append, ← h, ← hsubscribe, ← hrequest]
  simp only [ObserverSys.call, List.append_assoc]

/-- **What is posted altogether**: what comes to the same as the operations before the object was set,
and then all operations after. -/
lemma replay_of_run (hr : Run PlainStep Tracked.init as s)
    (hcalls : calls as = pre ++ .setSubscriptionObj :: post)
    (hpre : ∀ op ∈ pre, op ≠ .setSubscriptionObj)
    (hpost : ∀ op ∈ post, op ≠ .setSubscriptionObj) :
    s.mSubscriptionObj = true ∧ ∃ replay, Replay pre replay ∧
      processed as ++ s.msgs = (replay ++ post).filterMap Op.msg := by
  have hgo : Run PlainStep Tracked.init as s ∧ ∀ post,
      calls as = pre ++ .setSubscriptionObj :: post →
      (∀ op ∈ post, op ≠ .setSubscriptionObj) → s.mSubscriptionObj = true ∧
        ∃ replay, Replay pre replay ∧
          processed as ++ s.msgs = (replay ++ post).filterMap Op.msg := by
    refine hr.history (P := fun as (s : Tracked CT DIT) => Run PlainStep Tracked.init as s ∧
      ∀ post, calls as = pre ++ .setSubscriptionObj :: post →
        (∀ op ∈ post, op ≠ .setSubscriptionObj) → s.mSubscriptionObj = true ∧
          ∃ replay, Replay pre replay ∧
            processed as ++ s.msgs = (replay ++ post).filterMap Op.msg) ?_ ?_
    · rintro as s a t ⟨hrun, ih⟩ hst
      refine ⟨hrun.snoc hst, fun post hcalls hpost => ?_⟩
      rcases trackedStep_cases hst.1 with ⟨op, rfl, rfl⟩ | ⟨msg, rest, hmsgs, rfl, rfl⟩
      · have hsame : processed (as ++ [Action.call op]) = processed as := by simp [processed]
        have hmore : calls (as ++ [Action.call op]) = calls as ++ [op] := by simp [calls]
        rw [hmore] at hcalls
        rw [hsame]
        rcases post.eq_nil_or_concat with rfl | ⟨post, op', rfl⟩
        · -- the object is set now
          obtain ⟨rfl, hop⟩ := List.append_inj' hcalls rfl
          cases hop
          obtain ⟨hcached, hposted⟩ := cached_of_run hrun hpre
          refine ⟨rfl, replayOf s.toObserverSys (calls as), hcached.replay, ?_⟩
          rw [List.append_nil]
          exact msgs_set hposted
        · rw [List.concat_eq_append] at hcalls hpost ⊢
          rw [← List.cons_append, ← List.append_assoc] at hcalls
          obtain ⟨hbefore, hop⟩ := List.append_inj' hcalls rfl
          cases hop
          obtain ⟨hobj, replay, hreplay, hposted⟩ := ih post hbefore fun op' hop' =>
            hpost op' (List.mem_append_left _ hop')
          obtain ⟨hobj', hmsgs⟩ := call_of_set hobj
            (hpost op (List.mem_append_right _ List.mem_cons_self))
          refine ⟨hobj', replay, hreplay, ?_⟩
          dsimp only
          rw [hmsgs, ← List.append_assoc, hposted, ← List.append_assoc,
            List.filterMap_append (l := replay ++ post)]
      · have hsame : ∀ out, calls (as ++ [Action.proc msg out]) = calls as := by simp [calls]
        have hmore : ∀ out, processed (as ++ [Action.proc msg out]) = processed as ++ [msg] := by
          simp [processed]
        rw [hsame] at hcalls
        obtain ⟨hobj, replay, hreplay, hposted⟩ := ih post hcalls hpost
        refine ⟨hobj, replay, hreplay, ?_⟩
        rw [hmore, ← hposted, hmsgs, List.append_assoc, List.singleton_append]
    · refine ⟨.nil _, fun post hcalls => ?_⟩
      simp [calls] at hcalls
  exact hgo.2 post hcalls hpost

/-- What the messages of a run with the object set at some time sketch, all processed. -/
lemma sketch_of_run (hr : Run PlainStep Tracked.init as s)
    (hcalls : calls as = pre ++ .setSubscriptionObj :: post)
    (hpre : ∀ op ∈ pre, op ≠ .setSubscriptionObj)
    (hpost : ∀ op ∈ post, op ≠ .setSubscriptionObj) (hdone : s.msgs = []) :
    (processed as).foldl Msg.sketch ⟨∅, ∅, ∅⟩ =
      (post.filterMap Op.msg).foldl Msg.sketch (asking pre) := by
  obtain ⟨_, replay, hreplay, hposted⟩ := replay_of_run hr hcalls hpre hpost
  have hkept : replay.filter Op.isKept = replay := List.filter_eq_self.mpr hreplay.kept
  have hasking : asking replay = asking pre := by
    ext p
    · exact or_congr (hreplay.subscribed p.1 p.2) (hreplay.requested p.1 p.2)
    · exact or_congr (hreplay.subscribed p.1 p.2) (hreplay.requested p.1 p.2)
    · exact exists_congr fun c => hreplay.subscribed c p
  rw [hdone, List.append_nil] at hposted
  rw [hposted, List.filterMap_append, List.foldl_append, ← hasking, ← sketch_asking hreplay.first,
    hkept]

end Runs

/-- **A late subscription object changes nothing.**  In one run the object is set after some
operations, in the other one before them, and of these only those are made that are not turned down.
If nothing is overlooked in either, and every item among them is subscribed to before it is
requested, then with all messages processed both indexes relate the same clients and items, and the
same is subscribed with the framework. -/
theorem late_object_changes_nothing {s t : Tracked CT DIT} {as bs : List (Action CT DIT)}
    {pre post : List (Op CT DIT)} (hpre : ∀ op ∈ pre, op ≠ .setSubscriptionObj)
    (hpost : ∀ op ∈ post, op ≠ .setSubscriptionObj) (hfirst : SubscribedFirst pre)
    (hlate : Run PlainStep Tracked.init as s)
    (has : calls as = pre ++ .setSubscriptionObj :: post) (hs : s.msgs = [])
    (hearly : Run PlainStep Tracked.init bs t)
    (hbs : calls bs = .setSubscriptionObj :: (pre.filter Op.isKept ++ post)) (ht : t.msgs = []) :
    (∀ c d, d ∈ s.mClientIndex.listOf c ↔ d ∈ t.mClientIndex.listOf c) ∧
    (∀ c d, c ∈ s.mDataItemIndex.listOf d ↔ c ∈ t.mDataItemIndex.listOf d) ∧
    s.framework = t.framework := by
  have hkept : ∀ op ∈ pre.filter Op.isKept ++ post, op ≠ .setSubscriptionObj := by
    intro op hop
    rcases List.mem_append.mp hop with hop | hop
    · exact hpre op (List.mem_of_mem_filter hop)
    · exact hpost op hop
  have hempty : asking ([] : List (Op CT DIT)) = ⟨∅, ∅, ∅⟩ := by
    ext <;> simp [asking, Subscribed, Requested]
  have hbs' : calls bs = [] ++ .setSubscriptionObj :: (pre.filter Op.isKept ++ post) := hbs
  have hsame : (processed bs).foldl Msg.sketch ⟨∅, ∅, ∅⟩ =
      (processed as).foldl Msg.sketch ⟨∅, ∅, ∅⟩ := by
    rw [sketch_of_run hlate has hpre hpost hs,
      sketch_of_run hearly hbs' (by simp) hkept ht, List.filterMap_append,
      List.foldl_append, hempty, sketch_asking hfirst]
  have hdrawn := drawn_of_run hlate
  have hdrawn' := drawn_of_run hearly
  rw [hsame] at hdrawn'
  refine ⟨fun c d => ?_, fun c d => ?_, Finset.ext fun d => ?_⟩
  · rw [hdrawn.items, hdrawn'.items]
  · rw [hdrawn.clients, hdrawn'.clients]
  · rw [hdrawn.told, hdrawn'.told]

/-- The next tracked state where nothing is overlooked. -/
def Tracked.nextPlain (s : Tracked CT DIT) (p : Option (Op CT DIT)) :
    Option (Tracked CT DIT × Action CT DIT) :=
  (s.next p).filter fun q => decide (q.2.Plain s)

lemma plainStep_of_next {s : Tracked CT DIT} {p : Option (Op CT DIT)}
    {q : Tracked CT DIT × Action CT DIT} (h : s.nextPlain p = some q) : PlainStep s q.2 q.1 := by
  obtain ⟨hq, hplain⟩ := Option.filter_eq_some_iff.mp h
  exact ⟨trackedStep_of_next hq, of_decide_eq_true hplain⟩

/-- Two clients ask for items, one of them also gives an item back, before and after the object is
set. -/
theorem late_object_changes_nothing_two :
    ∃ p q, execBy Tracked.nextPlain Tracked.init
        [some (.subscribe [1, 2] 9), some (.subscribe [2] 7), some (.unsubscribe [1] 9),
          some (.requestData [3] 7), some .setSubscriptionObj, none, none, none,
          some (.unsubscribe [2] 9), some (.unsubscribeAll 7), none, none] = some p ∧
      execBy Tracked.nextPlain Tracked.init
        [some .setSubscriptionObj, some (.subscribe [1, 2] 9), none, some (.subscribe [2] 7), none,
          some (.requestData [3] 7), none, some (.unsubscribe [2] 9), none,
          some (.unsubscribeAll 7), none] = some q ∧
      (∀ c d, d ∈ p.1.mClientIndex.listOf c ↔ d ∈ q.1.mClientIndex.listOf c) ∧
      (∀ c d, c ∈ p.1.mDataItemIndex.listOf d ↔ c ∈ q.1.mDataItemIndex.listOf d) ∧
      p.1.framework = q.1.framework := by
  have hlate : ((execBy Tracked.nextPlain Tracked.init
      [some (.subscribe [1, 2] 9), some (.subscribe [2] 7), some (.unsubscribe [1] 9),
        some (.requestData [3] 7), some .setSubscriptionObj, none, none, none,
        some (.unsubscribe [2] 9), some (.unsubscribeAll 7), none, none]).map fun p => decide (
          calls p.2 = [Op.subscribe [1, 2] 9, .subscribe [2] 7, .unsubscribe [1] 9,
            .requestData [3] 7] ++ Op.setSubscriptionObj ::
              [Op.unsubscribe [2] 9, .unsubscribeAll 7] ∧ p.1.msgs = [])) = some true := by
    decide +kernel
  have hearly : ((execBy Tracked.nextPlain Tracked.init
      [some .setSubscriptionObj, some (.subscribe [1, 2] 9), none, some (.subscribe [2] 7), none,
        some (.requestData [3] 7), none, some (.unsubscribe [2] 9), none,
        some (.unsubscribeAll 7), none]).map fun p => decide (
          calls p.2 = Op.setSubscriptionObj :: ([Op.subscribe [1, 2] 9, .subscribe [2] 7,
            .unsubscribe [1] 9, .requestData [3] 7].filter Op.isKept ++
              [Op.unsubscribe [2] 9, .unsubscribeAll 7]) ∧ p.1.msgs = [])) = some true := by
    decide +kernel
  obtain ⟨p, hp, hpdec⟩ := Option.map_eq_some_iff.mp hlate
  obtain ⟨q, hq, hqdec⟩ := Option.map_eq_some_iff.mp hearly
  obtain ⟨hpcalls, hpdone⟩ := of_decide_eq_true hpdec
  obtain ⟨hqcalls, hqdone⟩ := of_decide_eq_true hqdec
  have hfirst : SubscribedFirst [Op.subscribe [1, 2] 9, .subscribe [2] 7, .unsubscribe [1] 9,
      .requestData [3] (7 : ℕ)] := subscribedFirst_of_pairwise (by simp)
  exact ⟨p, q, hp, hq, late_object_changes_nothing (by simp) (by simp) hfirst
    (Run.of_execBy (fun _ _ _ h => plainStep_of_next h) hp) hpcalls hpdone
    (Run.of_execBy (fun _ _ _ h => plainStep_of_next h) hq) hqcalls hqdone⟩

/-- **An item given back too early is not given back.**  A client subscribes to an item and gives it
back, before the object is set: the subscription is kept for later, and the other operation is
turned down. -/
theorem dropped_unsubscribe_shows :
    ¬∀ (pre post : List (Op ℕ ℕ)) (as bs : List (Action ℕ ℕ)) (s t : Tracked ℕ ℕ),
      (∀ op ∈ pre ++ post, op ≠ .setSubscriptionObj) →
      Run TrackedStep Tracked.init as s → calls as = pre ++ .setSubscriptionObj :: post →
      s.msgs = [] → Run TrackedStep Tracked.init bs t →
      calls bs = .setSubscriptionObj :: (pre ++ post) → t.msgs = [] →
        (∀ c d, d ∈ s.mClientIndex.listOf c ↔ d ∈ t.mClientIndex.listOf c) ∧
        (∀ c d, c ∈ s.mDataItemIndex.listOf d ↔ c ∈ t.mDataItemIndex.listOf d) ∧
        s.framework = t.framework := by
  intro hall
  have hlate : ((execBy Tracked.next Tracked.init [some (.subscribe [1] 7),
      some (.unsubscribe [1] 7), some .setSubscriptionObj, none]).map fun p => decide (
        calls p.2 = [Op.subscribe [1] 7, .unsubscribe [1] 7] ++ Op.setSubscriptionObj :: [] ∧
          p.1.msgs = [] ∧ p.1.framework = {1})) = some true := by
    decide +kernel
  have hearly : ((execBy Tracked.next Tracked.init [some .setSubscriptionObj,
      some (.subscribe [1] 7), some (.unsubscribe [1] 7), none, none]).map fun p => decide (
        calls p.2 = Op.setSubscriptionObj :: ([Op.subscribe [1] 7, .unsubscribe [1] 7] ++ []) ∧
          p.1.msgs = [] ∧ p.1.framework = ∅)) = some true := by
    decide +kernel
  obtain ⟨p, hp, hpdec⟩ := Option.map_eq_some_iff.mp hlate
  obtain ⟨q, hq, hqdec⟩ := Option.map_eq_some_iff.mp hearly
  obtain ⟨hpcalls, hpdone, hpframework⟩ := of_decide_eq_true hpdec
  obtain ⟨hqcalls, hqdone, hqframework⟩ := of_decide_eq_true hqdec
  have hsame := (hall _ _ p.2 q.2 p.1 q.1 (by simp)
    (Run.of_execBy (fun _ _ _ h => trackedStep_of_next h) hp) hpcalls hpdone
    (Run.of_execBy (fun _ _ _ h => trackedStep_of_next h) hq) hqcalls hqdone).2.2
  rw [hpframework, hqframework] at hsame
  cases Finset.singleton_ne_empty 1 hsame

end Gps.Observer
