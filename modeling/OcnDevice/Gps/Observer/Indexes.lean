import OcnDevice.Gps.Observer.Model

/-!
# What the operations of the indexes do

One lemma for each operation of the two indexes says what the list of every key is afterwards,
and what is returned.  `clientsLeft` is the list of a data item after one client was taken out of
it: the client is only found when everybody listed before it has a smaller address.
-/

open scoped SetAlgorithms

namespace Gps.Observer

variable {CT DIT : Type*} [LinearOrder CT] [LinearOrder DIT] {c c' : CT} {d d' : DIT}
  {l r : List DIT}

/-! ## The index of clients -/

namespace ClientIndex

variable {x : ClientIndex CT DIT}

lemma mem_add : d ∈ (x.add c l).1.listOf c ↔ d ∈ x.listOf c ∨
    (x.lookup c = none ∧ d ∈ l) ∨ d ∈ setDifference l (x.listOf c) :=
  ListMap.mem_addSorted

lemma listOf_add_ne (h : c' ≠ c) : (x.add c l).1.listOf c' = x.listOf c' :=
  ListMap.listOf_addSorted_ne h

lemma listOf_removeItems : (x.removeItems c r).1.listOf c =
    (x.listOf c).diff (setIntersection (x.listOf c) r) :=
  ListMap.listOf_removeFound

lemma listOf_removeItems_ne (h : c' ≠ c) : (x.removeItems c r).1.listOf c' = x.listOf c' :=
  ListMap.listOf_removeFound_ne h

omit [LinearOrder DIT] in
/-- A client with items is subscribed. -/
lemma isSubscribedClient_of_mem (h : d ∈ x.listOf c) : x.isSubscribedClient c = true := by
  rw [isSubscribedClient]
  cases hx : x.lookup c with
  | none =>
      rw [ListMap.listOf_of_none hx] at h
      exact absurd h List.not_mem_nil
  | some items => rfl

/-- What was not asked to be taken out stays. -/
lemma mem_removeItems (hd : d ∈ x.listOf c) (hr : d ∉ r) :
    d ∈ (x.removeItems c r).1.listOf c := by
  rw [listOf_removeItems]
  exact List.mem_diff_of_mem hd fun h => hr (mem_of_mem_setIntersection h)

/-- An item is gone when all its copies are found. -/
lemma mem_removeItems_iff : d ∈ (x.removeItems c r).1.listOf c ↔
    (setIntersection (x.listOf c) r).count d < (x.listOf c).count d := by
  rw [listOf_removeItems, ← List.count_pos_iff, List.count_diff]
  omega

end ClientIndex

/-! ## The index of data items -/

/-- The clients of a data item after one was taken out. -/
def clientsLeft (c : CT) (clients : List CT) : List CT :=
  clients.diff (setIntersection clients [c])

section ClientsLeft

variable {clients : List CT}

variable (c clients) in
lemma setIntersection_singleton : setIntersection clients [c] = [] ∨
    setIntersection clients [c] = [c] := by
  induction clients with
  | nil => exact Or.inl rfl
  | cons a clients ih =>
      have hnil : setIntersection clients [] = [] := by
        cases clients <;> simp [setIntersection]
      rw [setIntersection]
      rcases lt_trichotomy a c with h | rfl | h
      · simpa [List.dropWhile_cons, h, h.not_gt] using ih
      · simp [hnil]
      · simp [h]

variable (c clients) in
/-- Nothing happens, or the first copy of the client goes. -/
lemma clientsLeft_cases : (c ∉ setIntersection clients [c] ∧ clientsLeft c clients = clients) ∨
    (c ∈ setIntersection clients [c] ∧ clientsLeft c clients = clients.erase c) := by
  rcases setIntersection_singleton c clients with h | h
  · exact Or.inl ⟨by simp [h], by simp [clientsLeft, h]⟩
  · exact Or.inr ⟨by simp [h], by simp [clientsLeft, h]⟩

lemma nodup_clientsLeft (h : clients.Nodup) : (clientsLeft c clients).Nodup := h.diff

/-- Others stay. -/
lemma mem_clientsLeft_of_ne (h : c' ≠ c) : c' ∈ clientsLeft c clients ↔ c' ∈ clients := by
  rcases clientsLeft_cases c clients with ⟨-, hc⟩ | ⟨-, hc⟩
  · rw [hc]
  · rw [hc, List.mem_erase_of_ne h]

/-- The client is still listed when it was not found. -/
lemma mem_clientsLeft_self (h : clients.Nodup) :
    c ∈ clientsLeft c clients ↔ c ∈ clients ∧ ¬∀ x ∈ clients.takeWhile (· ≠ c), x < c := by
  by_cases hmem : c ∈ clients
  · rw [← mem_setIntersection_singleton hmem]
    rcases clientsLeft_cases c clients with ⟨hc, heq⟩ | ⟨hc, heq⟩
    · simp [heq, hmem, hc]
    · simp [heq, hc, h.not_mem_erase]
  · simp only [hmem, false_and, iff_false]
    exact fun hc => hmem (List.diff_subset _ _ hc)

/-- Taking a client out twice is taking it out once. -/
lemma clientsLeft_clientsLeft (h : clients.Nodup) :
    clientsLeft c (clientsLeft c clients) = clientsLeft c clients := by
  rcases clientsLeft_cases c clients with ⟨-, hc⟩ | ⟨-, hc⟩
  · rw [hc, hc]
  · have hnot : c ∉ clients.erase c := h.not_mem_erase
    rcases clientsLeft_cases c (clientsLeft c clients) with ⟨-, hc'⟩ | ⟨-, hc'⟩
    · exact hc'
    · rw [hc', hc, List.erase_of_not_mem hnot]

/-- The last client leaves. -/
lemma clientsLeft_eq_nil : clientsLeft c clients = [] ↔ clients = [] ∨ clients = [c] := by
  constructor
  · intro h
    rcases clientsLeft_cases c clients with ⟨-, hc⟩ | ⟨hc, heq⟩
    · exact Or.inl (hc ▸ h)
    · rw [heq, List.erase_eq_nil_iff] at h
      exact h
  · rintro (rfl | rfl)
    · rfl
    · simp [clientsLeft, setIntersection]

end ClientsLeft

namespace DataItemIndex

variable {x : DataItemIndex CT DIT}

lemma listOf_removeFrom : (x.removeFrom d [c]).1.listOf d = clientsLeft c (x.listOf d) :=
  ListMap.listOf_removeFound

lemma listOf_removeFrom_ne (h : d' ≠ d) : (x.removeFrom d [c]).1.listOf d' = x.listOf d' :=
  ListMap.listOf_removeFound_ne h

/-- One pass of `add`. -/
lemma addPass_spec {p : DataItemIndex CT DIT × List DIT} :
    ((addPass c p d).1.listOf d = if c ∈ p.1.listOf d then p.1.listOf d else p.1.listOf d ++ [c]) ∧
      (∀ d', d' ≠ d → (addPass c p d).1.listOf d' = p.1.listOf d' ∧
        (addPass c p d).1.lookup d' = p.1.lookup d') ∧
      (addPass c p d).1.lookup d ≠ none ∧
      (addPass c p d).2 = p.2 ++ if p.1.lookup d = none then [d] else [] := by
  rw [addPass]
  cases hx : p.1.lookup d with
  | none =>
      refine ⟨?_, fun d' hd' => ⟨ListMap.listOf_insert_ne hd', AList.lookup_insert_ne hd'⟩, ?_, ?_⟩
      · simp [ListMap.listOf_of_none hx]
      · simp
      · simp
  | some clients =>
      dsimp only
      rw [ListMap.listOf_of_some hx]
      by_cases hc : c ∈ clients
      · rw [if_pos hc, if_pos hc]
        exact ⟨ListMap.listOf_of_some hx, fun _ _ => ⟨rfl, rfl⟩, by simp [hx], by simp⟩
      · rw [if_neg hc, if_neg hc]
        exact ⟨by simp, fun d' hd' => ⟨ListMap.listOf_insert_ne hd', AList.lookup_insert_ne hd'⟩,
          by simp, by simp⟩

/-- **A client is added** to the lists of items: at the end, where it is not yet. -/
lemma add_spec : (∀ d, (x.add c l).1.listOf d =
      if d ∈ l ∧ c ∉ x.listOf d then x.listOf d ++ [c] else x.listOf d) ∧
    (∀ d, (x.add c l).1.lookup d = none ↔ d ∉ l ∧ x.lookup d = none) ∧
    ∀ d, d ∈ (x.add c l).2 ↔ d ∈ l ∧ x.lookup d = none := by
  induction l using List.reverseRecOn with
  | nil => simp [add]
  | append_singleton l a ih =>
      obtain ⟨hlist, hkey, hout⟩ := ih
      have hfold : x.add c (l ++ [a]) = addPass c (x.add c l) a := by simp [add]
      obtain ⟨hself, hne, hsome, hpush⟩ := addPass_spec (c := c) (d := a) (p := x.add c l)
      rw [hfold]
      refine ⟨fun d => ?_, fun d => ?_, fun d => ?_⟩
      · by_cases hd : d = a
        · subst hd
          rw [hself, hlist d]
          by_cases hc : c ∈ x.listOf d
          · simp [hc]
          · by_cases hl : d ∈ l <;> simp [hc, hl]
        · rw [(hne d hd).1, hlist d]
          simp [hd]
      · by_cases hd : d = a
        · subst hd
          simp [hsome]
        · rw [(hne d hd).2, hkey d]
          simp [hd]
      · rw [hpush, List.mem_append, hout d]
        by_cases hd : d = a
        · subst hd
          split_ifs with hnone
          · simp [((hkey d).mp hnone).2]
          · simp only [hkey d, not_and] at hnone
            simp only [List.not_mem_nil, or_false, List.mem_append, List.mem_singleton, or_true,
              true_and]
            exact ⟨And.right, fun h => ⟨by_contra fun hl => hnone hl h, h⟩⟩
        · have hmem : d ∉ (if (x.add c l).1.lookup a = none then [a] else []) := by
            split_ifs <;> simp [hd]
          simp [hmem, hd]

/-- No client is listed twice. -/
lemma nodup_add (h : ∀ d, (x.listOf d).Nodup) (d : DIT) : ((x.add c l).1.listOf d).Nodup := by
  rw [add_spec.1]
  split_ifs with hd
  · exact (h d).append (List.nodup_singleton c) (by simpa using hd.2)
  · exact h d

end DataItemIndex

/-- **A client is taken out** of the lists of items by `HandleUnsubscribeReq`. -/
lemma unsubscribePasses_spec {x : DataItemIndex CT DIT} (hx : ∀ d, (x.listOf d).Nodup) :
    (∀ d, (l.foldl (SystemStatusOsObserver.unsubscribePass c) (x, [])).1.listOf d =
      if d ∈ l then clientsLeft c (x.listOf d) else x.listOf d) ∧
    ∀ d, d ∈ (l.foldl (SystemStatusOsObserver.unsubscribePass c) (x, [])).2 ↔
      d ∈ l ∧ clientsLeft c (x.listOf d) = [] := by
  induction l using List.reverseRecOn with
  | nil => simp
  | append_singleton l a ih =>
      rw [List.foldl_append, List.foldl_cons, List.foldl_nil]
      obtain ⟨hlist, hout⟩ := ih
      set p := l.foldl (SystemStatusOsObserver.unsubscribePass c) (x, [])
      have hself : (p.1.removeFrom a [c]).1.listOf a = clientsLeft c (x.listOf a) := by
        rw [DataItemIndex.listOf_removeFrom, hlist a]
        split_ifs
        · exact clientsLeft_clientsLeft (hx a)
        · rfl
      refine ⟨fun d => ?_, fun d => ?_⟩
      · show (p.1.removeFrom a [c]).1.listOf d = _
        by_cases hd : d = a
        · subst hd
          rw [hself]
          simp
        · rw [DataItemIndex.listOf_removeFrom_ne hd, hlist d]
          simp [hd]
      · show d ∈ (if (p.1.removeFrom a [c]).1.listOf a = [] then p.2 ++ [a] else p.2) ↔ _
        rw [hself]
        split_ifs with hnil
        · rw [List.mem_append, hout d, List.mem_append]
          by_cases hd : d = a
          · subst hd
            simp [hnil]
          · simp [hd]
        · rw [hout d, List.mem_append]
          by_cases hd : d = a
          · subst hd
            simp [hnil]
          · simp [hd]

lemma nodup_unsubscribePasses {x : DataItemIndex CT DIT} (h : ∀ d, (x.listOf d).Nodup) (d : DIT) :
    ((l.foldl (SystemStatusOsObserver.unsubscribePass c) (x, [])).1.listOf d).Nodup := by
  rw [(unsubscribePasses_spec h).1]
  split_ifs
  · exact nodup_clientsLeft (h d)
  · exact h d

end Gps.Observer
