import OcnDevice.Ipacm.OffloadManager.Upstream

/-!
# Requests that wait

A request for an interface that is not ready waits in the event cache, and is made again when the
interface becomes ready.  To say that this changes nothing, a run is compared with the *reference
run*: the same calls, with every interface ready from the start.

The two agree up to the requests that wait (`Deferred`): what the reference run has posted for a
downstream is what was posted for it and then the additions that wait, and the reference run's
upstream is what the request that waits would make of the upstream there is.  A request that
supersedes one that waits does not take it out of the cache, which is what `OffloadOp.Fits` rules
out.
-/

namespace Ipacm

/-! ## What waits -/

/-- Whether a request for an interface has to wait. -/
def OffloadSys.waits (s : OffloadSys) : FrameworkEvent → Bool
  | .downstreamAdd name pfx => s.cacheNeed name .v4 pfx ∨ s.cacheNeed name .v6 pfx
  | .upstreamRouteAdd name v4 v6 => s.cacheNeed name .v4 v4 ∨ s.cacheNeed name .v6 v6

/-- The requests in the cache. -/
def OffloadSys.parked (s : OffloadSys) : Multiset FrameworkEvent :=
  (Multiset.range maxEventCache).filterMap s.mgr.eventCache

/-- Is this a request for an upstream? -/
def FrameworkEvent.isUp (e : FrameworkEvent) : Bool := OffloadSys.isUpstream (some e)

/-- Does a request add the downstream with this index and prefix? -/
def FrameworkEvent.adds (devs : NetDevs) (key : ℤ × Prefix) : FrameworkEvent → Bool
  | .downstreamAdd name pfx => devs.index name = some key.1 ∧ pfx = key.2
  | .upstreamRouteAdd _ _ _ => false

/-- There is a free slot in the cache. -/
def OffloadSys.HasFree (s : OffloadSys) : Prop :=
  ∃ i < maxEventCache, s.mgr.eventCache i = none

instance (s : OffloadSys) : Decidable s.HasFree := by
  unfold OffloadSys.HasFree
  infer_instance

section Cache

variable {s s' r : OffloadSys} {e : FrameworkEvent} {m : OffloadManager} {n i : ℕ}
  {devs : NetDevs} {name : String} {t : IpType}

lemma OffloadSys.mem_parked : e ∈ s.parked ↔ ∃ i < maxEventCache, s.mgr.eventCache i = some e := by
  simp [OffloadSys.parked, Multiset.mem_filterMap]

/-- Writing a slot that was free. -/
lemma OffloadSys.parked_fill (hi : i < maxEventCache) (hfree : s.mgr.eventCache i = none)
    (hs' : s'.mgr.eventCache = Function.update s.mgr.eventCache i (some e)) :
    s'.parked = e ::ₘ s.parked := by
  unfold OffloadSys.parked
  have hmem : i ∈ Multiset.range maxEventCache := Multiset.mem_range.mpr hi
  obtain ⟨rest, hrest⟩ := Multiset.exists_cons_of_mem hmem
  have hnot : i ∉ rest := by
    have := Multiset.nodup_range maxEventCache
    rw [hrest] at this
    exact (Multiset.nodup_cons.mp this).1
  have hsame : rest.filterMap s'.mgr.eventCache = rest.filterMap s.mgr.eventCache := by
    have hval : ∀ j ∈ rest, s'.mgr.eventCache j = s.mgr.eventCache j := fun j hj => by
      rw [hs', Function.update_of_ne]
      rintro rfl
      exact hnot hj
    induction rest using Quotient.inductionOn with
    | _ l => exact congrArg _ (List.filterMap_congr hval)
  rw [hrest, Multiset.filterMap_cons_some _ _ _ (b := e) (by rw [hs', Function.update_self]),
    Multiset.filterMap_cons_none _ _ hfree, hsame]

/-- Clearing a slot. -/
lemma OffloadSys.parked_clearSlot (hi : i < maxEventCache) (he : s.mgr.eventCache i = some e) :
    s.parked = e ::ₘ (s.clearSlot i).parked := by
  refine OffloadSys.parked_fill hi (Function.update_self ..) ?_
  change s.mgr.eventCache = Function.update (Function.update s.mgr.eventCache i none) i (some e)
  rw [Function.update_idem, ← he, Function.update_eq_self]

/-- The search for a free slot ends at one, or has looked at slots in use only. -/
lemma OffloadSys.cacheFrom_cases (hl : m.latestCacheIndex < maxEventCache) :
    (∃ i < maxEventCache, ∃ l < maxEventCache, m.eventCache i = none ∧
      OffloadSys.cacheFrom e n m = (true, { m with
        eventCache := Function.update m.eventCache i (some e), latestCacheIndex := l })) ∨
    ∀ k < n, m.eventCache ((m.latestCacheIndex + k) % maxEventCache) ≠ none := by
  have hpos : 0 < maxEventCache := by decide
  induction n generalizing m with
  | zero => exact Or.inr fun k hk => absurd hk (Nat.not_lt_zero k)
  | succ n ih =>
      cases hslot : m.eventCache m.latestCacheIndex with
      | none =>
          refine Or.inl ⟨m.latestCacheIndex, hl, (m.latestCacheIndex + 1) % maxEventCache,
            Nat.mod_lt _ hpos, hslot, ?_⟩
          simp only [OffloadSys.cacheFrom, hslot]
      | some e' =>
          have hnext : OffloadSys.cacheFrom e (n + 1) m = OffloadSys.cacheFrom e n
              { m with latestCacheIndex := (m.latestCacheIndex + 1) % maxEventCache } := by
            simp only [OffloadSys.cacheFrom, hslot]
          rw [hnext]
          rcases ih (m := { m with
            latestCacheIndex := (m.latestCacheIndex + 1) % maxEventCache }) (Nat.mod_lt _ hpos) with
            ⟨i, hi, l, hl', hfree, heq⟩ | hall
          · exact Or.inl ⟨i, hi, l, hl', hfree, heq⟩
          · refine Or.inr fun k hk => ?_
            cases k with
            | zero => simp [Nat.mod_eq_of_lt hl, hslot]
            | succ k =>
                have := hall k (Nat.lt_of_succ_lt_succ hk)
                rwa [Nat.mod_add_mod, show m.latestCacheIndex + 1 + k =
                  m.latestCacheIndex + (k + 1) from by omega] at this

/-- **A request that waits joins the others**, when there is room. -/
lemma OffloadSys.cacheEvent_spec (hl : s.mgr.latestCacheIndex < maxEventCache) (hfree : s.HasFree) :
    ∃ i < maxEventCache, ∃ l < maxEventCache, s.mgr.eventCache i = none ∧
      (s.cacheEvent e).2 = { s with mgr := { s.mgr with
        eventCache := Function.update s.mgr.eventCache i (some e), latestCacheIndex := l } } ∧
      (s.cacheEvent e).2.parked = e ::ₘ s.parked := by
  rcases OffloadSys.cacheFrom_cases (e := e) (n := maxEventCache) hl with
    ⟨i, hi, l, hl', hnone, heq⟩ | hall
  · have hs : (s.cacheEvent e).2 = { s with mgr := { s.mgr with
        eventCache := Function.update s.mgr.eventCache i (some e), latestCacheIndex := l } } := by
      rw [OffloadSys.cacheEvent_eq, heq]
    refine ⟨i, hi, l, hl', hnone, hs, OffloadSys.parked_fill hi hnone ?_⟩
    rw [hs]
  · -- ten slots from any one on are all of them
    obtain ⟨i, hi, hnone⟩ := hfree
    have hk := hall ((i + maxEventCache - s.mgr.latestCacheIndex) % maxEventCache)
      (Nat.mod_lt _ (by decide))
    have hidx : (s.mgr.latestCacheIndex +
        (i + maxEventCache - s.mgr.latestCacheIndex) % maxEventCache) % maxEventCache = i := by
      unfold maxEventCache at hl hi ⊢
      omega
    rw [hidx] at hk
    exact absurd hnone hk

end Cache

/-! ## The upstream part of the state -/

/-- Two states agree on the upstream. -/
structure OffloadSys.SameUp (s r : OffloadSys) : Prop where
  up : s.mgr.upstreamUp = r.mgr.upstreamUp
  gw : s.mgr.defaultGwIndex = r.mgr.defaultGwIndex

/-- Two states agree on everything but the upstream and the events of its routes. -/
structure OffloadSys.SameRest (s r : OffloadSys) : Prop where
  cache : s.mgr.eventCache = r.mgr.eventCache
  latest : s.mgr.latestCacheIndex = r.mgr.latestCacheIndex
  valid : s.mgr.validIfaces = r.mgr.validIfaces
  ready : s.ready = r.ready

/-- What was posted for a downstream: additions and deletions, in order. -/
def dsEvents (key : ℤ × Prefix) (evts : List OffloadEvt) : List Bool :=
  evts.filterMap fun evt =>
    match evt with
    | .downstream add index pfx => if (index, pfx) = key then some add else none
    | .route _ _ _ _ => none

section Upstream

variable {s s' r r' : OffloadSys} {t t' : IpType} {gw v4 v6 : Prefix} {index : ℤ} {evt : OffloadEvt}
  {key : ℤ × Prefix} {i : ℕ}

lemma OffloadSys.SameUp.refl : s.SameUp s := ⟨rfl, rfl⟩

lemma OffloadSys.SameUp.trans (h : s.SameUp s') (h' : s'.SameUp r) : s.SameUp r :=
  ⟨h.up.trans h'.up, h.gw.trans h'.gw⟩

lemma OffloadSys.SameUp.symm (h : s.SameUp r) : r.SameUp s := ⟨h.up.symm, h.gw.symm⟩

lemma OffloadSys.SameRest.refl : s.SameRest s := ⟨rfl, rfl, rfl, rfl⟩

lemma OffloadSys.SameRest.trans (h : s.SameRest s') (h' : s'.SameRest r) : s.SameRest r :=
  ⟨h.cache.trans h'.cache, h.latest.trans h'.latest, h.valid.trans h'.valid,
    h.ready.trans h'.ready⟩

lemma dsEvents_postEvt : dsEvents key (s.postEvt evt).evts = dsEvents key s.evts ++
    (match evt with
      | .downstream add index pfx => if (index, pfx) = key then [add] else []
      | .route _ _ _ _ => []) := by
  unfold dsEvents OffloadSys.postEvt
  rw [List.filterMap_append]
  cases evt with
  | downstream add index pfx => by_cases h : (index, pfx) = key <;> simp [h]
  | route add t index gw => simp

/-- Cleaning a family is the same in states that agree on the upstream, and leaves the rest. -/
lemma OffloadSys.SameUp.delRoute (h : s.SameUp r) : (s.delRoute t gw).SameUp (r.delRoute t gw) := by
  unfold OffloadSys.delRoute
  rw [h.up]
  split_ifs
  · refine ⟨?_, h.gw⟩
    change Function.update s.mgr.upstreamUp t false = Function.update r.mgr.upstreamUp t false
    rw [h.up]
  · exact h

lemma OffloadSys.delRoute_rest (s : OffloadSys) (t : IpType) (gw : Prefix) (key : ℤ × Prefix) :
    (s.delRoute t gw).SameRest s ∧
    dsEvents key (s.delRoute t gw).evts = dsEvents key s.evts := by
  unfold OffloadSys.delRoute
  split_ifs
  · exact ⟨⟨rfl, rfl, rfl, rfl⟩, dsEvents_postEvt.trans (List.append_nil _)⟩
  · exact ⟨.refl, rfl⟩

lemma OffloadSys.SameUp.addRoute (h : s.SameUp r) :
    (s.addRoute t index gw).SameUp (r.addRoute t index gw) := by
  unfold OffloadSys.addRoute
  rw [h.up]
  split_ifs
  · exact h
  · exact h
  · refine ⟨?_, h.gw⟩
    change Function.update s.mgr.upstreamUp t true = Function.update r.mgr.upstreamUp t true
    rw [h.up]

lemma OffloadSys.addRoute_rest (s : OffloadSys) (t : IpType) (index : ℤ) (gw : Prefix)
    (key : ℤ × Prefix) : (s.addRoute t index gw).SameRest s ∧
    dsEvents key (s.addRoute t index gw).evts = dsEvents key s.evts := by
  unfold OffloadSys.addRoute
  split_ifs
  · exact ⟨.refl, rfl⟩
  · exact ⟨.refl, rfl⟩
  · exact ⟨⟨rfl, rfl, rfl, rfl⟩, dsEvents_postEvt.trans (List.append_nil _)⟩

lemma OffloadSys.SameUp.switchUpstream (index : ℤ) (v4 v6 : Prefix) (h : s.SameUp r) :
    (s.switchUpstream index v4 v6).SameUp (r.switchUpstream index v4 v6) := by
  unfold OffloadSys.switchUpstream
  rw [h.gw]
  split_ifs
  · exact ⟨h.delRoute.delRoute.up, rfl⟩
  · exact h

lemma OffloadSys.switchUpstream_rest (s : OffloadSys) (index : ℤ) (v4 v6 : Prefix)
    (key : ℤ × Prefix) : (s.switchUpstream index v4 v6).SameRest s ∧
    dsEvents key (s.switchUpstream index v4 v6).evts = dsEvents key s.evts := by
  unfold OffloadSys.switchUpstream
  split_ifs
  · obtain ⟨h1, e1⟩ := s.delRoute_rest .v4 v4 key
    obtain ⟨h2, e2⟩ := (s.delRoute .v4 v4).delRoute_rest .v6 v6 key
    have h3 := h2.trans h1
    exact ⟨⟨h3.cache, h3.latest, h3.valid, h3.ready⟩, e2.trans e1⟩
  · exact ⟨.refl, rfl⟩

lemma OffloadSys.SameUp.addOneRoute (h : s.SameUp r) :
    (s.addOneRoute t t' index v4 v6).2.SameUp (r.addOneRoute t t' index v4 v6).2 := by
  unfold OffloadSys.addOneRoute
  simp only [h.up, h.gw]
  split_ifs
  · exact h.delRoute.addRoute
  · exact h.addRoute

lemma OffloadSys.addOneRoute_rest (s : OffloadSys) (t t' : IpType) (index : ℤ) (v4 v6 : Prefix)
    (key : ℤ × Prefix) : (s.addOneRoute t t' index v4 v6).2.SameRest s ∧
    dsEvents key (s.addOneRoute t t' index v4 v6).2.evts = dsEvents key s.evts := by
  unfold OffloadSys.addOneRoute
  simp only
  split_ifs
  · obtain ⟨h1, e1⟩ := s.delRoute_rest t' v6 key
    obtain ⟨h2, e2⟩ := (s.delRoute t' v6).addRoute_rest t index v4 key
    exact ⟨h2.trans h1, e2.trans e1⟩
  · exact s.addRoute_rest t index v4 key

/-- **Setting an upstream that is ready** is the same in states that agree on the upstream. -/
lemma OffloadSys.SameUp.setUpstreamReady (h : s.SameUp r) :
    (s.setUpstreamReady index v4 v6).2.SameUp (r.setUpstreamReady index v4 v6).2 := by
  have hs := h.switchUpstream index v4 v6
  refine ⟨?_, rfl⟩
  change ((s.switchUpstream index v4 v6).addRoutes index v4 v6).2.mgr.upstreamUp =
    ((r.switchUpstream index v4 v6).addRoutes index v4 v6).2.mgr.upstreamUp
  unfold OffloadSys.addRoutes
  split_ifs
  · exact hs.addRoute.addRoute.up
  · exact hs.addOneRoute.up
  · exact hs.addOneRoute.up
  · exact hs.up

lemma OffloadSys.setUpstreamReady_rest (s : OffloadSys) (index : ℤ) (v4 v6 : Prefix)
    (key : ℤ × Prefix) : (s.setUpstreamReady index v4 v6).2.SameRest s ∧
    dsEvents key (s.setUpstreamReady index v4 v6).2.evts = dsEvents key s.evts := by
  obtain ⟨h1, e1⟩ := s.switchUpstream_rest index v4 v6 key
  have h2 : ((s.switchUpstream index v4 v6).addRoutes index v4 v6).2.SameRest
        (s.switchUpstream index v4 v6) ∧
      dsEvents key ((s.switchUpstream index v4 v6).addRoutes index v4 v6).2.evts =
        dsEvents key (s.switchUpstream index v4 v6).evts := by
    unfold OffloadSys.addRoutes
    split_ifs
    · obtain ⟨a1, b1⟩ := (s.switchUpstream index v4 v6).addRoute_rest .v4 index v4 key
      obtain ⟨a2, b2⟩ :=
        ((s.switchUpstream index v4 v6).addRoute .v4 index v4).addRoute_rest .v6 index v6 key
      exact ⟨a2.trans a1, b2.trans b1⟩
    · exact OffloadSys.addOneRoute_rest _ _ _ _ _ _ key
    · exact OffloadSys.addOneRoute_rest _ _ _ _ _ _ key
    · exact ⟨.refl, rfl⟩
  obtain ⟨h2, e2⟩ := h2
  have h3 := h2.trans h1
  exact ⟨⟨h3.cache, h3.latest, h3.valid, h3.ready⟩, e2.trans e1⟩

/-- From nothing, an upstream comes up for the families that the call mentions. -/
lemma OffloadSys.setUpstreamReady_up (index : ℤ) (v4 v6 : Prefix)
    (hdown : ∀ t, s.mgr.upstreamUp t = false) :
    ((s.setUpstreamReady index v4 v6).2.mgr.upstreamUp .v4 = true → v4.fam = .v4) ∧
      ((s.setUpstreamReady index v4 v6).2.mgr.upstreamUp .v6 = true →
        v6.fam = .v6 ∧ v6.v6Addr ≠ (0, 0, 0, 0)) := by
  have hdel : ∀ t p, s.delRoute t p = s := fun t p => by
    unfold OffloadSys.delRoute
    rw [hdown t]
    rfl
  have hs : (s.switchUpstream index v4 v6).mgr.upstreamUp = s.mgr.upstreamUp := by
    unfold OffloadSys.switchUpstream
    rw [hdel, hdel]
    split_ifs <;> rfl
  change (((s.switchUpstream index v4 v6).addRoutes index v4 v6).2.mgr.upstreamUp .v4 = true → _) ∧
    (((s.switchUpstream index v4 v6).addRoutes index v4 v6).2.mgr.upstreamUp .v6 = true → _)
  set u := s.switchUpstream index v4 v6
  have hu : ∀ t, u.mgr.upstreamUp t = false := fun t => by rw [hs, hdown]
  -- what one addition does
  have hadd : ∀ {w : OffloadSys} {t t' : IpType} {p : Prefix},
      (w.addRoute t index p).mgr.upstreamUp t' = true → w.mgr.upstreamUp t' = true ∨
        (t' = t ∧ ¬ (t = .v6 ∧ p.v6Addr = (0, 0, 0, 0))) := by
    intro w t t' p h
    unfold OffloadSys.addRoute at h
    split_ifs at h with h1 h2
    · exact Or.inl h
    · exact Or.inl h
    · by_cases ht : t' = t
      · exact Or.inr ⟨ht, h2⟩
      · left
        change Function.update w.mgr.upstreamUp t true t' = true at h
        rwa [Function.update_of_ne ht] at h
  have hone : ∀ {t other : IpType} {p q : Prefix}, u.addOneRoute t other index p q =
      (.success, u.addRoute t index p) := by
    intro t other p q
    unfold OffloadSys.addOneRoute
    simp [hu]
  unfold OffloadSys.addRoutes
  split_ifs with hb h4 h6
  · refine ⟨fun _ => hb.1, fun h => ⟨hb.2, fun hz => ?_⟩⟩
    rcases hadd h with h | ⟨-, hnz⟩
    · rcases hadd h with h | ⟨ht, -⟩
      · simp [hu] at h
      · simp at ht
    · exact hnz ⟨rfl, hz⟩
  · rw [hone]
    refine ⟨fun _ => h4, fun h => ?_⟩
    rcases hadd h with h | ⟨ht, -⟩
    · simp [hu] at h
    · simp at ht
  · rw [hone]
    refine ⟨fun h => ?_, fun h => ⟨h6, fun hz => ?_⟩⟩
    · rcases hadd h with h | ⟨ht, -⟩
      · simp [hu] at h
      · simp at ht
    · rcases hadd h with h | ⟨-, hnz⟩
      · simp [hu] at h
      · exact hnz ⟨rfl, hz⟩
  · simp [hu]

end Upstream

/-! ## Agreement with the reference run -/

/-- **A run agrees with its reference run** up to the requests that wait. -/
structure OffloadSys.Deferred (devs : NetDevs) (s r : OffloadSys) : Prop where
  latest : s.mgr.latestCacheIndex < maxEventCache
  valid : s.mgr.validIfaces = r.mgr.validIfaces
  refReady : ∀ name t, r.ready name t = true
  refCache : ∀ i < maxEventCache, r.mgr.eventCache i = none
  known : ∀ e ∈ s.parked, ∃ index, devs.index e.devName = some index
  listed : ∀ name pfx, .downstreamAdd name pfx ∈ s.parked → name ∈ s.mgr.validIfaces
  downs : ∀ key, dsEvents key s.evts ++
    List.replicate (s.parked.countP fun e => e.adds devs key = true) true = dsEvents key r.evts
  up : (s.parked.filter (fun e => e.isUp = true) = 0 ∧ s.SameUp r) ∨
    ∃ name v4 v6 index, s.parked.filter (fun e => e.isUp = true) = {.upstreamRouteAdd name v4 v6} ∧
      devs.index name = some index ∧ (s.setUpstreamReady index v4 v6).2.SameUp r
  paired : s.Paired
  refPaired : r.Paired

section Steps

variable {devs : NetDevs} {s s' r r' : OffloadSys} {e : FrameworkEvent} {name : String}
  {pfx v4 v6 : Prefix} {index : ℤ} {t : IpType} {i : ℕ} {add : Bool}

lemma OffloadSys.waits_ready (h : ∀ name t, r.ready name t = true) : r.waits e = false := by
  cases e <;> simp [OffloadSys.waits, OffloadSys.cacheNeed, h]

lemma OffloadSys.waits_congr (h : s'.ready = s.ready) : s'.waits e = s.waits e := by
  cases e <;> simp [OffloadSys.waits, OffloadSys.cacheNeed, h]

/-- Nothing waits in the cache of the reference run. -/
lemma OffloadSys.parked_of_empty (h : ∀ i < maxEventCache, r.mgr.eventCache i = none) :
    r.parked = 0 := by
  refine Multiset.eq_zero_of_forall_notMem fun e he => ?_
  obtain ⟨i, hi, hie⟩ := OffloadSys.mem_parked.mp he
  rw [h i hi] at hie
  simp at hie

lemma OffloadSys.addDownstream_eq (hi : devs.index name = some index) :
    (s.addDownstream devs name pfx).2 =
      if (s.addValidIface name).waits (.downstreamAdd name pfx) = true then
        ((s.addValidIface name).cacheEvent (.downstreamAdd name pfx)).2
      else (s.addValidIface name).postEvt (.downstream true index pfx) := by
  unfold OffloadSys.addDownstream
  simp only [hi, OffloadSys.waits, decide_eq_true_eq]
  split_ifs <;> rfl

lemma OffloadSys.setUpstream_eq (hi : devs.index name = some index) :
    (s.setUpstream devs (some name) v4 v6).2 =
      if s.waits (.upstreamRouteAdd name v4 v6) = true then
        (s.cacheEvent (.upstreamRouteAdd name v4 v6)).2
      else (s.setUpstreamReady index v4 v6).2 := by
  unfold OffloadSys.setUpstream
  simp only [hi, OffloadSys.waits, decide_eq_true_eq]
  split_ifs <;> rfl

lemma OffloadSys.addValidIface_of_mem (h : name ∈ s.mgr.validIfaces) : s.addValidIface name = s :=
  if_pos h

/-- Both runs learn of an interface. -/
lemma OffloadSys.Deferred.addValidIface (name : String) (H : s.Deferred devs r) :
    (s.addValidIface name).Deferred devs (r.addValidIface name) := by
  unfold OffloadSys.addValidIface
  rw [H.valid]
  split_ifs
  · exact H
  · refine ⟨H.latest, rfl, H.refReady, H.refCache, H.known, fun n p hn => ?_, H.downs, ?_,
      H.paired.congr rfl rfl fun _ => rfl, H.refPaired.congr rfl rfl fun _ => rfl⟩
    · exact List.mem_append_left _ (H.valid ▸ H.listed n p hn)
    · rcases H.up with ⟨hnone, hs⟩ | ⟨n, a, b, j, hone, hj, hs⟩
      · exact Or.inl ⟨hnone, hs.up, hs.gw⟩
      · refine Or.inr ⟨n, a, b, j, hone, hj, ?_⟩
        have hsame : OffloadSys.SameUp
            { s with mgr := { s.mgr with validIfaces := r.mgr.validIfaces ++ [name] } } s :=
          ⟨rfl, rfl⟩
        exact (hsame.setUpstreamReady.trans hs).trans ⟨rfl, rfl⟩

/-- What waits after an event joined, as far as the upstream is concerned. -/
lemma OffloadSys.Deferred.up_of_down (H : s.Deferred devs r) (hup : s'.SameUp s) (hup' : r.SameUp r')
    (hfilter : s'.parked.filter (fun e => e.isUp = true) =
      s.parked.filter fun e => e.isUp = true) :
    (s'.parked.filter (fun e => e.isUp = true) = 0 ∧ s'.SameUp r') ∨
    ∃ name v4 v6 index, s'.parked.filter (fun e => e.isUp = true) = {.upstreamRouteAdd name v4 v6} ∧
      devs.index name = some index ∧ (s'.setUpstreamReady index v4 v6).2.SameUp r' := by
  rcases H.up with ⟨hnone, hs⟩ | ⟨n, a, b, j, hone, hj, hs⟩
  · exact Or.inl ⟨hfilter.trans hnone, (hup.trans hs).trans hup'⟩
  · exact Or.inr ⟨n, a, b, j, hfilter.trans hone, hj,
      (hup.setUpstreamReady.trans hs).trans hup'⟩

/-- Both runs post the same downstream event, which is an addition, or there is none that waits. -/
lemma OffloadSys.Deferred.post (H : s.Deferred devs r)
    (hnone : add = false → ∀ e ∈ s.parked, e.adds devs (index, pfx) = false) :
    (s.postEvt (.downstream add index pfx)).Deferred devs
      (r.postEvt (.downstream add index pfx)) := by
  refine ⟨H.latest, H.valid, H.refReady, H.refCache, H.known, H.listed, fun key => ?_,
    H.up_of_down ⟨rfl, rfl⟩ ⟨rfl, rfl⟩ rfl, H.paired.downstream, H.refPaired.downstream⟩
  rw [dsEvents_postEvt, dsEvents_postEvt, ← H.downs key]
  change _ ++ List.replicate (s.parked.countP _) true = _
  by_cases hkey : (index, pfx) = key
  · subst hkey
    simp only [if_true, List.append_assoc]
    congr 1
    cases add with
    | true => rw [← List.replicate_succ', List.singleton_append, List.replicate_succ]
    | false =>
        have hzero : s.parked.countP (fun e => e.adds devs (index, pfx) = true) = 0 :=
          Multiset.countP_eq_zero.mpr fun e he => by simp [hnone rfl e he]
        rw [hzero]
        rfl
  · simp [hkey]

/-- The reference run posts an addition that waits. -/
lemma OffloadSys.Deferred.parkDown (H : s.Deferred devs r) (hi : devs.index name = some index)
    (hmem : name ∈ s.mgr.validIfaces) (hfree : s.HasFree) :
    (s.cacheEvent (.downstreamAdd name pfx)).2.Deferred devs
      (r.postEvt (.downstream true index pfx)) := by
  obtain ⟨i, -, l, hl, -, hs, hparked⟩ :=
    OffloadSys.cacheEvent_spec (e := .downstreamAdd name pfx) H.latest hfree
  have hpaired := H.paired.cacheEvent (e := .downstreamAdd name pfx)
  rw [hs] at hparked hpaired ⊢
  refine ⟨hl, H.valid, H.refReady, H.refCache, fun e he => ?_, fun n p hn => ?_, fun key => ?_,
    H.up_of_down ⟨rfl, rfl⟩ ⟨rfl, rfl⟩ ?_, hpaired, H.refPaired.downstream⟩
  · rw [hparked] at he
    rcases Multiset.mem_cons.mp he with rfl | he
    · exact ⟨index, hi⟩
    · exact H.known e he
  · rw [hparked] at hn
    rcases Multiset.mem_cons.mp hn with heq | hn
    · obtain ⟨rfl, rfl⟩ := FrameworkEvent.downstreamAdd.inj heq
      exact hmem
    · exact H.listed n p hn
  · rw [hparked, dsEvents_postEvt, ← H.downs key]
    change dsEvents key s.evts ++ _ = _
    by_cases hkey : (index, pfx) = key
    · subst hkey
      rw [Multiset.countP_cons_of_pos _ (by simp [FrameworkEvent.adds, hi]), List.replicate_succ']
      simp
    · rw [Multiset.countP_cons_of_neg _ (by
        simp only [FrameworkEvent.adds, hi, Option.some.injEq, decide_eq_true_eq]
        rintro ⟨h1, h2⟩
        exact hkey (Prod.ext h1 h2))]
      simp [hkey]
  · rw [hparked, Multiset.filter_cons_of_neg _ (by simp [FrameworkEvent.isUp, OffloadSys.isUpstream])]

/-- **`addDownstream`** in both runs. -/
lemma OffloadSys.Deferred.addDownstream (H : s.Deferred devs r)
    (hfit : devs.index name ≠ none → s.waits (.downstreamAdd name pfx) = true → s.HasFree) :
    (s.addDownstream devs name pfx).2.Deferred devs (r.addDownstream devs name pfx).2 := by
  cases hi : devs.index name with
  | none => simpa [OffloadSys.addDownstream, hi] using H
  | some index =>
      have H1 := H.addValidIface name
      obtain ⟨-, -, hcache, -, -, hready⟩ := s.addValidIface_frame name
      have hmem : name ∈ (s.addValidIface name).mgr.validIfaces := by
        unfold OffloadSys.addValidIface
        split_ifs with h
        · exact h
        · simp
      rw [OffloadSys.addDownstream_eq hi, OffloadSys.addDownstream_eq hi,
        OffloadSys.waits_ready H1.refReady]
      simp only [Bool.false_eq_true, if_false]
      by_cases hw : (s.addValidIface name).waits (.downstreamAdd name pfx) = true
      · rw [if_pos hw]
        obtain ⟨j, hj, hnone⟩ := hfit (by simp [hi]) (OffloadSys.waits_congr hready ▸ hw)
        exact H1.parkDown hi hmem ⟨j, hj, by rw [hcache, hnone]⟩
      · rw [if_neg hw]
        exact H1.post (by simp)

/-- **`removeDownstream`** in both runs. -/
lemma OffloadSys.Deferred.removeDownstream (H : s.Deferred devs r)
    (hfit : ∀ index ∈ devs.index name, ∀ e ∈ s.parked, e.adds devs (index, pfx) = false) :
    (s.removeDownstream devs name pfx).2.Deferred devs (r.removeDownstream devs name pfx).2 := by
  unfold OffloadSys.removeDownstream
  rw [H.valid]
  by_cases hname : name = ""
  · rw [if_pos hname, if_pos hname]
    exact H
  rw [if_neg hname, if_neg hname]
  by_cases hmem : name ∉ r.mgr.validIfaces
  · rw [if_pos hmem, if_pos hmem]
    exact H
  rw [if_neg hmem, if_neg hmem]
  cases hi : devs.index name with
  | none => exact H
  | some index => exact H.post fun _ => hfit index hi

lemma OffloadSys.SameRest.parked (h : s'.SameRest s) : s'.parked = s.parked := by
  rw [OffloadSys.parked, OffloadSys.parked, h.cache]

/-- Steps of both runs that concern the upstream only. -/
lemma OffloadSys.Deferred.of_rest (H : s.Deferred devs r) (hs : s'.SameRest s) (hr : r'.SameRest r)
    (hds : ∀ key, dsEvents key s'.evts = dsEvents key s.evts)
    (hdr : ∀ key, dsEvents key r'.evts = dsEvents key r.evts)
    (hup : (s.parked.filter (fun e => e.isUp = true) = 0 ∧ s'.SameUp r') ∨
      ∃ name v4 v6 index,
        s.parked.filter (fun e => e.isUp = true) = {.upstreamRouteAdd name v4 v6} ∧
        devs.index name = some index ∧ (s'.setUpstreamReady index v4 v6).2.SameUp r')
    (hpaired : s'.Paired) (hpaired' : r'.Paired) : s'.Deferred devs r' := by
  refine ⟨?_, ?_, fun name t => ?_, fun i hi => ?_, fun e he => ?_, fun n p hn => ?_, fun key => ?_,
    ?_, hpaired, hpaired'⟩
  · rw [hs.latest]
    exact H.latest
  · rw [hs.valid, hr.valid]
    exact H.valid
  · rw [hr.ready]
    exact H.refReady name t
  · rw [hr.cache]
    exact H.refCache i hi
  · exact H.known e (hs.parked ▸ he)
  · rw [hs.valid]
    exact H.listed n p (hs.parked ▸ hn)
  · rw [hds, hdr, hs.parked]
    exact H.downs key
  · rw [hs.parked]
    exact hup

/-- No upstream waits. -/
lemma OffloadSys.Deferred.sameUp (H : s.Deferred devs r) (hnone : ∀ e ∈ s.parked, e.isUp = false) :
    s.parked.filter (fun e => e.isUp = true) = 0 ∧ s.SameUp r := by
  have hzero : s.parked.filter (fun e => e.isUp = true) = 0 :=
    Multiset.filter_eq_nil.mpr fun e he => by simp [hnone e he]
  rcases H.up with h | ⟨n, a, b, j, hone, -, -⟩
  · exact h
  · rw [hzero] at hone
    exact absurd hone.symm (Multiset.singleton_ne_zero _)

/-- **`setUpstream` for an interface**, in both runs. -/
lemma OffloadSys.Deferred.setUpstream (H : s.Deferred devs r)
    (hfit : devs.index name ≠ none → (∀ e ∈ s.parked, e.isUp = false) ∧
      (s.waits (.upstreamRouteAdd name v4 v6) = true → s.HasFree)) :
    (s.setUpstream devs (some name) v4 v6).2.Deferred devs
      (r.setUpstream devs (some name) v4 v6).2 := by
  cases hi : devs.index name with
  | none => simpa [OffloadSys.setUpstream, hi] using H
  | some index =>
      obtain ⟨hnone, hfree⟩ := hfit (by simp [hi])
      obtain ⟨hzero, hup⟩ := H.sameUp hnone
      have hne := NetDevs.ne_invalid hi
      have hr := r.setUpstreamReady_rest index v4 v6
      rw [OffloadSys.setUpstream_eq hi, OffloadSys.setUpstream_eq hi,
        OffloadSys.waits_ready H.refReady]
      simp only [Bool.false_eq_true, if_false]
      by_cases hw : s.waits (.upstreamRouteAdd name v4 v6) = true
      · rw [if_pos hw]
        obtain ⟨i, -, l, hl, -, hs, hparked⟩ :=
          OffloadSys.cacheEvent_spec (e := .upstreamRouteAdd name v4 v6) H.latest (hfree hw)
        have hpaired := H.paired.cacheEvent (e := .upstreamRouteAdd name v4 v6)
        rw [hs] at hparked hpaired ⊢
        have hrest := (hr (0, v4)).1
        refine ⟨hl, H.valid.trans hrest.valid.symm, fun n t => ?_, fun j hj => ?_, fun e he => ?_,
          fun n p hn => ?_, fun key => ?_, ?_, hpaired, H.refPaired.setUpstreamReady hne⟩
        · rw [hrest.ready]
          exact H.refReady n t
        · rw [hrest.cache]
          exact H.refCache j hj
        · rw [hparked] at he
          rcases Multiset.mem_cons.mp he with rfl | he
          · exact ⟨index, hi⟩
          · exact H.known e he
        · rw [hparked] at hn
          rcases Multiset.mem_cons.mp hn with heq | hn
          · simp at heq
          · exact H.listed n p hn
        · rw [hparked, (hr key).2, ← H.downs key,
            Multiset.countP_cons_of_neg _ (by simp [FrameworkEvent.adds])]
        · refine Or.inr ⟨name, v4, v6, index, ?_, hi, ?_⟩
          · rw [hparked, Multiset.filter_cons_of_pos _ (by
              simp [FrameworkEvent.isUp, OffloadSys.isUpstream]), hzero]
            rfl
          · have hsame : OffloadSys.SameUp
                { s with mgr := { s.mgr with
                  eventCache := Function.update s.mgr.eventCache i
                    (some (.upstreamRouteAdd name v4 v6))
                  latestCacheIndex := l } } s := ⟨rfl, rfl⟩
            exact (hsame.trans hup).setUpstreamReady
      · rw [if_neg hw]
        have hs := s.setUpstreamReady_rest index v4 v6
        exact H.of_rest (hs (0, v4)).1 (hr (0, v4)).1 (fun key => (hs key).2)
          (fun key => (hr key).2) (Or.inl ⟨hzero, hup.setUpstreamReady⟩)
          (H.paired.setUpstreamReady hne) (H.refPaired.setUpstreamReady hne)

lemma OffloadSys.clearUpstream_rest (v4 v6 : Prefix) (hgw : s.mgr.defaultGwIndex ≠ invalidIface)
    (key : ℤ × Prefix) : (s.clearUpstream v4 v6).2.SameRest s ∧
      dsEvents key (s.clearUpstream v4 v6).2.evts = dsEvents key s.evts := by
  unfold OffloadSys.clearUpstream
  rw [if_neg hgw]
  have hone : ∀ (u : OffloadSys) (t : IpType) (p : Prefix) (c : Prop) [Decidable c],
      (if c then u.delRoute t p else u).SameRest u ∧
        dsEvents key (if c then u.delRoute t p else u).evts = dsEvents key u.evts := by
    intro u t p c _
    split_ifs
    · exact u.delRoute_rest t p key
    · exact ⟨.refl, rfl⟩
  obtain ⟨h1, e1⟩ := hone s .v4 v4 (v4.fam = .v4)
  obtain ⟨h2, e2⟩ := hone (if v4.fam = .v4 then s.delRoute .v4 v4 else s) .v6 v6 (v6.fam = .v6)
  have h3 := h2.trans h1
  exact ⟨⟨h3.cache, h3.latest, h3.valid, h3.ready⟩, e2.trans e1⟩

/-- Taking the upstream away is the same in states that agree on it. -/
lemma OffloadSys.SameUp.clearUpstream (h : s.SameUp r) :
    (s.clearUpstream v4 v6).2.SameUp (r.clearUpstream v4 v6).2 := by
  unfold OffloadSys.clearUpstream
  rw [h.gw]
  by_cases hgw : r.mgr.defaultGwIndex = invalidIface
  · rw [if_pos hgw, if_pos hgw]
    exact ⟨h.up, h.gw⟩
  · rw [if_neg hgw, if_neg hgw]
    have hone : ∀ {u w : OffloadSys} {t : IpType} {p : Prefix} {c : Prop} [Decidable c], u.SameUp w →
        (if c then u.delRoute t p else u).SameUp (if c then w.delRoute t p else w) := by
      intro u w t p c _ huw
      split_ifs
      · exact huw.delRoute
      · exact huw
    exact ⟨(hone (hone h)).up, rfl⟩

/-- A forgotten upstream is not in the cache any more. -/
lemma OffloadSys.parked_forgetUpstreams :
    s.forgetUpstreams.2.parked = s.parked.filter fun e => e.isUp = false := by
  have hval : ∀ i ∈ Multiset.range maxEventCache, s.forgetUpstreams.2.mgr.eventCache i =
      (s.mgr.eventCache i).filter fun e => e.isUp = false := fun i hi => by
    change (if i < maxEventCache ∧ OffloadSys.isUpstream (s.mgr.eventCache i) = true then none
      else s.mgr.eventCache i) = _
    cases hslot : s.mgr.eventCache i with
    | none => simp
    | some e =>
        have hlt := Multiset.mem_range.mp hi
        cases hup : OffloadSys.isUpstream (some e) <;>
          simp [hlt, hup, FrameworkEvent.isUp, Option.filter]
  unfold OffloadSys.parked
  rw [Multiset.filter_filterMap]
  exact congrArg Multiset.ofList (List.filterMap_congr fun i hi => hval i (by simpa using hi))

/-- The upstreams in the cache that a `setUpstream` without an interface takes away, as the reference
run does: no upstream is set, so that they are forgotten, and the call mentions their families. -/
def FrameworkEvent.ClearedBy (s : OffloadSys) (v4 v6 : Prefix) : FrameworkEvent → Prop
  | .downstreamAdd _ _ => True
  | .upstreamRouteAdd _ p4 p6 => s.mgr.defaultGwIndex = invalidIface ∧
      (p4.fam = .v4 → v4.fam = .v4) ∧ (p6.fam = .v6 → p6.v6Addr ≠ (0, 0, 0, 0) → v6.fam = .v6)

lemma OffloadSys.clearUpstream_gw : (s.clearUpstream v4 v6).2.mgr.defaultGwIndex = invalidIface := by
  unfold OffloadSys.clearUpstream
  by_cases hgw : s.mgr.defaultGwIndex = invalidIface
  · rw [if_pos hgw]
    exact hgw
  · rw [if_neg hgw]
    rfl

lemma OffloadSys.dsEvents_clearUpstream (key : ℤ × Prefix) :
    dsEvents key (s.clearUpstream v4 v6).2.evts = dsEvents key s.evts := by
  by_cases hgw : s.mgr.defaultGwIndex = invalidIface
  · rw [OffloadSys.clearUpstream, if_pos hgw]
    rfl
  · exact (OffloadSys.clearUpstream_rest v4 v6 hgw key).2

/-- Without an upstream no family is up. -/
lemma OffloadSys.Paired.down (h : s.Paired) (hgw : s.mgr.defaultGwIndex = invalidIface) (t : IpType) :
    s.mgr.upstreamUp t = false := by
  by_contra ht
  exact h.valid t (by simpa using ht) hgw

/-- The reference run can take away what waits, too. -/
lemma OffloadSys.Deferred.mentions (H : s.Deferred devs r)
    (hm : (OffloadOp.setUpstream none v4 v6).Mentions s)
    (hfit : ∀ e ∈ s.parked, e.ClearedBy s v4 v6) :
    (OffloadOp.setUpstream none v4 v6).Mentions r := by
  rcases H.up with ⟨-, hs⟩ | ⟨n, a, b, j, hone, -, hs⟩
  · intro hgw
    obtain ⟨h4, h6⟩ := hm (hs.gw ▸ hgw)
    exact ⟨fun h => h4 (hs.up ▸ h), fun h => h6 (hs.up ▸ h)⟩
  · intro _
    have hmem : FrameworkEvent.upstreamRouteAdd n a b ∈ s.parked :=
      Multiset.mem_of_mem_filter (p := fun e => e.isUp = true) (by rw [hone]; simp)
    obtain ⟨hgw, h4, h6⟩ := hfit _ hmem
    obtain ⟨u4, u6⟩ := OffloadSys.setUpstreamReady_up j a b (H.paired.down hgw)
    rw [hs.up] at u4 u6
    exact ⟨fun h => h4 (u4 h), fun h => h6 (u6 h).1 (u6 h).2⟩

/-- **`setUpstream` without an interface**, in both runs. -/
lemma OffloadSys.Deferred.clearUpstream (H : s.Deferred devs r)
    (hm : (OffloadOp.setUpstream none v4 v6).Mentions s)
    (hfit : ∀ e ∈ s.parked, e.ClearedBy s v4 v6) :
    (s.clearUpstream v4 v6).2.Deferred devs (r.clearUpstream v4 v6).2 := by
  obtain ⟨hp, hdown⟩ := H.paired.clearUpstream v4 v6 hm
  obtain ⟨hp', hdown'⟩ := H.refPaired.clearUpstream v4 v6 (H.mentions hm hfit)
  have hsame : (s.clearUpstream v4 v6).2.SameUp (r.clearUpstream v4 v6).2 :=
    ⟨funext fun t => (hdown t).trans (hdown' t).symm,
      OffloadSys.clearUpstream_gw.trans OffloadSys.clearUpstream_gw.symm⟩
  -- the rest of the reference run's state
  have href : (∀ name t, (r.clearUpstream v4 v6).2.ready name t = true) ∧
      (∀ i < maxEventCache, (r.clearUpstream v4 v6).2.mgr.eventCache i = none) ∧
      (r.clearUpstream v4 v6).2.mgr.validIfaces = r.mgr.validIfaces := by
    by_cases hgw : r.mgr.defaultGwIndex = invalidIface
    · rw [OffloadSys.clearUpstream, if_pos hgw]
      refine ⟨H.refReady, fun i hi => ?_, rfl⟩
      change (if i < maxEventCache ∧ OffloadSys.isUpstream (r.mgr.eventCache i) = true then none
        else r.mgr.eventCache i) = none
      rw [H.refCache i hi]
      split_ifs <;> rfl
    · have hr := (OffloadSys.clearUpstream_rest v4 v6 hgw (0, v4)).1
      exact ⟨fun n t => by rw [hr.ready]; exact H.refReady n t,
        fun i hi => by rw [hr.cache]; exact H.refCache i hi, hr.valid⟩
  obtain ⟨hready, hcache, hvalid⟩ := href
  by_cases hgw : s.mgr.defaultGwIndex = invalidIface
  · have hs : (s.clearUpstream v4 v6).2 = s.forgetUpstreams.2 := by
      rw [OffloadSys.clearUpstream, if_pos hgw]
    rw [hs] at hp hsame ⊢
    have hsub : ∀ e ∈ s.forgetUpstreams.2.parked, e ∈ s.parked := fun e he => by
      rw [OffloadSys.parked_forgetUpstreams] at he
      exact Multiset.mem_of_mem_filter he
    refine ⟨H.latest, H.valid.trans hvalid.symm, hready, hcache, fun e he => H.known e (hsub e he),
      fun n p hn => H.listed n p (hsub _ hn), fun key => ?_, Or.inl ⟨?_, hsame⟩, hp, hp'⟩
    · rw [OffloadSys.dsEvents_clearUpstream, ← H.downs key, OffloadSys.parked_forgetUpstreams,
        Multiset.countP_filter]
      congr 2
      refine Multiset.countP_congr rfl fun e _ => ?_
      cases e <;> simp [FrameworkEvent.adds, FrameworkEvent.isUp, OffloadSys.isUpstream]
    · rw [OffloadSys.parked_forgetUpstreams, Multiset.filter_filter, Multiset.filter_eq_nil]
      rintro e - ⟨h1, h2⟩
      rw [h1] at h2
      simp at h2
  · have hs := OffloadSys.clearUpstream_rest v4 v6 hgw
    have hnone : ∀ e ∈ s.parked, e.isUp = false := fun e he => by
      cases e with
      | downstreamAdd n p => rfl
      | upstreamRouteAdd n a b => exact absurd (hfit _ he).1 hgw
    obtain ⟨hzero, hup⟩ := H.sameUp hnone
    have hr := OffloadSys.clearUpstream_rest (s := r) v4 v6 (hup.gw ▸ hgw)
    exact H.of_rest (hs (0, v4)).1 (hr (0, v4)).1 (fun key => (hs key).2) (fun key => (hr key).2)
      (Or.inl ⟨hzero, hsame⟩) hp hp'

/-- **`stopAllOffload`** in both runs. -/
lemma OffloadSys.Deferred.stopAllOffload (H : s.Deferred devs r)
    (hfit : ∀ e ∈ s.parked, e.isUp = true) :
    s.stopAllOffload.2.Deferred devs r.stopAllOffload.2 := by
  have hempty : s.stopAllOffload.2.parked = 0 := OffloadSys.parked_of_empty fun _ _ => rfl
  have hready : r.stopAllOffload.2.ready = r.ready := by
    change (r.clearUpstream _ _).2.ready = r.ready
    by_cases hgw : r.mgr.defaultGwIndex = invalidIface
    · rw [OffloadSys.clearUpstream, if_pos hgw]
      rfl
    · exact (OffloadSys.clearUpstream_rest _ _ hgw (0, { fam := .v4 })).1.ready
  refine ⟨(by decide : 0 < maxEventCache), rfl, fun n t => by rw [hready]; exact H.refReady n t, fun _ _ => rfl,
    by simp [hempty], by simp [hempty], fun key => ?_, Or.inl ⟨by simp [hempty], ⟨rfl, rfl⟩⟩,
    H.paired.stopAllOffload.1, H.refPaired.stopAllOffload.1⟩
  have hzero : s.parked.countP (fun e => e.adds devs key = true) = 0 :=
    Multiset.countP_eq_zero.mpr fun e he => by
      have := hfit e he
      cases e with
      | downstreamAdd n p => simp [FrameworkEvent.isUp, OffloadSys.isUpstream] at this
      | upstreamRouteAdd n a b => simp [FrameworkEvent.adds]
  have hdowns := H.downs key
  rw [hzero] at hdowns
  rw [hempty]
  change dsEvents key (s.clearUpstream _ _).2.evts ++ _ = dsEvents key (r.clearUpstream _ _).2.evts
  rw [OffloadSys.dsEvents_clearUpstream, OffloadSys.dsEvents_clearUpstream, ← hdowns]
  rfl

/-- A request that has to wait still only moves to another slot. -/
lemma OffloadSys.Deferred.same_parked (H : s.Deferred devs r)
    (hl : s'.mgr.latestCacheIndex < maxEventCache) (hparked : s'.parked = s.parked)
    (hvalid : s'.mgr.validIfaces = s.mgr.validIfaces) (hev : s'.evts = s.evts)
    (hup : s'.SameUp s) : s'.Deferred devs r := by
  refine ⟨hl, hvalid.trans H.valid, H.refReady, H.refCache, hparked ▸ H.known, ?_, fun key => ?_,
    H.up_of_down hup ⟨rfl, rfl⟩ (by rw [hparked]), H.paired.congr hup.up hup.gw fun t => by rw [hev],
    H.refPaired⟩
  · rw [hparked, hvalid]
    exact H.listed
  · rw [hparked, hev]
    exact H.downs key

/-- A cached request that has to wait is put into another slot. -/
lemma OffloadSys.Deferred.repark (H : s.Deferred devs r) (hi : i < maxEventCache)
    (he : s.mgr.eventCache i = some e) (hfree : s.HasFree) (hw : s.waits e = true) :
    ((s.cacheEvent e).2.clearSlot i).Deferred devs r ∧
      ((s.cacheEvent e).2.clearSlot i).ready = s.ready ∧
      ((s.cacheEvent e).2.clearSlot i).mgr.eventCache i = none ∧
      ∀ j, j ≠ i → ((s.cacheEvent e).2.clearSlot i).mgr.eventCache j = s.mgr.eventCache j ∨
        (((s.cacheEvent e).2.clearSlot i).mgr.eventCache j = some e ∧ s.waits e = true) := by
  obtain ⟨j, hj, l, hl, hnone, hs, hparked⟩ := OffloadSys.cacheEvent_spec (e := e) H.latest hfree
  have hij : i ≠ j := by
    rintro rfl
    simp [hnone] at he
  have he' : (s.cacheEvent e).2.mgr.eventCache i = some e := by
    rw [hs]
    change Function.update s.mgr.eventCache j (some e) i = some e
    rw [Function.update_of_ne hij, he]
  have hsame : ((s.cacheEvent e).2.clearSlot i).parked = s.parked := by
    have := OffloadSys.parked_clearSlot hi he'
    rw [hparked] at this
    exact ((Multiset.cons_inj_right e).mp this).symm
  rw [hs] at hsame ⊢
  refine ⟨H.same_parked hl hsame rfl rfl ⟨rfl, rfl⟩, rfl, Function.update_self .., fun k hk => ?_⟩
  change Function.update (Function.update s.mgr.eventCache j (some e)) i none k = _ ∨
    (Function.update (Function.update s.mgr.eventCache j (some e)) i none k = _ ∧ _)
  rw [Function.update_of_ne hk]
  by_cases hkj : k = j
  · exact Or.inr ⟨by rw [hkj, Function.update_self], hw⟩
  · exact Or.inl (by rw [Function.update_of_ne hkj])

/-- **A cached request that is made again**, while the reference run does nothing. -/
lemma OffloadSys.Deferred.replay (H : s.Deferred devs r) (hi : i < maxEventCache)
    (he : s.mgr.eventCache i = some e) (hfree : s.waits e = true → s.HasFree) :
    ((s.replay devs e).clearSlot i).Deferred devs r ∧
      ((s.replay devs e).clearSlot i).ready = s.ready ∧
      ((s.replay devs e).clearSlot i).mgr.eventCache i = none ∧
      ∀ j, j ≠ i → ((s.replay devs e).clearSlot i).mgr.eventCache j = s.mgr.eventCache j ∨
        (((s.replay devs e).clearSlot i).mgr.eventCache j = some e ∧ s.waits e = true) := by
  have hmem : e ∈ s.parked := OffloadSys.mem_parked.mpr ⟨i, hi, he⟩
  have hparked := OffloadSys.parked_clearSlot hi he
  obtain ⟨index, hindex⟩ := H.known e hmem
  by_cases hw : s.waits e = true
  · have hreplay : s.replay devs e = (s.cacheEvent e).2 := by
      cases e with
      | downstreamAdd n p =>
          have hdev : devs.index n = some index := hindex
          rw [OffloadSys.replay, OffloadSys.addDownstream_eq hdev,
            OffloadSys.addValidIface_of_mem (H.listed n p hmem), if_pos hw]
      | upstreamRouteAdd n a b =>
          have hdev : devs.index n = some index := hindex
          rw [OffloadSys.replay, OffloadSys.setUpstream_eq hdev, if_pos hw]
    rw [hreplay]
    exact H.repark hi he (hfree hw) hw
  · have hother : ∀ {u : OffloadSys}, u.mgr.eventCache = s.mgr.eventCache →
        (u.clearSlot i).mgr.eventCache i = none ∧ ∀ j, j ≠ i →
          (u.clearSlot i).mgr.eventCache j = s.mgr.eventCache j ∨
          ((u.clearSlot i).mgr.eventCache j = some e ∧ s.waits e = true) := fun {u} hu => by
      refine ⟨Function.update_self .., fun j hj => Or.inl ?_⟩
      change Function.update u.mgr.eventCache i none j = _
      rw [Function.update_of_ne hj, hu]
    have hclear : ∀ {u : OffloadSys}, u.mgr.eventCache = s.mgr.eventCache →
        (u.clearSlot i).parked = (s.clearSlot i).parked := fun {u} hu => by
      unfold OffloadSys.parked OffloadSys.clearSlot
      rw [hu]
    have hsub : ∀ e' ∈ (s.clearSlot i).parked, e' ∈ s.parked := fun e' he' => by
      rw [hparked]
      exact Multiset.mem_cons_of_mem he'
    cases e with
    | downstreamAdd n p =>
        have hdev : devs.index n = some index := hindex
        have hreplay : s.replay devs (.downstreamAdd n p) =
            s.postEvt (.downstream true index p) := by
          rw [OffloadSys.replay, OffloadSys.addDownstream_eq hdev,
            OffloadSys.addValidIface_of_mem (H.listed n p hmem), if_neg hw]
        rw [hreplay]
        have hrest := hclear (u := s.postEvt (.downstream true index p)) rfl
        refine ⟨⟨H.latest, H.valid, H.refReady, H.refCache, fun e' he' => ?_, fun n' p' hn => ?_,
          fun key => ?_, H.up_of_down ⟨rfl, rfl⟩ ⟨rfl, rfl⟩ ?_, ?_, H.refPaired⟩, rfl, hother rfl⟩
        · exact H.known e' (hsub e' (hrest ▸ he'))
        · exact H.listed n' p' (hsub _ (hrest ▸ hn))
        · rw [hrest, ← H.downs key, hparked]
          change dsEvents key (s.postEvt _).evts ++ _ = _
          rw [dsEvents_postEvt]
          by_cases hkey : (index, p) = key
          · subst hkey
            have hdev : devs.index n = some index := hindex
            rw [Multiset.countP_cons_of_pos _ (by simp [FrameworkEvent.adds, hdev])]
            simp [List.replicate_succ]
          · rw [Multiset.countP_cons_of_neg _ (by
              simp only [FrameworkEvent.adds, hdev, Option.some.injEq, decide_eq_true_eq]
              rintro ⟨h1, h2⟩
              exact hkey (Prod.ext h1 h2))]
            simp [hkey]
        · rw [hrest, hparked,
            Multiset.filter_cons_of_neg _ (by simp [FrameworkEvent.isUp, OffloadSys.isUpstream])]
        · exact H.paired.downstream.congr rfl rfl fun _ => rfl
    | upstreamRouteAdd n a b =>
        have hdev : devs.index n = some index := hindex
        have hreplay : s.replay devs (.upstreamRouteAdd n a b) =
            (s.setUpstreamReady index a b).2 := by
          rw [OffloadSys.replay, OffloadSys.setUpstream_eq hdev, if_neg hw]
        rw [hreplay]
        have hrest := s.setUpstreamReady_rest index a b
        have hr := (hrest (0, a)).1
        have hpk := hclear hr.cache
        -- it is the one upstream that waited
        have hone : (s.clearSlot i).parked.filter (fun e => e.isUp = true) = 0 ∧
            (s.setUpstreamReady index a b).2.SameUp r := by
          have hfilter' : s.parked.filter (fun e => e.isUp = true) = .upstreamRouteAdd n a b ::ₘ
              (s.clearSlot i).parked.filter (fun e => e.isUp = true) := by
            rw [hparked, Multiset.filter_cons_of_pos _ (by rfl)]
          rcases H.up with ⟨hzero, -⟩ | ⟨n', a', b', j, hfilter, hj, hs⟩
          · exact absurd (hfilter'.symm.trans hzero) Multiset.cons_ne_zero
          · rw [hfilter', ← Multiset.cons_zero, Multiset.cons_eq_cons] at hfilter
            rcases hfilter with ⟨heq, hzero⟩ | ⟨-, cs, -, hcs⟩
            · obtain ⟨rfl, rfl, rfl⟩ := FrameworkEvent.upstreamRouteAdd.inj heq
              obtain rfl : index = j := Option.some.inj (hindex.symm.trans hj)
              exact ⟨hzero, hs⟩
            · exact absurd hcs.symm Multiset.cons_ne_zero
        refine ⟨⟨?_, ?_, H.refReady, H.refCache, fun e' he' => ?_, fun n' p' hn => ?_, fun key => ?_,
          Or.inl ⟨?_, ?_⟩, ?_, H.refPaired⟩, hr.ready, hother hr.cache⟩
        · exact hr.latest ▸ H.latest
        · exact hr.valid.trans H.valid
        · exact H.known e' (hsub e' (hpk ▸ he'))
        · have := H.listed n' p' (hsub _ (hpk ▸ hn))
          exact hr.valid ▸ this
        · rw [hpk, ← H.downs key, hparked,
            Multiset.countP_cons_of_neg _ (by simp [FrameworkEvent.adds])]
          exact congrArg (· ++ _) (hrest key).2
        · rw [hpk]
          exact hone.1
        · exact ⟨hone.2.up, hone.2.gw⟩
        · exact (H.paired.setUpstreamReady (NetDevs.ne_invalid hindex)).congr rfl rfl fun _ => rfl

end Steps

end Ipacm
