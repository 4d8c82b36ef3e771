import OcnDevice.Ipacm.OffloadManager.Deferred

/-!
# Deferring changes nothing

The loop of `search_framwork_cache` makes the requests that waited again, and puts those that have
to wait still into the cache again while it goes through it.  It keeps the agreement with the
reference run (`OffloadSys.Deferred.becomeReady`).  So a run in which no request would have to
supersede one that waits ends, when all its interfaces are ready, with the downstreams and the
upstream of the reference run.
-/

namespace Ipacm

/-! ## The search through the cache -/

section Search

variable {devs : NetDevs} {s r : OffloadSys} {e : FrameworkEvent} {name : String} {t : IpType}
  {i : ℕ}

/-- **In the loop of `search_framwork_cache`**, before slot `i`: what need not wait any more is of the
interface that became ready and still ahead, and what has to wait finds a slot. -/
structure OffloadSys.Searching (devs : NetDevs) (name : String) (s u r : OffloadSys) (i : ℕ) :
    Prop where
  deferred : s.Deferred devs r
  ready : s.ready = u.ready
  ahead : ∀ j < maxEventCache, ∀ e, s.mgr.eventCache j = some e → s.waits e = false →
    i ≤ j ∧ e.devName = name
  room : s.HasFree ∨ ∀ e ∈ s.parked, e.devName = name → s.waits e = false
  old : ∀ e ∈ s.parked, e ∈ u.parked

/-- One pass of the loop. -/
lemma OffloadSys.Searching.step {u : OffloadSys} (H : s.Searching devs name u r i)
    (hi : i < maxEventCache) :
    (s.searchSlot devs name i).Searching devs name u r (i + 1) := by
  unfold OffloadSys.searchSlot
  cases he : s.mgr.eventCache i with
  | none =>
      refine ⟨H.deferred, H.ready, fun j hj e hje hw => ?_, H.room, H.old⟩
      obtain ⟨hij, hname⟩ := H.ahead j hj e hje hw
      have hne : j ≠ i := by
        rintro rfl
        simp [he] at hje
      exact ⟨by omega, hname⟩
  | some e =>
      have hmem : e ∈ s.parked := OffloadSys.mem_parked.mpr ⟨i, hi, he⟩
      simp only
      by_cases hname : e.devName = name
      · rw [if_pos hname]
        have hfree : s.waits e = true → s.HasFree := fun hw => H.room.resolve_right fun hall => by
          simp [hall e hmem hname] at hw
        obtain ⟨H', hready, hslot, hothers⟩ := H.deferred.replay hi he hfree
        refine ⟨H', hready.trans H.ready, fun j hj e' hje hw => ?_, Or.inl ⟨i, hi, hslot⟩,
          fun e' he' => ?_⟩
        · have hne : j ≠ i := by
            rintro rfl
            simp [hslot] at hje
          rw [OffloadSys.waits_congr hready] at hw
          rcases hothers j hne with hsame | ⟨hnew, hwe⟩
          · obtain ⟨hij, hname'⟩ := H.ahead j hj e' (hsame ▸ hje) hw
            exact ⟨by omega, hname'⟩
          · obtain rfl := Option.some.inj (hnew.symm.trans hje)
            simp [hwe] at hw
        · obtain ⟨j, hj, hje⟩ := OffloadSys.mem_parked.mp he'
          have hne : j ≠ i := by
            rintro rfl
            simp [hslot] at hje
          rcases hothers j hne with hsame | ⟨hnew, -⟩
          · exact H.old e' (OffloadSys.mem_parked.mpr ⟨j, hj, hsame ▸ hje⟩)
          · obtain rfl := Option.some.inj (hnew.symm.trans hje)
            exact H.old e hmem
      · rw [if_neg hname]
        refine ⟨H.deferred, H.ready, fun j hj e' hje hw => ?_, H.room, H.old⟩
        obtain ⟨hij, hname'⟩ := H.ahead j hj e' hje hw
        have hne : j ≠ i := by
          rintro rfl
          rw [he] at hje
          obtain rfl := Option.some.inj hje
          exact hname hname'
        exact ⟨by omega, hname'⟩

/-- Whatever is in the cache has to wait. -/
def OffloadSys.AllWait (s : OffloadSys) : Prop := ∀ e ∈ s.parked, s.waits e = true

/-- An interface that becomes ready is of no concern to the other requests. -/
lemma OffloadSys.waits_setReady (hne : e.devName ≠ name) : (s.setReady name t).waits e = s.waits e := by
  cases e <;> simp_all [OffloadSys.waits, OffloadSys.cacheNeed, OffloadSys.setReady,
    FrameworkEvent.devName]

/-- **An interface that becomes ready**, in both runs: the reference run does nothing. -/
lemma OffloadSys.Deferred.becomeReady (H : s.Deferred devs r) (hwait : s.AllWait)
    (hroom : s.HasFree ∨
      ∀ e ∈ s.parked, e.devName = name → (s.setReady name t).waits e = false) :
    ((s.setReady name t).searchFramworkCache devs name).Deferred devs
        ((r.setReady name t).searchFramworkCache devs name) ∧
      ((s.setReady name t).searchFramworkCache devs name).AllWait ∧
      ∀ e ∈ ((s.setReady name t).searchFramworkCache devs name).parked, e ∈ s.parked := by
  have hr : (r.setReady name t).searchFramworkCache devs name = r := by
    have hready : r.setReady name t = r := by
      have hfun : (fun name' t' => if name' = name ∧ t' = t then true else r.ready name' t') =
          r.ready := by
        funext name' t'
        simp [H.refReady]
      unfold OffloadSys.setReady
      rw [hfun]
    rw [hready]
    refine forUpTo_preserves (P := fun u => u = r) rfl fun i u hi hu => ?_
    rw [hu, OffloadSys.searchSlot, H.refCache i hi]
  rw [hr]
  have H0 : (s.setReady name t).Searching devs name (s.setReady name t) r 0 := by
    refine ⟨⟨H.latest, H.valid, H.refReady, H.refCache, H.known, H.listed, H.downs,
      H.up_of_down ⟨rfl, rfl⟩ .refl rfl, H.paired.congr rfl rfl fun _ => rfl, H.refPaired⟩, rfl,
      fun j hj e hje hw => ⟨Nat.zero_le j, ?_⟩, hroom, fun _ he => he⟩
    by_contra hne
    rw [OffloadSys.waits_setReady hne] at hw
    have := hwait e (OffloadSys.mem_parked.mpr ⟨j, hj, hje⟩)
    simp [hw] at this
  have H1 : ((s.setReady name t).searchFramworkCache devs name).Searching devs name
      (s.setReady name t) r maxEventCache :=
    forUpTo_invariant (P := fun i (u : OffloadSys) => u.Searching devs name (s.setReady name t) r i) H0
      fun i u hi hu => hu.step hi
  refine ⟨H1.deferred, fun e he => ?_, H1.old⟩
  obtain ⟨j, hj, hje⟩ := OffloadSys.mem_parked.mp he
  by_contra hw
  have := (H1.ahead j hj e hje (by simpa using hw)).1
  omega

end Search

/-! ## Runs -/

/-- The interface of a request. -/
def OffloadOp.iface : OffloadOp → Option String
  | .addDownstream name _ | .setUpstream (some name) _ _ => some name
  | .removeDownstream _ _ | .setUpstream none _ _ | .stopAllOffload | .becomeReady _ _ => none

/-- **A call that supersedes no request that waits**, in other words that needs none of them out of
the cache, and that finds a slot there if it has to wait itself. -/
def OffloadOp.Fits (devs : NetDevs) (s : OffloadSys) : OffloadOp → Prop
  | .addDownstream name pfx =>
      devs.index name ≠ none → s.waits (.downstreamAdd name pfx) = true → s.HasFree
  | .removeDownstream name pfx =>
      ∀ index ∈ devs.index name, ∀ e ∈ s.parked, e.adds devs (index, pfx) = false
  | .setUpstream (some name) v4 v6 => devs.index name ≠ none →
      (∀ e ∈ s.parked, e.isUp = false) ∧
        (s.waits (.upstreamRouteAdd name v4 v6) = true → s.HasFree)
  | .setUpstream none v4 v6 =>
      (OffloadOp.setUpstream none v4 v6).Mentions s ∧ ∀ e ∈ s.parked, e.ClearedBy s v4 v6
  | .stopAllOffload => ∀ e ∈ s.parked, e.isUp = true
  | .becomeReady name t => s.HasFree ∨
      ∀ e ∈ s.parked, e.devName = name → (s.setReady name t).waits e = false

instance FrameworkEvent.decidableClearedBy (s : OffloadSys) (v4 v6 : Prefix) :
    (e : FrameworkEvent) → Decidable (e.ClearedBy s v4 v6)
  | .downstreamAdd _ _ => inferInstanceAs (Decidable True)
  | .upstreamRouteAdd _ p q => inferInstanceAs (Decidable (s.mgr.defaultGwIndex = invalidIface ∧
      (p.fam = .v4 → v4.fam = .v4) ∧ (q.fam = .v6 → q.v6Addr ≠ (0, 0, 0, 0) → v6.fam = .v6)))

instance OffloadOp.decidableFits (devs : NetDevs) (s : OffloadSys) :
    (op : OffloadOp) → Decidable (op.Fits devs s)
  | .addDownstream name pfx => inferInstanceAs (Decidable (devs.index name ≠ none →
      s.waits (.downstreamAdd name pfx) = true → s.HasFree))
  | .removeDownstream name pfx => inferInstanceAs (Decidable
      (∀ index ∈ devs.index name, ∀ e ∈ s.parked, e.adds devs (index, pfx) = false))
  | .setUpstream (some name) v4 v6 => inferInstanceAs (Decidable (devs.index name ≠ none →
      (∀ e ∈ s.parked, e.isUp = false) ∧
        (s.waits (.upstreamRouteAdd name v4 v6) = true → s.HasFree)))
  | .setUpstream none v4 v6 => inferInstanceAs (Decidable
      ((OffloadOp.setUpstream none v4 v6).Mentions s ∧ ∀ e ∈ s.parked, e.ClearedBy s v4 v6))
  | .stopAllOffload => inferInstanceAs (Decidable (∀ e ∈ s.parked, e.isUp = true))
  | .becomeReady name t => inferInstanceAs (Decidable (s.HasFree ∨
      ∀ e ∈ s.parked, e.devName = name → (s.setReady name t).waits e = false))

/-- A call that fits. -/
def OffloadOp.FitStep (devs : NetDevs) (s : OffloadSys) (op : OffloadOp) (s' : OffloadSys) : Prop :=
  op.Fits devs s ∧ op.call devs s = s'

section Runs

variable {devs : NetDevs} {s s' r : OffloadSys} {e f : FrameworkEvent} {op : OffloadOp}
  {ops : List OffloadOp} {m : OffloadManager} {n j : ℕ} {v4 v6 : Prefix} {index : ℤ}

lemma OffloadSys.cacheFrom_slot : (OffloadSys.cacheFrom e n m).2.eventCache j = m.eventCache j ∨
    (OffloadSys.cacheFrom e n m).2.eventCache j = some e := by
  induction n generalizing m with
  | zero => exact Or.inl rfl
  | succ n ih =>
      unfold OffloadSys.cacheFrom
      cases m.eventCache m.latestCacheIndex with
      | some _ => exact ih
      | none =>
          change Function.update m.eventCache m.latestCacheIndex (some e) j = _ ∨
            Function.update m.eventCache m.latestCacheIndex (some e) j = _
          by_cases hj : j = m.latestCacheIndex
          · exact Or.inr (by rw [hj, Function.update_self])
          · exact Or.inl (Function.update_of_ne hj ..)

/-- At most the request itself joins those that wait. -/
lemma OffloadSys.mem_parked_cacheEvent (hf : f ∈ (s.cacheEvent e).2.parked) :
    f ∈ s.parked ∨ f = e := by
  obtain ⟨j, hj, hslot⟩ := OffloadSys.mem_parked.mp hf
  rw [OffloadSys.cacheEvent_eq] at hslot
  rcases OffloadSys.cacheFrom_slot (e := e) (n := maxEventCache) (m := s.mgr) (j := j) with h | h
  · exact Or.inl (OffloadSys.mem_parked.mpr ⟨j, hj, h.symm.trans hslot⟩)
  · exact Or.inr (Option.some.inj (hslot.symm.trans h))

lemma OffloadSys.clearUpstream_parked (s : OffloadSys) (v4 v6 : Prefix) :
    (s.clearUpstream v4 v6).2.ready = s.ready ∧
    ∀ f ∈ (s.clearUpstream v4 v6).2.parked, f ∈ s.parked := by
  by_cases hgw : s.mgr.defaultGwIndex = invalidIface
  · rw [OffloadSys.clearUpstream, if_pos hgw]
    refine ⟨rfl, fun f hf => ?_⟩
    rw [OffloadSys.parked_forgetUpstreams] at hf
    exact Multiset.mem_of_mem_filter hf
  · have h := (OffloadSys.clearUpstream_rest v4 v6 hgw (0, v4)).1
    exact ⟨h.ready, fun f hf => h.parked ▸ hf⟩

/-- **What waits behind a call** waited before, or is the call's own request. -/
lemma OffloadOp.call_parked (devs : NetDevs) (s : OffloadSys) (hop : ∀ name t, op ≠ .becomeReady name t) :
    (op.call devs s).ready = s.ready ∧ ∀ f ∈ (op.call devs s).parked,
      f ∈ s.parked ∨ (s.waits f = true ∧ op.iface = some f.devName) := by
  cases op with
  | addDownstream name pfx =>
      change (s.addDownstream devs name pfx).2.ready = _ ∧
        ∀ f ∈ (s.addDownstream devs name pfx).2.parked, _
      cases hi : devs.index name with
      | none =>
          have hs : (s.addDownstream devs name pfx).2 = s := by simp [OffloadSys.addDownstream, hi]
          rw [hs]
          exact ⟨rfl, fun f hf => Or.inl hf⟩
      | some index =>
          obtain ⟨-, -, hcache, -, -, hready⟩ := s.addValidIface_frame name
          have hparked : (s.addValidIface name).parked = s.parked := by
            rw [OffloadSys.parked, OffloadSys.parked, hcache]
          rw [OffloadSys.addDownstream_eq hi]
          by_cases hw : (s.addValidIface name).waits (.downstreamAdd name pfx) = true
          · rw [if_pos hw]
            refine ⟨by rw [OffloadSys.cacheEvent_eq]; exact hready, fun f hf => ?_⟩
            rcases OffloadSys.mem_parked_cacheEvent hf with hf | rfl
            · exact Or.inl (hparked ▸ hf)
            · exact Or.inr ⟨OffloadSys.waits_congr hready ▸ hw, rfl⟩
          · rw [if_neg hw]
            exact ⟨hready, fun f hf => Or.inl (hparked ▸ hf)⟩
  | removeDownstream name pfx =>
      change (s.removeDownstream devs name pfx).2.ready = _ ∧
        ∀ f ∈ (s.removeDownstream devs name pfx).2.parked, _
      unfold OffloadSys.removeDownstream
      split_ifs
      · exact ⟨rfl, fun f hf => Or.inl hf⟩
      · cases devs.index name with
        | none => exact ⟨rfl, fun f hf => Or.inl hf⟩
        | some index => exact ⟨rfl, fun f hf => Or.inl hf⟩
      · exact ⟨rfl, fun f hf => Or.inl hf⟩
  | setUpstream upstreamName v4 v6 =>
      cases upstreamName with
      | none =>
          obtain ⟨hready, hold⟩ := s.clearUpstream_parked v4 v6
          exact ⟨hready, fun f hf => Or.inl (hold f hf)⟩
      | some name =>
          change (s.setUpstream devs (some name) v4 v6).2.ready = _ ∧
            ∀ f ∈ (s.setUpstream devs (some name) v4 v6).2.parked, _
          cases hi : devs.index name with
          | none =>
              have hs : (s.setUpstream devs (some name) v4 v6).2 = s := by
                simp [OffloadSys.setUpstream, hi]
              rw [hs]
              exact ⟨rfl, fun f hf => Or.inl hf⟩
          | some index =>
              rw [OffloadSys.setUpstream_eq hi]
              by_cases hw : s.waits (.upstreamRouteAdd name v4 v6) = true
              · rw [if_pos hw]
                refine ⟨by rw [OffloadSys.cacheEvent_eq], fun f hf => ?_⟩
                rcases OffloadSys.mem_parked_cacheEvent hf with hf | rfl
                · exact Or.inl hf
                · exact Or.inr ⟨hw, rfl⟩
              · rw [if_neg hw]
                have h := (s.setUpstreamReady_rest index v4 v6 (0, v4)).1
                exact ⟨h.ready, fun f hf => Or.inl (h.parked ▸ hf)⟩
  | stopAllOffload =>
      refine ⟨(s.clearUpstream_parked _ _).1, fun f hf => ?_⟩
      rw [show (OffloadOp.stopAllOffload.call devs s).parked = 0 from
        OffloadSys.parked_of_empty fun _ _ => rfl] at hf
      simp at hf
  | becomeReady name t => exact absurd rfl (hop name t)

/-- What holds behind every run of calls that fit: the agreement with the reference run, and whatever
is in the cache has to wait and comes from a request of the run. -/
structure OffloadSys.Deferring (devs : NetDevs) (ops : List OffloadOp) (s : OffloadSys) : Prop where
  deferred : s.Deferred devs (OffloadSys.callAll devs { ready := fun _ _ => true } ops)
  waits : s.AllWait
  names : ∀ e ∈ s.parked, ∃ op ∈ ops, op.iface = some e.devName

lemma OffloadSys.callAll_snoc : s.callAll devs (ops ++ [op]) = op.call devs (s.callAll devs ops) := by
  simp [OffloadSys.callAll]

/-- **Each call that fits** keeps the agreement. -/
lemma OffloadSys.Deferring.step (H : s.Deferring devs ops) (hst : op.FitStep devs s s') :
    s'.Deferring devs (ops ++ [op]) := by
  obtain ⟨hfit, rfl⟩ := hst
  -- every call but one that makes an interface ready
  have hother : (∀ name t, op ≠ .becomeReady name t) →
      (op.call devs s).Deferred devs
        (op.call devs (OffloadSys.callAll devs { ready := fun _ _ => true } ops)) →
      (op.call devs s).Deferring devs (ops ++ [op]) := fun hop hd => by
    obtain ⟨hready, hparked⟩ := OffloadOp.call_parked devs s hop
    refine ⟨OffloadSys.callAll_snoc ▸ hd, fun e he => ?_, fun e he => ?_⟩
    · rw [OffloadSys.waits_congr hready]
      exact (hparked e he).elim (H.waits e) And.left
    · rcases hparked e he with hold | ⟨-, hname⟩
      · obtain ⟨op', hop', hname⟩ := H.names e hold
        exact ⟨op', List.mem_append_left _ hop', hname⟩
      · exact ⟨op, by simp, hname⟩
  cases op with
  | addDownstream name pfx => exact hother (by simp) (H.deferred.addDownstream hfit)
  | removeDownstream name pfx => exact hother (by simp) (H.deferred.removeDownstream hfit)
  | setUpstream upstreamName v4 v6 =>
      cases upstreamName with
      | none => exact hother (by simp) (H.deferred.clearUpstream hfit.1 hfit.2)
      | some name => exact hother (by simp) (H.deferred.setUpstream hfit)
  | stopAllOffload => exact hother (by simp) (H.deferred.stopAllOffload hfit)
  | becomeReady name t =>
      obtain ⟨hd, hwait, hold⟩ := H.deferred.becomeReady H.waits hfit
      refine ⟨OffloadSys.callAll_snoc ▸ hd, hwait, fun e he => ?_⟩
      obtain ⟨op', hop', hname⟩ := H.names e (hold e he)
      exact ⟨op', List.mem_append_left _ hop', hname⟩

lemma OffloadSys.Deferring.init (ready : String → IpType → Bool) :
    OffloadSys.Deferring devs [] { ready := ready } := by
  have hempty : OffloadSys.parked { ready := ready } = 0 :=
    OffloadSys.parked_of_empty fun _ _ => rfl
  exact ⟨⟨Nat.zero_lt_succ 9, rfl, fun _ _ => rfl, fun _ _ => rfl, by simp [hempty], by simp [hempty],
    fun key => by rw [hempty]; rfl, Or.inl ⟨by simp [hempty], ⟨rfl, rfl⟩⟩, .init ready,
    .init fun _ _ => true⟩, by simp [OffloadSys.AllWait, hempty], by simp [hempty]⟩

end Runs

/-- **Deferring changes nothing**, in a run in which no request would have to supersede one that
waits: once the interfaces of all requests are ready, what was posted for every downstream and the
upstream of every family are the same as if they had been ready from the start. -/
theorem deferring_transparent {devs : NetDevs} {ready : String → IpType → Bool}
    {ops : List OffloadOp} {s : OffloadSys}
    (hr : Run (OffloadOp.FitStep devs) { ready := ready } ops s)
    (hready : ∀ op ∈ ops, ∀ name ∈ op.iface, ∀ t, s.ready name t = true) :
    (∀ key, dsEvents key s.evts =
        dsEvents key (OffloadSys.callAll devs { ready := fun _ _ => true } ops).evts) ∧
      (∀ t, track t s.evts =
        track t (OffloadSys.callAll devs { ready := fun _ _ => true } ops).evts) ∧
      s.SameUp (OffloadSys.callAll devs { ready := fun _ _ => true } ops) := by
  have H : s.Deferring devs ops := hr.history (fun _ _ _ _ h hst => h.step hst) (.init ready)
  have hempty : s.parked = 0 := Multiset.eq_zero_of_forall_notMem fun e he => by
    obtain ⟨op, hop, hname⟩ := H.names e he
    have hw := H.waits e he
    have hall := hready op hop _ hname
    cases e <;> simp [FrameworkEvent.devName] at hall <;>
      simp [OffloadSys.waits, OffloadSys.cacheNeed, hall] at hw
  obtain ⟨-, hup⟩ := H.deferred.sameUp (by simp [hempty])
  refine ⟨fun key => ?_, fun t => ?_, hup⟩
  · rw [← H.deferred.downs key, hempty]
    simp
  · rw [H.deferred.paired.paired t, H.deferred.refPaired.paired t, hup.up, hup.gw]

/-- A downstream and an upstream wait, and their interfaces become ready for one family after the
other. -/
theorem deferring_transparent_two : ∃ s, Run (OffloadOp.FitStep twoNetDevs)
    { ready := fun _ _ => false }
    [.addDownstream "wlan0" { fam := .v4 },
      .setUpstream (some "rmnet0") { fam := .v4 } { fam := .v6, v6Addr := (1, 0, 0, 0) },
      .becomeReady "rmnet0" .v4, .becomeReady "wlan0" .v4, .becomeReady "wlan0" .v6,
      .becomeReady "rmnet0" .v6] s ∧
    dsEvents (1, { fam := .v4 }) s.evts = [true] ∧ track .v6 s.evts = some (some 2) := by
  have hr : Run (OffloadOp.FitStep twoNetDevs) { ready := fun _ _ => false }
      [.addDownstream "wlan0" { fam := .v4 },
        .setUpstream (some "rmnet0") { fam := .v4 } { fam := .v6, v6Addr := (1, 0, 0, 0) },
        .becomeReady "rmnet0" .v4, .becomeReady "wlan0" .v4, .becomeReady "wlan0" .v6,
        .becomeReady "rmnet0" .v6] _ :=
    .cons ⟨by decide +kernel, rfl⟩ (.cons ⟨by decide +kernel, rfl⟩ (.cons ⟨by decide +kernel, rfl⟩
      (.cons ⟨by decide +kernel, rfl⟩ (.cons ⟨by decide +kernel, rfl⟩
        (.cons ⟨by decide +kernel, rfl⟩ (.nil _))))))
  have h := deferring_transparent hr (by decide +kernel)
  refine ⟨_, hr, (h.1 _).trans ?_, (h.2.1 _).trans ?_⟩ <;> decide +kernel

/-- An upstream that waits is not superseded by a later one that is ready at once: when the first
interface becomes ready it takes the upstream away from the second one. -/
theorem deferring_supersedes : ∃ ops s,
    Run (fun s op s' => OffloadOp.call twoNetDevs s op = s')
      { ready := fun name _ => name = "wlan0" } ops s ∧
    (∀ op ∈ ops, ∀ name ∈ op.iface, ∀ t, s.ready name t = true) ∧
    track .v4 s.evts = some (some 2) ∧
    track .v4 (OffloadSys.callAll twoNetDevs { ready := fun _ _ => true } ops).evts =
      some (some 1) := by
  refine ⟨[.setUpstream (some "rmnet0") { fam := .v4 } { fam := .invalid },
    .setUpstream (some "wlan0") { fam := .v4 } { fam := .invalid },
    .becomeReady "rmnet0" .v4, .becomeReady "rmnet0" .v6], _,
    .cons rfl (.cons rfl (.cons rfl (.cons rfl (.nil _)))), ?_⟩
  decide +kernel

end Ipacm
