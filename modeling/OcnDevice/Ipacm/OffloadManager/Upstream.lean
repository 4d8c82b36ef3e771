import OcnDevice.Ipacm.OffloadManager.Model

/-!
# Pairing of the upstream events

The route events of an address family should alternate between an addition and the deletion of just
this addition.  `track` follows them.  Both families share `default_gw_index`, which the deletions
name; `setUpstream` without an interface resets it even when the call mentions only one of two
families that are up, and then the other family's addition can no longer be deleted.
-/

namespace Ipacm

/-! ## Following the events of a family -/

/-- One event: an addition is allowed while the family is down, and a deletion of the interface that
was added. -/
def trackStep (t : IpType) (st : Option (Option ℤ)) : OffloadEvt → Option (Option ℤ)
  | .downstream _ _ _ => st
  | .route add t' index _ =>
      if t' = t then
        match st, add with
        | some none, true => some (some index)
        | some (some i), false => if i = index ∧ index ≠ invalidIface then some none else none
        | _, _ => none
      else st

/-- **The upstream of a family after some events**: the interface that was added last and not
deleted since, or nothing.  There is no answer when the events are not well paired. -/
def track (t : IpType) (evts : List OffloadEvt) : Option (Option ℤ) :=
  evts.foldl (trackStep t) (some none)

/-- **The call cleans what is up**: when it is a `setUpstream` without an interface, it mentions
every family that is up. -/
def OffloadOp.Mentions (s : OffloadSys) : OffloadOp → Prop
  | .setUpstream none v4 v6 => s.mgr.defaultGwIndex ≠ invalidIface →
      (s.mgr.upstreamUp .v4 = true → v4.fam = .v4) ∧ (s.mgr.upstreamUp .v6 = true → v6.fam = .v6)
  | _ => True

instance (s : OffloadSys) : (op : OffloadOp) → Decidable (op.Mentions s)
  | .setUpstream none v4 v6 => inferInstanceAs (Decidable (s.mgr.defaultGwIndex ≠ invalidIface →
      (s.mgr.upstreamUp .v4 = true → v4.fam = .v4) ∧
        (s.mgr.upstreamUp .v6 = true → v6.fam = .v6)))
  | .setUpstream (some _) _ _ | .addDownstream _ _ | .removeDownstream _ _ | .stopAllOffload
  | .becomeReady _ _ => inferInstanceAs (Decidable True)

/-- A call, with what `ipa_get_if_index` knows at the time. -/
def OffloadOp.Step (s : OffloadSys) (c : NetDevs × OffloadOp) (s' : OffloadSys) : Prop :=
  c.2.call c.1 s = s'

/-- A call that cleans what is up. -/
def OffloadOp.MentionStep (s : OffloadSys) (c : NetDevs × OffloadOp) (s' : OffloadSys) : Prop :=
  c.2.Mentions s ∧ OffloadOp.Step s c s'

/-- The events are well paired, and the families that are up are so on interface `i`. -/
def OffloadSys.PairedAt (i : ℤ) (s : OffloadSys) : Prop :=
  ∀ t, track t s.evts = some (if s.mgr.upstreamUp t then some i else none)

/-- **The invariant**: the families that are up are so on `default_gw_index`, which then is a valid
one. -/
structure OffloadSys.Paired (s : OffloadSys) : Prop where
  paired : s.PairedAt s.mgr.defaultGwIndex
  valid : ∀ t, s.mgr.upstreamUp t = true → s.mgr.defaultGwIndex ≠ invalidIface

section Lemmas

variable {s s' : OffloadSys} {t t' : IpType} {i index : ℤ} {gw v4 v6 : Prefix} {devs : NetDevs}
  {name : String} {pfx : Prefix} {evt : OffloadEvt} {e : FrameworkEvent} {n : ℕ} {op : OffloadOp}

lemma track_postEvt : track t (s.postEvt evt).evts = trackStep t (track t s.evts) evt := by
  simp [track, OffloadSys.postEvt]

lemma OffloadSys.PairedAt.down (h : s.PairedAt i) (hdown : ∀ t, s.mgr.upstreamUp t = false) (j : ℤ) :
    s.PairedAt j := fun t => by
  have := h t
  rw [hdown t] at this ⊢
  exact this

/-- Only the upstream part of the state matters. -/
lemma OffloadSys.Paired.congr (h : s.Paired) (hup : s'.mgr.upstreamUp = s.mgr.upstreamUp)
    (hgw : s'.mgr.defaultGwIndex = s.mgr.defaultGwIndex)
    (hev : ∀ t, track t s'.evts = track t s.evts) : s'.Paired := by
  refine ⟨fun t => ?_, fun t ht => ?_⟩
  · rw [hev, hup, hgw]
    exact h.paired t
  · rw [hgw]
    exact h.valid t (hup ▸ ht)

/-- **A family that is cleaned is down**, the other one is as before, and the deletion matches. -/
lemma OffloadSys.PairedAt.delRoute (t : IpType) (gw : Prefix) (h : s.PairedAt i)
    (hgw : s.mgr.upstreamUp t = true → s.mgr.defaultGwIndex = i ∧ i ≠ invalidIface) :
    (s.delRoute t gw).PairedAt i ∧
      (s.delRoute t gw).mgr.upstreamUp = Function.update s.mgr.upstreamUp t false ∧
      (s.delRoute t gw).mgr.defaultGwIndex = s.mgr.defaultGwIndex := by
  unfold OffloadSys.delRoute
  cases hup : s.mgr.upstreamUp t with
  | false =>
      refine ⟨h, ?_, rfl⟩
      change s.mgr.upstreamUp = _
      rw [← hup, Function.update_eq_self]
  | true =>
      obtain ⟨hi, hvalid⟩ := hgw hup
      refine ⟨fun t' => ?_, rfl, rfl⟩
      change track t' (s.postEvt _).evts =
        some (if Function.update s.mgr.upstreamUp t false t' then some i else none)
      rw [track_postEvt, h t']
      by_cases ht : t' = t
      · subst ht
        simp [trackStep, hup, hi, hvalid]
      · simp [trackStep, Ne.symm ht, ht]

/-- **A family that comes up** does so on the interface of the call. -/
lemma OffloadSys.PairedAt.addRoute (h : s.PairedAt i) :
    (s.addRoute t i gw).PairedAt i ∧
      (s.addRoute t i gw).mgr.defaultGwIndex = s.mgr.defaultGwIndex := by
  unfold OffloadSys.addRoute
  cases hup : s.mgr.upstreamUp t with
  | true => exact ⟨h, rfl⟩
  | false =>
      by_cases hzero : t = .v6 ∧ gw.v6Addr = (0, 0, 0, 0)
      · simpa [if_pos hzero] using h
      · simp only [if_neg hzero]
        refine ⟨fun t' => ?_, rfl⟩
        change track t' (s.postEvt _).evts =
          some (if Function.update s.mgr.upstreamUp t true t' then some i else none)
        rw [track_postEvt, h t']
        by_cases ht : t' = t
        · subst ht
          simp [trackStep, hup]
        · simp [trackStep, Ne.symm ht, ht]

/-- Behind the change of the interface, whatever is up is so on the new one. -/
lemma OffloadSys.Paired.switchUpstream (index : ℤ) (v4 v6 : Prefix) (h : s.Paired) :
    (s.switchUpstream index v4 v6).PairedAt index ∧
      ((∃ t, (s.switchUpstream index v4 v6).mgr.upstreamUp t = true) →
        (s.switchUpstream index v4 v6).mgr.defaultGwIndex = index) := by
  unfold OffloadSys.switchUpstream
  by_cases hne : index ≠ s.mgr.defaultGwIndex
  · rw [if_pos hne]
    obtain ⟨h1, hup1, hgw1⟩ := h.paired.delRoute .v4 v4 fun ht => ⟨rfl, h.valid _ ht⟩
    obtain ⟨h2, hup2, -⟩ := h1.delRoute .v6 v6 fun ht => ⟨hgw1, by
      rw [hup1] at ht
      exact h.valid .v6 ht⟩
    have hdown : ∀ t, ((s.delRoute .v4 v4).delRoute .v6 v6).mgr.upstreamUp t = false := fun t => by
      rw [hup2, hup1]
      cases t <;> simp
    refine ⟨h2.down hdown index, fun ⟨t, ht⟩ => ?_⟩
    change ((s.delRoute .v4 v4).delRoute .v6 v6).mgr.upstreamUp t = true at ht
    rw [hdown t] at ht
    simp at ht
  · rw [if_neg hne]
    have heq : index = s.mgr.defaultGwIndex := not_not.mp hne
    exact ⟨heq ▸ h.paired, fun _ => heq.symm⟩

/-- A call that mentions one family. -/
lemma OffloadSys.PairedAt.addOneRoute {other : IpType} {gwOther : Prefix} (h : s.PairedAt index)
    (hgw : (∃ t, s.mgr.upstreamUp t = true) → s.mgr.defaultGwIndex = index) :
    (s.addOneRoute t other index gw gwOther).2.PairedAt index := by
  unfold OffloadSys.addOneRoute
  by_cases hc : s.mgr.upstreamUp other = true ∧ s.mgr.defaultGwIndex ≠ invalidIface
  · simp only [if_pos hc]
    have hi := hgw ⟨other, hc.1⟩
    exact ((h.delRoute _ _ fun _ => ⟨hi, hi ▸ hc.2⟩).1).addRoute.1
  · simp only [if_neg hc]
    exact h.addRoute.1

/-- **`setUpstream` for an interface that is ready.** -/
lemma OffloadSys.Paired.setUpstreamReady (h : s.Paired) (hi : index ≠ invalidIface) :
    (s.setUpstreamReady index v4 v6).2.Paired := by
  obtain ⟨h1, hgw⟩ := h.switchUpstream index v4 v6
  have h2 : ((s.switchUpstream index v4 v6).addRoutes index v4 v6).2.PairedAt index := by
    unfold OffloadSys.addRoutes
    by_cases hb : v4.fam = .v4 ∧ v6.fam = .v6
    · rw [if_pos hb]
      exact h1.addRoute.1.addRoute.1
    · rw [if_neg hb]
      by_cases h4 : v4.fam = .v4
      · rw [if_pos h4]
        exact h1.addOneRoute hgw
      · rw [if_neg h4]
        by_cases h6 : v6.fam = .v6
        · rw [if_pos h6]
          exact h1.addOneRoute hgw
        · rw [if_neg h6]
          exact h1
  exact ⟨h2, fun _ _ => hi⟩

/-- **`setUpstream` without an interface**, when it mentions what is up: nothing is up behind it. -/
lemma OffloadSys.Paired.clearUpstream (v4 v6 : Prefix) (h : s.Paired)
    (hm : (OffloadOp.setUpstream none v4 v6).Mentions s) :
    (s.clearUpstream v4 v6).2.Paired ∧ ∀ t, (s.clearUpstream v4 v6).2.mgr.upstreamUp t = false := by
  unfold OffloadSys.clearUpstream
  by_cases hgw : s.mgr.defaultGwIndex = invalidIface
  · rw [if_pos hgw]
    have hdown : ∀ t, s.mgr.upstreamUp t = false := fun t => by
      by_contra ht
      exact h.valid t (by simpa using ht) hgw
    exact ⟨h.congr rfl rfl fun _ => rfl, hdown⟩
  · rw [if_neg hgw]
    obtain ⟨h4, h6⟩ := hm hgw
    -- each of the two conditional cleanings leaves its family down
    have hclean : ∀ {r : OffloadSys} {t : IpType} {p : Prefix}, r.PairedAt s.mgr.defaultGwIndex →
        r.mgr.defaultGwIndex = s.mgr.defaultGwIndex → (r.mgr.upstreamUp t = true → p.fam = t.fam) →
        (if p.fam = t.fam then r.delRoute t p else r).PairedAt s.mgr.defaultGwIndex ∧
          (if p.fam = t.fam then r.delRoute t p else r).mgr.upstreamUp =
            Function.update r.mgr.upstreamUp t false ∧
          (if p.fam = t.fam then r.delRoute t p else r).mgr.defaultGwIndex =
            s.mgr.defaultGwIndex := by
      intro r t p hr hrgw hfam
      by_cases hp : p.fam = t.fam
      · simp only [if_pos hp]
        obtain ⟨h1, h2, h3⟩ := hr.delRoute t p fun _ => ⟨hrgw, hgw⟩
        exact ⟨h1, h2, h3.trans hrgw⟩
      · simp only [if_neg hp]
        have hoff : r.mgr.upstreamUp t = false := by
          by_contra ht
          exact hp (hfam (by simpa using ht))
        exact ⟨hr, by rw [← hoff, Function.update_eq_self], hrgw⟩
    obtain ⟨a1, a2, a3⟩ := hclean (t := .v4) (p := v4) h.paired rfl h4
    obtain ⟨b1, b2, b3⟩ := hclean (t := .v6) (p := v6) a1 a3 fun ht => by
      rw [a2] at ht
      exact h6 ht
    rw [a2] at b2
    have hdown : ∀ t, Function.update (Function.update s.mgr.upstreamUp .v4 false) .v6 false t =
        false := fun t => by cases t <;> simp
    have hoff : ∀ t, (if v6.fam = .v6 then
        (if v4.fam = .v4 then s.delRoute .v4 v4 else s).delRoute .v6 v6
        else if v4.fam = .v4 then s.delRoute .v4 v4 else s).mgr.upstreamUp t = false := fun t =>
      (congrFun b2 t).trans (hdown t)
    refine ⟨⟨b1.down hoff invalidIface, fun t ht => ?_⟩, hoff⟩
    change (if v6.fam = .v6 then _ else _ : OffloadSys).mgr.upstreamUp t = true at ht
    rw [hoff t] at ht
    simp at ht

lemma NetDevs.ne_invalid (h : devs.index name = some index) : index ≠ invalidIface := by
  have := devs.index_pos name index h
  unfold invalidIface
  omega

/-- Keeping a request in the cache does not touch the rest. -/
lemma OffloadSys.cacheFrom_frame (m : OffloadManager) :
    (OffloadSys.cacheFrom e n m).2.upstreamUp = m.upstreamUp ∧
      (OffloadSys.cacheFrom e n m).2.defaultGwIndex = m.defaultGwIndex ∧
      (OffloadSys.cacheFrom e n m).2.validIfaces = m.validIfaces := by
  induction n generalizing m with
  | zero => exact ⟨rfl, rfl, rfl⟩
  | succ n ih =>
      rw [OffloadSys.cacheFrom]
      cases m.eventCache m.latestCacheIndex with
      | none => exact ⟨rfl, rfl, rfl⟩
      | some _ => exact ih _

lemma OffloadSys.cacheEvent_eq :
    (s.cacheEvent e).2 = { s with mgr := (OffloadSys.cacheFrom e maxEventCache s.mgr).2 } := by
  unfold OffloadSys.cacheEvent
  rcases OffloadSys.cacheFrom e maxEventCache s.mgr with ⟨_ | _, mgr⟩ <;> rfl

lemma OffloadSys.Paired.cacheEvent (h : s.Paired) : (s.cacheEvent e).2.Paired := by
  rw [OffloadSys.cacheEvent_eq]
  obtain ⟨hup, hgw, -⟩ := OffloadSys.cacheFrom_frame (e := e) (n := maxEventCache) s.mgr
  exact h.congr hup hgw fun _ => rfl

lemma OffloadSys.Paired.downstream (h : s.Paired) {add : Bool} :
    (s.postEvt (.downstream add index pfx)).Paired :=
  h.congr rfl rfl fun _ => track_postEvt

lemma OffloadSys.addValidIface_frame (s : OffloadSys) (name : String) :
    (s.addValidIface name).mgr.upstreamUp = s.mgr.upstreamUp ∧
    (s.addValidIface name).mgr.defaultGwIndex = s.mgr.defaultGwIndex ∧
    (s.addValidIface name).mgr.eventCache = s.mgr.eventCache ∧
    (s.addValidIface name).mgr.latestCacheIndex = s.mgr.latestCacheIndex ∧
    (s.addValidIface name).evts = s.evts ∧ (s.addValidIface name).ready = s.ready := by
  unfold OffloadSys.addValidIface
  split_ifs <;> exact ⟨rfl, rfl, rfl, rfl, rfl, rfl⟩

lemma OffloadSys.Paired.addValidIface (h : s.Paired) : (s.addValidIface name).Paired := by
  obtain ⟨hup, hgw, -, -, hev, -⟩ := s.addValidIface_frame name
  exact h.congr hup hgw fun _ => by rw [hev]

lemma OffloadSys.Paired.addDownstream (h : s.Paired) :
    (s.addDownstream devs name pfx).2.Paired := by
  unfold OffloadSys.addDownstream
  cases devs.index name with
  | none => exact h
  | some index =>
      simp only
      split_ifs
      · exact h.addValidIface.cacheEvent
      · exact h.addValidIface.downstream

lemma OffloadSys.Paired.removeDownstream (h : s.Paired) :
    (s.removeDownstream devs name pfx).2.Paired := by
  unfold OffloadSys.removeDownstream
  by_cases hname : name = ""
  · rwa [if_pos hname]
  rw [if_neg hname]
  by_cases hmem : name ∉ s.mgr.validIfaces
  · rwa [if_pos hmem]
  rw [if_neg hmem]
  cases devs.index name with
  | none => exact h
  | some index => exact h.downstream

/-- `setUpstream` for an interface, ready or not. -/
lemma OffloadSys.Paired.setUpstream (h : s.Paired) :
    (s.setUpstream devs (some name) v4 v6).2.Paired := by
  unfold OffloadSys.setUpstream
  cases hi : devs.index name with
  | none => simpa [hi] using h
  | some index =>
      simp only [hi]
      split_ifs
      · exact h.cacheEvent
      · exact h.setUpstreamReady (NetDevs.ne_invalid hi)

/-- What the events say behind `stopAllOffload`: nothing is up. -/
lemma OffloadSys.Paired.stopAllOffload (h : s.Paired) : s.stopAllOffload.2.Paired ∧
    ∀ t, track t s.stopAllOffload.2.evts = some none := by
  obtain ⟨hc, hdown⟩ := h.clearUpstream { fam := .v4 } { fam := .v6 }
    fun _ => ⟨fun _ => rfl, fun _ => rfl⟩
  have htrack : ∀ t, track t s.stopAllOffload.2.evts = some none := fun t => by
    have := hc.paired t
    rw [hdown t] at this
    exact this
  exact ⟨⟨htrack, fun t ht => by simp [OffloadSys.stopAllOffload] at ht⟩, htrack⟩

lemma OffloadSys.Paired.searchFramworkCache (h : s.Paired) :
    (s.searchFramworkCache devs name).Paired := by
  refine forUpTo_preserves (P := OffloadSys.Paired) h fun i r _ hr => ?_
  unfold OffloadSys.searchSlot
  cases r.mgr.eventCache i with
  | none => exact hr
  | some e =>
      simp only
      split_ifs
      · have hreplay : (r.replay devs e).Paired := by
          cases e with
          | downstreamAdd devName pfx => exact hr.addDownstream
          | upstreamRouteAdd devName v4 v6 => exact hr.setUpstream
        exact hreplay.congr rfl rfl fun _ => rfl
      · exact hr

/-- **Each call that cleans what is up keeps the events paired.** -/
theorem OffloadSys.Paired.step {c : NetDevs × OffloadOp} (h : s.Paired)
    (hst : OffloadOp.MentionStep s c s') : s'.Paired := by
  obtain ⟨devs, op⟩ := c
  obtain ⟨hm, rfl⟩ := hst
  cases op with
  | addDownstream name pfx => exact h.addDownstream
  | removeDownstream name pfx => exact h.removeDownstream
  | setUpstream upstreamName v4 v6 =>
      cases upstreamName with
      | none => exact (h.clearUpstream v4 v6 hm).1
      | some name => exact h.setUpstream
  | stopAllOffload => exact h.stopAllOffload.1
  | becomeReady name t =>
      have hready : (s.setReady name t).Paired := h.congr rfl rfl fun _ => rfl
      exact hready.searchFramworkCache

lemma OffloadSys.Paired.init (ready : String → IpType → Bool) :
    OffloadSys.Paired { ready := ready } :=
  ⟨fun _ => rfl, fun _ h => by simp at h⟩

end Lemmas

/-- **Upstream events are well paired**, whichever interfaces are ready: the route events of each
family alternate, each deletion names the interface of its addition, the flag of the family tells
which of the two came last, and `stopAllOffload` leaves no addition without its deletion. -/
theorem upstream_paired {ready : String → IpType → Bool} {calls : List (NetDevs × OffloadOp)}
    {s : OffloadSys} (hr : Run OffloadOp.MentionStep { ready := ready } calls s) (t : IpType) :
    (∃ st, track t s.evts = some st ∧ (s.mgr.upstreamUp t = true ↔ st.isSome) ∧
        ∀ i ∈ st, i = s.mgr.defaultGwIndex ∧ i ≠ invalidIface) ∧
      track t s.stopAllOffload.2.evts = some none := by
  have H : s.Paired := hr.invariant (fun _ _ _ h hst => h.step hst) (.init ready)
  refine ⟨⟨_, H.paired t, ?_, fun i hi => ?_⟩, H.stopAllOffload.2 t⟩
  · cases s.mgr.upstreamUp t <;> simp
  · cases hup : s.mgr.upstreamUp t with
    | false => simp [hup] at hi
    | true =>
        obtain rfl : s.mgr.defaultGwIndex = i := by simpa [hup] using hi
        exact ⟨rfl, H.valid t hup⟩

/-- Two interfaces: `wlan0` with index 1 and `rmnet0` with index 2. -/
def twoNetDevs : NetDevs where
  index name := if name = "wlan0" then some 1 else if name = "rmnet0" then some 2 else none
  index_pos name i h := by
    split_ifs at h with h1 h2
    · obtain rfl := Option.some.inj h
      decide
    · obtain rfl := Option.some.inj h
      decide

/-- IPv4 comes up on `rmnet0`, then both families on `wlan0`, and the upstream is taken away. -/
theorem upstream_paired_switch : ∃ s, Run OffloadOp.MentionStep { ready := fun _ _ => true }
    [(twoNetDevs, .setUpstream (some "rmnet0") { fam := .v4 } { fam := .invalid }),
      (twoNetDevs, .setUpstream (some "wlan0") { fam := .v4 } { fam := .v6, v6Addr := (1, 0, 0, 0) }),
      (twoNetDevs, .setUpstream none { fam := .v4 } { fam := .v6 })] s ∧
    track .v4 s.stopAllOffload.2.evts = some none := by
  have hr : Run OffloadOp.MentionStep { ready := fun _ _ => true }
      [(twoNetDevs, .setUpstream (some "rmnet0") { fam := .v4 } { fam := .invalid }),
        (twoNetDevs,
          .setUpstream (some "wlan0") { fam := .v4 } { fam := .v6, v6Addr := (1, 0, 0, 0) }),
        (twoNetDevs, .setUpstream none { fam := .v4 } { fam := .v6 })] _ :=
    .cons ⟨trivial, rfl⟩ (.cons ⟨trivial, rfl⟩ (.cons ⟨by decide +kernel, rfl⟩ (.nil _)))
  exact ⟨_, hr, (upstream_paired hr .v4).2⟩

/-- IPv4 is up, and the upstream is taken away for IPv6 only: the addition for IPv4 stays for
good. -/
theorem upstream_unpaired : ∃ calls s, Run OffloadOp.Step { ready := fun _ _ => true } calls s ∧
    track .v4 s.stopAllOffload.2.evts ≠ some none := by
  refine ⟨[(twoNetDevs, .setUpstream (some "rmnet0") { fam := .v4 } { fam := .invalid }),
    (twoNetDevs, .setUpstream none { fam := .invalid } { fam := .v6 })], _,
    .cons rfl (.cons rfl (.nil _)), ?_⟩
  decide +kernel

end Ipacm
