import OcnDevice.Ipacm.WlanRules.Books

/-!
# Switching between the modes

When the radio begins or ends to serve two channels, `handle_SCC_MCC_switch` goes over the rules of
the clients and writes them again for the mode that is now (`Booked.switch`).

For IPv4 it goes over the rules of all clients whose `power_save_set` is not set.  For IPv6 its loop
begins at `route_rule_set_v6`, behind the last address that has rules, so it writes none at all
(`switchRules_v6`).  Hence the rules are `Right` afterwards just if those it does not reach lead to
the right pipe before (`switch_right_iff`).
-/

namespace Ipacm.WlanRules

open HandleTable Finset IfaceProps

variable {A : Type*} {p : IfaceProps A} {c : WlanClient} {x : RtHdl} {fam : IpType}
  {R : Multiset (ℕ × RtRule A)} {a : WlanClient × HandleTable (RtRule A)} {isMCCMode b b' : Bool}
  {Q : Bool → Prop} {s s' : WlanIface A} {es : List WlanEvent} {event : WlanEvent} {i : ℕ}

/-! ## What a switch writes -/

/-- The books say nothing of the mode and the prefix. -/
lemma Booked.mode {m : ℕ → RtHdl → Bool} (h : Booked p m s) (isMCCMode : Bool)
    (ipv6Prefix : UInt32 × UInt32) : Booked p m { s with isMCCMode, ipv6Prefix } :=
  ⟨h.hasTx, h.sane, h.misses, h.rules⟩

lemma switchRules_v6 : p.switchRules c .v6 = [] := by
  rw [switchRules]
  split_ifs with hskip
  · rfl
  · rw [not_or, not_lt] at hskip
    rw [v6WanRules, List.Ico.eq_nil_of_le hskip.2]
    simp

lemma nodup_switchRules : (p.switchRules c fam).Nodup := by
  cases fam with
  | v4 =>
      rw [switchRules]
      split_ifs
      · exact List.nodup_nil
      · exact nodup_v4Rules
  | v6 =>
      rw [switchRules_v6]
      exact List.nodup_nil

lemma mem_switchRules : x ∈ p.switchRules c fam ↔
    fam = .v4 ∧ c.powerSaveSet = false ∧ c.routeRuleSetV4 = true ∧ x ∈ p.v4Rules := by
  cases fam with
  | v4 => cases hs : c.powerSaveSet <;> cases hr : c.routeRuleSetV4 <;> simp [switchRules, hs, hr]
  | v6 => simp [switchRules_v6]

lemma mem_inUse_of_mem_switchRules (hx : x ∈ p.switchRules c fam) : x ∈ p.inUse c := by
  obtain ⟨-, -, hset, hx⟩ := mem_switchRules.mp hx
  cases x <;> simp_all

/-- A rule that is written again is the one that would be installed now. -/
lemma mdfyRule_eq (hx : x ∈ p.switchRules c fam) :
    p.mdfyRule isMCCMode c x (p.rtRule b c x) = p.rtRule isMCCMode c x := by
  obtain ⟨-, -, -, hx⟩ := mem_switchRules.mp hx
  cases x with
  | v4 k => rfl
  | v6 k num => simp at hx
  | v6Wan k num => simp at hx

lemma ClientBooks.switch {m : RtHdl → Bool} (h : ClientBooks p R m a) (isMCCMode : Bool)
    (fam : IpType) :
    ClientBooks p R (fun x => if x ∈ p.switchRules a.1 fam then isMCCMode else m x)
      (p.switchClient a isMCCMode fam) := by
  obtain ⟨hent, hmiss⟩ := entries_modifyAll (f := p.mdfyRule isMCCMode a.1) h.rules
    (nodup_switchRules (p := p) (c := a.1)) fun x => mem_inUse_of_mem_switchRules (p := p)
  refine ⟨h.sane, hmiss.trans h.misses, ?_⟩
  rw [switchClient, hent, rulesOf]
  refine congrArg (R + ·) (known_congr (fun _ _ => rfl) fun x _ => ?_)
  split_ifs with hx
  · exact mdfyRule_eq hx
  · rfl

/-- The modes in which the rules are written when a switch has gone over the first `k` clients. -/
def switched (p : IfaceProps A) (m : ℕ → RtHdl → Bool) (s : WlanIface A) (fam : IpType)
    (k i : ℕ) (x : RtHdl) : Bool :=
  if i < k ∧ x ∈ p.switchRules (s.wlanClient i) fam then s.isMCCMode else m i x

/-- **A switch keeps the books**: what it goes over is written for the mode that is now. -/
theorem Booked.switch {m : ℕ → RtHdl → Bool} (h : Booked p m s) (fam : IpType) :
    Booked p (switched p m s fam s.numWifiClient) (s.handleSCCMCCSwitch p fam) ∧
      (s.handleSCCMCCSwitch p fam).numWifiClient = s.numWifiClient ∧
      (s.handleSCCMCCSwitch p fam).wlanClient = s.wlanClient ∧
      (s.handleSCCMCCSwitch p fam).isMCCMode = s.isMCCMode := by
  have hzero : switched p m s fam 0 = m := by
    funext i x
    exact if_neg fun h => Nat.not_lt_zero _ h.1
  rw [WlanIface.handleSCCMCCSwitch]
  split_ifs with htx
  · have hnum : s.numWifiClient = 0 := by
      by_contra hpos
      simp [h.hasTx (Nat.pos_of_ne_zero hpos)] at htx
    rw [hnum, hzero]
    exact ⟨h, rfl, rfl, rfl⟩
  · refine forUpTo_invariant (P := fun k t => Booked p (switched p m s fam k) t ∧
      t.numWifiClient = s.numWifiClient ∧ t.wlanClient = s.wlanClient ∧ t.isMCCMode = s.isMCCMode)
      ⟨by rwa [hzero], rfl, rfl, rfl⟩ ?_
    rintro k t hk ⟨ht, hnum, hclient, hmode⟩
    refine ⟨?_, hnum, ?_, hmode⟩
    · have hbook := ht.onClient (f := fun a => p.switchClient a t.isMCCMode fam) (hnum ▸ hk)
        ((ht.client (hnum ▸ hk)).switch t.isMCCMode fam)
      have hmodes : Function.update (switched p m s fam k) k (fun x =>
          if x ∈ p.switchRules (t.wlanClient k) fam then t.isMCCMode
          else switched p m s fam k k x) = switched p m s fam (k + 1) := by
        funext i x
        rcases eq_or_ne i k with rfl | hne
        · simp [switched, hclient, hmode]
        · have hlt : i < k + 1 ↔ i < k := by omega
          simp [switched, Function.update_of_ne hne, hlt]
      rwa [hmodes] at hbook
    · simp only [WlanIface.onClient, switchClient]
      rw [Function.update_eq_self, hclient]

/-- **Every event keeps the books.** -/
theorem BookedIn.step (h : BookedIn p Q s) (hmode : Q s.isMCCMode) (hst : event.Step p s s') :
    BookedIn p Q s' := by
  subst hst
  cases event with
  | clientAdd total attrib hdrHdl =>
      obtain ⟨m, hm, hbooked⟩ := h
      exact ⟨m, hm, hbooked.initEx⟩
  | clientDel mac => exact h.downEvt
  | clientPowerSave mac => exact h.onMac fun R a ⟨m, hm, ha⟩ => ⟨m, hm, ha.pwrsave⟩
  | clientRecover mac pick => exact h.onMac fun R a ha => ha.recover hmode
  | ipAddrAdd mac addr pick => exact h.onMac fun R a ha => ha.ipAddrAdd hmode
  | resetRt => exact h.resetRt
  | newPrefix q =>
      obtain ⟨m, hm, hbooked⟩ := h
      exact ⟨m, hm, hbooked.mode s.isMCCMode q⟩
  | mode isMCCMode =>
      obtain ⟨m, hm, hbooked⟩ := h
      exact ⟨m, hm, hbooked.mode isMCCMode s.ipv6Prefix⟩
  | switch fam =>
      obtain ⟨m, hm, hbooked⟩ := h
      refine ⟨_, fun i x => ?_, (hbooked.switch fam).1⟩
      rw [switched]
      split_ifs
      · exact hmode
      · exact hm i x

/-- **The records account for the rules in every run.** -/
theorem booked_of_run (hr : Run (WlanEvent.Step p) (.init A) es s) : ∃ m, Booked p m s := by
  have hin : BookedIn p (fun _ => True) s :=
    hr.invariant (P := BookedIn p fun _ => True) (fun _ _ _ h hst => h.step trivial hst)
      ⟨fun _ _ => false, fun _ _ => trivial, .init⟩
  obtain ⟨m, -, hbooked⟩ := hin
  exact ⟨m, hbooked⟩

/-! ## The rules of packets that come down -/

/-- The element keeps the handle of a rule for packets that come down from the WAN. -/
def RtHdl.isDown : IpType → RtHdl → Bool
  | .v4, .v4 _ => true
  | .v6, .v6Wan _ _ => true
  | _, _ => false

/-- The table that such packets are looked up in. -/
def downTbl : IpType → RtTbl
  | .v4 => .lanV4
  | .v6 => .wanV6

/-- The tx property of a rule. -/
def RtHdl.tx : RtHdl → ℕ
  | .v4 k => k
  | .v6 k _ => k
  | .v6Wan k _ => k

/-- **The rules for packets that come down are right**: each belongs to a client, and those of the
clients that are not in power save mode, whichever these are, are what
`handle_wlan_client_route_rule` would install now. -/
structure Right (p : IfaceProps A) (fam : IpType) (awake : ℕ → Prop) (s : WlanIface A) :
    Prop where
  owned : ∀ e ∈ s.rules.entries, e.2.tbl = downTbl fam →
    ∃ i < s.numWifiClient, ∃ x ∈ p.inUse (s.wlanClient i), x.isDown fam = true ∧
      e.1 = (s.wlanClient i).wifiRtHdl x
  current : ∀ i < s.numWifiClient, awake i → ∀ x ∈ p.inUse (s.wlanClient i),
    x.isDown fam = true →
      ((s.wlanClient i).wifiRtHdl x, p.rtRule s.isMCCMode (s.wlanClient i) x) ∈ s.rules.entries

/-- **What a switch does not reach is right already**: the IPv4 rules of clients whose
`power_save_set` is set, and all IPv6 rules, lead to the pipe of the mode that is now. -/
def SkippedRight (p : IfaceProps A) (fam : IpType) (awake : ℕ → Prop) (s : WlanIface A) : Prop :=
  ∀ i < s.numWifiClient, awake i → (fam = .v4 → (s.wlanClient i).powerSaveSet = true) →
    ∀ x ∈ p.inUse (s.wlanClient i), x.isDown fam = true →
      ∃ r, ((s.wlanClient i).wifiRtHdl x, r) ∈ s.rules.entries ∧ r.dst = p.dstPipe s.isMCCMode x.tx

lemma tbl_rtRule : (p.rtRule b c x).tbl = downTbl fam ↔ x.isDown fam = true := by
  cases x <;> cases fam <;> simp [rtRule, downTbl, RtHdl.isDown]

lemma dst_rtRule (hx : x.isDown fam = true) : (p.rtRule b c x).dst = p.dstPipe b x.tx := by
  cases x with
  | v4 k => rfl
  | v6 k num => cases fam <;> simp [RtHdl.isDown] at hx
  | v6Wan k num => rfl

/-- A rule for packets that come down depends on the mode by its pipe only. -/
lemma rtRule_eq_iff (hx : x.isDown fam = true) :
    p.rtRule b c x = p.rtRule b' c x ↔ p.dstPipe b x.tx = p.dstPipe b' x.tx := by
  constructor
  · intro h
    rw [← dst_rtRule (p := p) (b := b) (c := c) hx, h, dst_rtRule hx]
  · intro h
    cases x with
    | v4 k => simp only [rtRule, show p.dstPipe b k = p.dstPipe b' k from h]
    | v6 k num => rfl
    | v6Wan k num => simp only [rtRule, show p.dstPipe b k = p.dstPipe b' k from h]

namespace Booked

variable {m : ℕ → RtHdl → Bool} {r : RtRule A} {awake : ℕ → Prop}

/-- The rule under a handle that is in use. -/
lemma mem_iff (h : Booked p m s) (hi : i < s.numWifiClient) (hx : x ∈ p.inUse (s.wlanClient i)) :
    ((s.wlanClient i).wifiRtHdl x, r) ∈ s.rules.entries ↔
      r = p.rtRule (m i x) (s.wlanClient i) x := by
  have hmem : ((s.wlanClient i).wifiRtHdl x, p.rtRule (m i x) (s.wlanClient i) x) ∈
      s.rules.entries := by
    rw [h.rules, Multiset.mem_sum]
    exact ⟨i, mem_range.mpr hi, mem_known.mpr ⟨x, hx, rfl⟩⟩
  constructor
  · intro hr
    exact HandleTable.eq_of_mem hr hmem
  · rintro rfl
    exact hmem

/-- Every rule for packets that come down belongs to a client. -/
lemma owned (h : Booked p m s) {e : ℕ × RtRule A} (he : e ∈ s.rules.entries)
    (htbl : e.2.tbl = downTbl fam) :
    ∃ i < s.numWifiClient, ∃ x ∈ p.inUse (s.wlanClient i), x.isDown fam = true ∧
      e.1 = (s.wlanClient i).wifiRtHdl x := by
  rw [h.rules, Multiset.mem_sum] at he
  obtain ⟨i, hi, he⟩ := he
  obtain ⟨x, hx, rfl⟩ := mem_known.mp he
  exact ⟨i, mem_range.mp hi, x, hx, tbl_rtRule.mp htbl, rfl⟩

/-- The rules are right just if each was written for a pipe of the mode that is now. -/
lemma right_iff (h : Booked p m s) : Right p fam awake s ↔
    ∀ i < s.numWifiClient, awake i → ∀ x ∈ p.inUse (s.wlanClient i), x.isDown fam = true →
      p.dstPipe (m i x) x.tx = p.dstPipe s.isMCCMode x.tx := by
  constructor
  · intro hright i hi hawake x hx hdown
    have hmem := (h.mem_iff hi hx).mp (hright.current i hi hawake x hx hdown)
    exact ((rtRule_eq_iff hdown).mp hmem).symm
  · refine fun hall => ⟨fun e he htbl => h.owned he htbl, fun i hi hawake x hx hdown => ?_⟩
    exact (h.mem_iff hi hx).mpr ((rtRule_eq_iff hdown).mpr (hall i hi hawake x hx hdown).symm)

/-- What was skipped was right just if it was written for a pipe of the mode that is now. -/
lemma skippedRight_iff (h : Booked p m s) : SkippedRight p fam awake s ↔
    ∀ i < s.numWifiClient, awake i → (fam = .v4 → (s.wlanClient i).powerSaveSet = true) →
      ∀ x ∈ p.inUse (s.wlanClient i), x.isDown fam = true →
        p.dstPipe (m i x) x.tx = p.dstPipe s.isMCCMode x.tx := by
  refine forall_congr' fun i => forall₃_congr fun hi _ _ => forall₃_congr fun x hx hdown => ?_
  constructor
  · rintro ⟨r, hr, hdst⟩
    rw [(h.mem_iff hi hx).mp hr, dst_rtRule hdown] at hdst
    exact hdst
  · intro hpipe
    exact ⟨_, (h.mem_iff hi hx).mpr rfl, (dst_rtRule hdown).trans hpipe⟩

end Booked

/-- A rule for packets that come down is one that the switch goes over, or is skipped. -/
lemma mem_switchRules_iff (hx : x ∈ p.inUse c) (hdown : x.isDown fam = true) :
    x ∈ p.switchRules c fam ↔ fam = .v4 ∧ c.powerSaveSet = false := by
  rw [mem_switchRules]
  constructor
  · rintro ⟨hfam, hsave, -, -⟩
    exact ⟨hfam, hsave⟩
  · rintro ⟨rfl, hsave⟩
    cases x with
    | v4 k =>
        obtain ⟨hset, hk⟩ := v4_mem_inUse.mp hx
        exact ⟨rfl, hsave, hset, v4_mem_v4Rules.mpr hk⟩
    | v6 k num => simp [RtHdl.isDown] at hdown
    | v6Wan k num => simp [RtHdl.isDown] at hdown

/-- The rules are right after a switch just if those that it skips were before. -/
theorem Booked.switch_right {m : ℕ → RtHdl → Bool} (h : Booked p m s) (fam : IpType)
    (awake : ℕ → Prop) :
    Right p fam awake (s.handleSCCMCCSwitch p fam) ↔ SkippedRight p fam awake s := by
  obtain ⟨hafter, hnum, hclient, hmode⟩ := h.switch fam
  rw [hafter.right_iff, h.skippedRight_iff, hnum, hclient, hmode]
  refine forall_congr' fun i => forall₂_congr fun hi _ => ?_
  constructor
  · intro hall hskip x hx hdown
    have hnot : x ∉ p.switchRules (s.wlanClient i) fam := fun hmem => by
      obtain ⟨hfam, hsave⟩ := (mem_switchRules_iff hx hdown).mp hmem
      simp [hskip hfam] at hsave
    have hx' := hall x hx hdown
    rwa [switched, if_neg fun h => hnot h.2] at hx'
  · intro hskip x hx hdown
    rw [switched]
    split_ifs with hmem
    · rfl
    · refine hskip (fun hfam => ?_) x hx hdown
      by_contra hsave
      exact hmem ⟨hi, (mem_switchRules_iff hx hdown).mpr ⟨hfam, by simpa using hsave⟩⟩

/-- **The IPv4 rules of the clients whose `power_save_set` is not set are right after a switch.** -/
theorem switch_v4_right (hr : Run (WlanEvent.Step p) (.init A) es s) :
    Right p .v4 (fun i => (s.wlanClient i).powerSaveSet = false) (s.handleSCCMCCSwitch p .v4) := by
  obtain ⟨m, h⟩ := booked_of_run hr
  refine (h.switch_right .v4 _).mpr fun i _ hawake hskip => ?_
  simp [hskip rfl] at hawake

/-- **In every run the rules are right after a switch just if those that it skips were before.** -/
theorem switch_right_iff (hr : Run (WlanEvent.Step p) (.init A) es s) (fam : IpType)
    (awake : ℕ → Prop) :
    Right p fam awake (s.handleSCCMCCSwitch p fam) ↔ SkippedRight p fam awake s := by
  obtain ⟨m, h⟩ := booked_of_run hr
  exact h.switch_right fam awake

/-- An interface with a tx property of each family, which another pipe leads to in MCC mode. -/
def twoTx : IfaceProps Unit :=
  ⟨true, 2, fun k => if k = 0 then ⟨.v4, (), 10, 11⟩ else ⟨.v6, (), 10, 11⟩, 5⟩

/-- A client comes and gets an address, and then the mode changes. -/
def comesThenMode (addr : DstAddr) : List WlanEvent :=
  [.clientAdd 0 (some 1) fun _ => 7, .ipAddrAdd 1 addr fun _ => 0, .mode true]

/-- The state that it leads to. -/
def afterMode (addr : DstAddr) : WlanIface Unit :=
  (comesThenMode addr).foldl (fun s event => event.exec twoTx s) (.init Unit)

lemma run_afterMode (addr : DstAddr) :
    Run (WlanEvent.Step twoTx) (.init Unit) (comesThenMode addr) (afterMode addr) :=
  .cons rfl (.cons rfl (.cons rfl (.nil _)))

/-- The IPv4 rule of such a client leads to the pipe of MCC mode after the switch. -/
theorem v4_rule_is_switched : ∃ es s, Run (WlanEvent.Step twoTx) (.init Unit) es s ∧
    s.isMCCMode = true ∧ (s.wlanClient 0).routeRuleSetV4 = true ∧
    Right twoTx .v4 (fun i => (s.wlanClient i).powerSaveSet = false)
      (s.handleSCCMCCSwitch twoTx .v4) := by
  have hr := run_afterMode (.v4 0xC0A80102)
  refine ⟨_, _, hr, rfl, by decide, (switch_right_iff hr .v4 _).mpr fun i _ hawake hskip => ?_⟩
  simp [hskip rfl] at hawake

/-- **The IPv6 rule of such a client leads to the old pipe** after the switch. -/
theorem v6_rule_is_not_switched : ∃ es s, Run (WlanEvent.Step twoTx) (.init Unit) es s ∧
    ¬ Right twoTx .v6 (fun i => (s.wlanClient i).powerSaveSet = false)
      (s.handleSCCMCCSwitch twoTx .v6) := by
  refine ⟨_, _, run_afterMode (.v6 (0xFE800000, 0, 0, 1)), fun hright => ?_⟩
  have hmem := hright.current 0 (by decide) (by decide) (.v6Wan 1 0) (by decide) rfl
  revert hmem
  decide

end Ipacm.WlanRules
