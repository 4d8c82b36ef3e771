import OcnDevice.Ipacm.LanUplink.Model

/-!
# Installing and removing the rules of a family

`own` is what an interface has installed for a family, by its handles.  `addUlRules` installs it
(`addUlRules_spec`) just if the driver does all it is asked for, `AddOk`, and `wanDown` removes it
(`wanDown_spec`) just if `DelOk`; otherwise the flags, or the count of rules, say something else
afterwards.  Where nothing is installed, `wanDown` gets the count wrong or passes a wrong handle
(`wanDown_spare`).  All of it leaves the other family alone (`Frame`).
-/

namespace Ipacm.LanUplink

open HandleTable WlanRules WanRoutes
open UplinkFilter (maxWanUlFilterRules)

variable {a b c : LanAt} {f h : IpType} {ans : UlAns} {g : LanShared} {isSta kind : Bool}
  {T : Multiset (ℕ × FltRule)}

/-! ## Frames -/

/-- What the functions for a family leave alone. -/
structure Frame (f : IpType) (a b : LanAt) : Prop where
  active : b.1.isActive = a.1.isActive
  ip : b.1.ipType = a.1.ipType
  up : b.1.isUpstreamSet = a.1.isUpstreamSet
  down : b.1.isDownstreamSet = a.1.isDownstreamSet
  modem : ∀ h ≠ f, b.1.modemUlSet h = a.1.modemUlSet h
  sta : ∀ h ≠ f, b.1.staUlSet h = a.1.staUlSet h
  hdls : ∀ h ≠ f, b.1.wanUlFlRuleHdl h = a.1.wanUlFlRuleHdl h
  staHdl : ∀ h ≠ f, b.1.staUlFlRuleHdl h = a.1.staUlFlRuleHdl h
  prefixHdl : f ≠ .v6 → b.1.ipv6PrefixFltRuleHdl = a.1.ipv6PrefixFltRuleHdl
  count : ∀ h ≠ f, b.2.fltRuleCount h = a.2.fltRuleCount h

lemma Frame.refl (f : IpType) (a : LanAt) : Frame f a a :=
  ⟨rfl, rfl, rfl, rfl, fun _ _ => rfl, fun _ _ => rfl, fun _ _ => rfl, fun _ _ => rfl, fun _ => rfl,
    fun _ _ => rfl⟩

lemma Frame.trans (h1 : Frame f a b) (h2 : Frame f b c) : Frame f a c where
  active := h2.active.trans h1.active
  ip := h2.ip.trans h1.ip
  up := h2.up.trans h1.up
  down := h2.down.trans h1.down
  modem := fun h hh => (h2.modem h hh).trans (h1.modem h hh)
  sta := fun h hh => (h2.sta h hh).trans (h1.sta h hh)
  hdls := fun h hh => (h2.hdls h hh).trans (h1.hdls h hh)
  staHdl := fun h hh => (h2.staHdl h hh).trans (h1.staHdl h hh)
  prefixHdl := fun hf => (h2.prefixHdl hf).trans (h1.prefixHdl hf)
  count := fun h hh => (h2.count h hh).trans (h1.count h hh)

/-! ## Deleting handles -/

@[simp] lemma noteDel_rules (k : ℕ) (r : FltRule) : (noteDel k r g).rules = g.rules := by
  unfold noteDel
  split_ifs <;> rfl

@[simp] lemma noteDel_count (k : ℕ) (r : FltRule) :
    (noteDel k r g).fltRuleCount = g.fltRuleCount := by
  unfold noteDel
  split_ifs <;> rfl

lemma noteDel_mem {k : ℕ} {r : FltRule} (hk : (k, r) ∈ g.rules.entries) : noteDel k r g = g :=
  if_pos hk

lemma noteDel_not_mem {k : ℕ} {r : FltRule} (hk : (k, r) ∉ g.rules.entries) :
    (noteDel k r g).wrongDels = g.wrongDels + 1 := by
  rw [noteDel, if_neg hk]

lemma noteDel_le (k : ℕ) (r : FltRule) : g.wrongDels ≤ (noteDel k r g).wrongDels := by
  unfold noteDel
  split_ifs
  · exact le_rfl
  · exact Nat.le_succ _

lemma entries_del_le (t : HandleTable FltRule) (k : ℕ) : (t.del k).entries ≤ t.entries := by
  rw [HandleTable.del]
  split_ifs
  · exact Multiset.filter_le _ _
  · exact le_rfl

/-- Whatever is deleted, the counts are not changed by it, wrong deletions are never taken back, and
no rule is added. -/
lemma deleteFilteringHdls_frame (ans : UlAns) (l : List (ℕ × FltRule)) (g : LanShared) :
    (deleteFilteringHdls ans l g).1.fltRuleCount = g.fltRuleCount ∧
      g.wrongDels ≤ (deleteFilteringHdls ans l g).1.wrongDels ∧
      (deleteFilteringHdls ans l g).1.rules.entries ≤ g.rules.entries := by
  induction l generalizing g with
  | nil => exact ⟨rfl, le_rfl, le_rfl⟩
  | cons e l ih =>
      obtain ⟨k, r⟩ := e
      rw [deleteFilteringHdls]
      dsimp only
      split_ifs with h0 hdel
      · exact ih g
      · obtain ⟨h1, h2, h3⟩ := ih { noteDel k r g with rules := (noteDel k r g).rules.del k }
        refine ⟨h1.trans (noteDel_count k r), (noteDel_le k r).trans h2, h3.trans ?_⟩
        simpa using entries_del_le g.rules k
      · exact ⟨noteDel_count k r, noteDel_le k r, by simp⟩

/-- **Handles of rules that are installed.** -/
lemma deleteFilteringHdls_own (ans : UlAns) (l : List (ℕ × FltRule)) (hT : g.rules.entries = T + (l : Multiset _)) :
    (deleteFilteringHdls ans l g).1.wrongDels = g.wrongDels ∧
      ((deleteFilteringHdls ans l g).2 = true ↔ ∀ e ∈ l, ans.del e.2 = true) ∧
      ((deleteFilteringHdls ans l g).2 = true →
        (deleteFilteringHdls ans l g).1.rules.entries = T) := by
  induction l generalizing g with
  | nil => exact ⟨rfl, by simp [deleteFilteringHdls], fun _ => by simpa [deleteFilteringHdls] using hT⟩
  | cons e l ih =>
      obtain ⟨k, r⟩ := e
      have hT' : g.rules.entries = (T + (l : Multiset _)) + {(k, r)} := by
        rw [hT, add_assoc, ← Multiset.cons_coe, ← Multiset.singleton_add, add_comm {(k, r)}]
      have hmem : (k, r) ∈ g.rules.entries := by rw [hT']; simp
      have hk : k ≠ 0 := g.rules.pos _ hmem
      rw [deleteFilteringHdls, if_neg hk, noteDel_mem hmem]
      dsimp only
      split_ifs with hdel
      · obtain ⟨h1, h2, h3⟩ := ih (g := { g with rules := g.rules.del k }) (entries_del hT')
        refine ⟨h1, h2.trans ?_, h3⟩
        simp [hdel.2]
      · have hno : ans.del r ≠ true := fun h => hdel ⟨mem_handles hT', h⟩
        exact ⟨rfl, by simp [hno], nofun⟩

/-- **A handle that does not stand for the rule** is passed over, or it is a wrong one. -/
lemma deleteFilteringHdls_spare (ans : UlAns) {k : ℕ} {r : FltRule} (hk : (k, r) ∉ g.rules.entries) :
    deleteFilteringHdls ans [(k, r)] g = (g, true) ∨
      (deleteFilteringHdls ans [(k, r)] g).1.wrongDels = g.wrongDels + 1 := by
  rw [deleteFilteringHdls]
  dsimp only
  split_ifs
  · exact Or.inl rfl
  · exact Or.inr (noteDel_not_mem hk)
  · exact Or.inr (noteDel_not_mem hk)

/-! ## What is installed -/

/-- The rule for the IPv6 prefix. -/
def ownPrefix (x : LanIface) (f : IpType) : Multiset (ℕ × FltRule) :=
  if f = .v6 then {(x.ipv6PrefixFltRuleHdl, .v6Prefix)} else 0

/-- The rules for the WAN, of a station or of the modem. -/
def ownWan (x : LanIface) (f : IpType) (kind : Bool) : Multiset (ℕ × FltRule) :=
  if kind then {(x.staUlFlRuleHdl f, .sta f)} else (modemRules f (x.wanUlFlRuleHdl f) : Multiset _)

/-- What an interface has installed for a family, by its handles. -/
def own (x : LanIface) (f : IpType) (kind : Bool) : Multiset (ℕ × FltRule) :=
  ownPrefix x f + ownWan x f kind

lemma card_ownPrefix (x : LanIface) (f : IpType) :
    (ownPrefix x f).card = if f = .v6 then 1 else 0 := by
  unfold ownPrefix
  split_ifs <;> rfl

lemma Frame.own (hF : Frame f a b) (hh : h ≠ f) : own b.1 h kind = own a.1 h kind := by
  rw [LanUplink.own, LanUplink.own, ownWan, ownWan, hF.staHdl h hh, hF.hdls h hh, ownPrefix,
    ownPrefix]
  by_cases e : h = .v6
  · rw [hF.prefixHdl fun e' => hh (e.trans e'.symm)]
  · rw [if_neg e, if_neg e]

/-- The flags and handles of a family where rules of a kind are installed. -/
structure Flags (x : LanIface) (f : IpType) (kind : Bool) : Prop where
  modem : x.modemUlSet f = !kind
  sta : x.staUlSet f = kind
  hdls : x.wanUlFlRuleHdl f = [] ↔ kind = true
  len : (x.wanUlFlRuleHdl f).length ≤ maxWanUlFilterRules

/-- The flags and handles of a family where none are. -/
structure NoFlags (x : LanIface) (f : IpType) : Prop where
  modem : x.modemUlSet f = false
  sta : x.staUlSet f = false
  hdls : x.wanUlFlRuleHdl f = []

lemma Frame.flags (hF : Frame f a b) (hh : h ≠ f) : Flags b.1 h kind ↔ Flags a.1 h kind := by
  constructor
  · rintro ⟨h1, h2, h3, h4⟩
    rw [hF.modem h hh] at h1
    rw [hF.sta h hh] at h2
    rw [hF.hdls h hh] at h3 h4
    exact ⟨h1, h2, h3, h4⟩
  · rintro ⟨h1, h2, h3, h4⟩
    rw [← hF.modem h hh] at h1
    rw [← hF.sta h hh] at h2
    rw [← hF.hdls h hh] at h3 h4
    exact ⟨h1, h2, h3, h4⟩

lemma Frame.noFlags (hF : Frame f a b) (hh : h ≠ f) : NoFlags b.1 h ↔ NoFlags a.1 h := by
  constructor
  · rintro ⟨h1, h2, h3⟩
    exact ⟨(hF.modem h hh).symm.trans h1, (hF.sta h hh).symm.trans h2, (hF.hdls h hh).symm.trans h3⟩
  · rintro ⟨h1, h2, h3⟩
    exact ⟨(hF.modem h hh).trans h1, (hF.sta h hh).trans h2, (hF.hdls h hh).trans h3⟩

/-! ## Installing -/

/-- The driver does all that it is asked for when rules are installed. -/
structure AddOk (f : IpType) (isSta : Bool) (ans : UlAns) : Prop where
  pfx : f = .v6 → ans.addPrefix = true
  ready : ans.ready = true
  add : ans.add = true
  modem : isSta = false → ans.qmap = true ∧ 0 < ans.numExtProps ∧
    ans.numExtProps ≤ maxWanUlFilterRules

lemma modemRules_concat (l : List ℕ) (k : ℕ) :
    modemRules f (l ++ [k]) = modemRules f l ++ [(k, .modem f l.length)] := by
  simp [modemRules, List.zipIdx_append]

lemma length_modemRules (l : List ℕ) : (modemRules f l).length = l.length := by
  simp [modemRules]

/-- The rules that the modem asks for. -/
lemma addModemRules_spec (ans : UlAns) (n : ℕ) (hh : a.1.wanUlFlRuleHdl f = []) :
    let b := forUpTo n (fun _ => addModemRule f ans) a
    (b.1.wanUlFlRuleHdl f).length = n ∧
      b.2.rules.entries = a.2.rules.entries + (modemRules f (b.1.wanUlFlRuleHdl f) : Multiset _) ∧
      b.2.fltRuleCount f = a.2.fltRuleCount f + n ∧ b.2.wrongDels = a.2.wrongDels ∧
      b.1.modemUlSet = a.1.modemUlSet ∧ b.1.staUlSet = a.1.staUlSet ∧
      b.1.ipv6PrefixFltRuleHdl = a.1.ipv6PrefixFltRuleHdl ∧ Frame f a b := by
  intro b
  refine forUpTo_invariant (P := fun n b => (b.1.wanUlFlRuleHdl f).length = n ∧
    b.2.rules.entries = a.2.rules.entries + (modemRules f (b.1.wanUlFlRuleHdl f) : Multiset _) ∧
    b.2.fltRuleCount f = a.2.fltRuleCount f + n ∧ b.2.wrongDels = a.2.wrongDels ∧
    b.1.modemUlSet = a.1.modemUlSet ∧ b.1.staUlSet = a.1.staUlSet ∧
    b.1.ipv6PrefixFltRuleHdl = a.1.ipv6PrefixFltRuleHdl ∧ Frame f a b) ?_ ?_
  · exact ⟨by simp [hh], by simp [hh, modemRules], by simp, rfl, rfl, rfl, rfl, .refl f a⟩
  · rintro i t - ⟨h1, h2, h3, h4, h5, h6, h7, h8⟩
    refine ⟨?_, ?_, ?_, h4, h5, h6, h7, h8.trans ?_⟩
    · simp [addModemRule, h1]
    · simp only [addModemRule, addFilteringRule, Function.update_self, entries_add, h2,
        modemRules_concat, ← Multiset.coe_add, add_assoc, Multiset.coe_singleton]
    · simp [addModemRule, addFilteringRule, h3, add_assoc]
    · refine ⟨rfl, rfl, rfl, rfl, fun _ _ => rfl, fun _ _ => rfl, fun h hh => ?_, fun _ _ => rfl,
        fun _ => rfl, fun h hh => ?_⟩
      · exact Function.update_of_ne hh _ _
      · exact Function.update_of_ne hh _ _

/-- The family, as the driver names it. -/
def ipaIp : IpType → IpaIpType
  | .v4 => .v4
  | .v6 => .v6

/-- The handles of the modem's rules are those that the driver gives to them one after the other. -/
lemma addModemRules_hdls {u : ℕ → ℕ} (n : ℕ)
    (hpick : ∀ i < n, u i = (forUpTo i (fun _ => addModemRule f ans) a).2.rules.fresh
      (ans.pick (.modem f ((a.1.wanUlFlRuleHdl f).length + i)))) :
    (forUpTo n (fun _ => addModemRule f ans) a).1.wanUlFlRuleHdl f =
        a.1.wanUlFlRuleHdl f ++ (List.range n).map u ∧
      (forUpTo n (fun _ => addModemRule f ans) a).2.fltRuleCount f = a.2.fltRuleCount f + n := by
  induction n with
  | zero => simp [forUpTo]
  | succ n ih =>
      obtain ⟨h1, h2⟩ := ih fun i hi => hpick i (Nat.lt_succ_of_lt hi)
      have hlen : ((forUpTo n (fun _ => addModemRule f ans) a).1.wanUlFlRuleHdl f).length =
          (a.1.wanUlFlRuleHdl f).length + n := by simp [h1]
      constructor
      · rw [forUpTo, addModemRule]
        dsimp only
        rw [Function.update_self, hlen, ← hpick n (Nat.lt_succ_self n), h1, List.range_succ]
        simp
      · rw [forUpTo, addModemRule, addFilteringRule]
        simp [h2, add_assoc]

/-- **`handle_uplink_filter_rule`** does here what `UplinkFilter` says that it does to the handles and
the count. -/
theorem handleUplinkFilterRule_agrees {bd : UplinkFilter.Build} {l : UplinkFilter.Lan}
    {u : UplinkFilter.Answers} {props : List (UplinkFilter.ExtProp bd)} {mux : UInt8}
    (hrx : l.rxProp ≠ none) (hhdl : l.wanUlFlRuleHdl (ipaIp f) = a.1.wanUlFlRuleHdl f)
    (hcnt : (l.fltRuleCount (ipaIp f) : ℤ) = a.2.fltRuleCount f)
    (hnum : ans.numExtProps = props.length)
    (hready : ans.ready = (u.opened && u.sourcePipeIndex.isSome && u.embeddedPipeIndex.isSome &&
      u.allocated && u.indexSent)) (hadd : ans.add = u.ruleAdded)
    (hpick : ∀ i < props.length,
      u.fltRuleHdl i = (forUpTo i (fun _ => addModemRule f ans) a).2.rules.fresh
        (ans.pick (.modem f ((a.1.wanUlFlRuleHdl f).length + i)))) :
    let m := (UplinkFilter.handleUplinkFilterRule l u props (ipaIp f) mux).lan
    let b := handleUplinkFilterRule f ans a
    m.wanUlFlRuleHdl (ipaIp f) = b.1.wanUlFlRuleHdl f ∧
      (m.fltRuleCount (ipaIp f) : ℤ) = b.2.fltRuleCount f := by
  intro m b
  obtain ⟨rx, hrx⟩ := Option.ne_none_iff_exists'.mp hrx
  obtain ⟨action, haction⟩ : ∃ action, l.action (ipaIp f) = some action := by
    cases f
    · exact ⟨_, (apply_ite some _ _ _).symm⟩
    · exact ⟨_, rfl⟩
  have hm : m = (UplinkFilter.handleUplinkFilterRule l u props (ipaIp f) mux).lan := rfl
  have hb : b = handleUplinkFilterRule f ans a := rfl
  rw [UplinkFilter.handleUplinkFilterRule, hrx] at hm
  rw [handleUplinkFilterRule, hnum, hready, hadd] at hb
  simp only [haction] at hm
  have hsame (hm : m = l) (hb : b = a) : m.wanUlFlRuleHdl (ipaIp f) = b.1.wanUlFlRuleHdl f ∧
      (m.fltRuleCount (ipaIp f) : ℤ) = b.2.fltRuleCount f := by
    rw [hm, hb]
    exact ⟨hhdl, hcnt⟩
  split_ifs at hm with h1 h2 h3 h4 h5 h6 h7 h8
  · -- the modem asks for nothing
    refine hsame hm (hb.trans ?_)
    rw [h1]
    split_ifs <;> rfl
  all_goals try exact hsame hm (hb.trans (if_pos (by simp [*])))
  have hgo : ¬ (props.length > maxWanUlFilterRules ∨ (u.opened && u.sourcePipeIndex.isSome &&
      u.embeddedPipeIndex.isSome && u.allocated && u.indexSent) = false ∨ u.ruleAdded = false) := by
    have h4' := Option.ne_none_iff_isSome.mp h4
    have h5' := Option.ne_none_iff_isSome.mp h5
    simp_all
  obtain ⟨hadded, hcounted⟩ := addModemRules_hdls props.length hpick
  rw [if_neg hgo] at hb
  rw [hm, hb, hadded, hcounted]
  constructor
  · simp [UplinkFilter.Lan.installed, hhdl]
  · simp [UplinkFilter.Lan.installed, hcnt]

/-- The rule for the prefix, for a family that has one. -/
def addPrefix (f : IpType) (ans : UlAns) (a : LanAt) : LanAt :=
  if f = .v6 then installIpv6PrefixFltRule ans a else a

/-- What installing the rule for the prefix does, and what it leaves alone. -/
lemma addPrefix_spec (f : IpType) (ans : UlAns) (a : LanAt) :
    let b := addPrefix f ans a
    (b.1.wanUlFlRuleHdl = a.1.wanUlFlRuleHdl ∧ b.1.modemUlSet = a.1.modemUlSet ∧
      b.1.staUlSet = a.1.staUlSet ∧ b.2.wrongDels = a.2.wrongDels ∧ Frame f a b) ∧
      ((f = .v6 → ans.addPrefix = true) →
        b.2.rules.entries = a.2.rules.entries + ownPrefix b.1 f ∧
        b.2.fltRuleCount f = a.2.fltRuleCount f + (ownPrefix b.1 f).card) ∧
      (¬ (f = .v6 → ans.addPrefix = true) → f = .v6 ∧ b = a) := by
  intro b
  by_cases hf : f = .v6
  · subst hf
    by_cases hp : ans.addPrefix = true
    · have hb : b = installIpv6PrefixFltRule ans a := if_pos rfl
      rw [installIpv6PrefixFltRule, if_pos hp] at hb
      rw [hb]
      refine ⟨⟨rfl, rfl, rfl, rfl, ⟨rfl, rfl, rfl, rfl, fun _ _ => rfl, fun _ _ => rfl,
        fun _ _ => rfl, fun _ _ => rfl, fun hne => absurd rfl hne, fun h hh => ?_⟩⟩,
        fun _ => ⟨rfl, ?_⟩, fun hno => absurd (fun _ => hp) hno⟩
      · exact Function.update_of_ne hh _ _
      · simp [addFilteringRule, ownPrefix]
    · have hb : b = a := by
        change (if IpType.v6 = .v6 then _ else _) = _
        rw [if_pos rfl, installIpv6PrefixFltRule, if_neg hp]
      rw [hb]
      exact ⟨⟨rfl, rfl, rfl, rfl, .refl _ a⟩, fun h => absurd (h rfl) hp, fun _ => ⟨rfl, rfl⟩⟩
  · have hb : b = a := if_neg hf
    rw [hb]
    refine ⟨⟨rfl, rfl, rfl, rfl, .refl _ a⟩, fun _ => ?_, fun hno => absurd (fun h => absurd h hf) hno⟩
    simp [ownPrefix, hf]

/-- **`handle_wan_up`**, where no rules are installed. -/
lemma handleWanUp_spec (ans : UlAns) (hs : a.1.staUlSet f = false) :
    let b := handleWanUp f ans a
    (b.1.wanUlFlRuleHdl = a.1.wanUlFlRuleHdl ∧ b.1.modemUlSet = a.1.modemUlSet ∧
      b.1.ipv6PrefixFltRuleHdl = a.1.ipv6PrefixFltRuleHdl ∧ b.2.wrongDels = a.2.wrongDels ∧
      Frame f a b) ∧
      (ans.ready = true ∧ ans.add = true → b.1.staUlSet f = true ∧
        b.2.rules.entries = a.2.rules.entries + ownWan b.1 f true ∧
        b.2.fltRuleCount f = a.2.fltRuleCount f + 1) ∧
      (¬ (ans.ready = true ∧ ans.add = true) → b = a) := by
  intro b
  by_cases hok : ans.ready = true ∧ ans.add = true
  · have hb : b = ({ a.1 with
        staUlSet := Function.update a.1.staUlSet f true
        staUlFlRuleHdl :=
          Function.update a.1.staUlFlRuleHdl f (a.2.rules.fresh (ans.pick (.sta f))) },
        addFilteringRule f ans (.sta f) a.2) := if_neg (by simp [hs, hok])
    rw [hb]
    refine ⟨⟨rfl, rfl, rfl, rfl, ⟨rfl, rfl, rfl, rfl, fun _ _ => rfl, fun h hh => ?_, fun _ _ => rfl,
      fun h hh => ?_, fun _ => rfl, fun h hh => ?_⟩⟩, fun _ => ⟨?_, ?_, ?_⟩, fun h => absurd hok h⟩
    · exact Function.update_of_ne hh _ _
    · exact Function.update_of_ne hh _ _
    · exact Function.update_of_ne hh _ _
    · exact Function.update_self ..
    · simp [addFilteringRule, ownWan]
    · simp [addFilteringRule]
  · have hb : b = a := by
      refine if_pos (Or.inr ?_)
      by_contra h
      push Not at h
      exact hok ⟨by simpa using h.1, by simpa using h.2⟩
    rw [hb]
    exact ⟨⟨rfl, rfl, rfl, rfl, .refl _ a⟩, fun h => absurd h hok, fun _ => rfl⟩

/-- **`handle_wan_up_ex`**, where no rules are installed: the flag may be set without any. -/
lemma handleWanUpEx_spec (ans : UlAns) (hm : a.1.modemUlSet f = false) (hh : a.1.wanUlFlRuleHdl f = []) :
    let b := handleWanUpEx f ans a
    (b.1.staUlSet = a.1.staUlSet ∧ b.1.ipv6PrefixFltRuleHdl = a.1.ipv6PrefixFltRuleHdl ∧
      b.2.wrongDels = a.2.wrongDels ∧ Frame f a b) ∧
      (ans.qmap = true ∧ ans.ready = true ∧ ans.add = true ∧ 0 < ans.numExtProps ∧
        ans.numExtProps ≤ maxWanUlFilterRules → b.1.modemUlSet f = true ∧
        0 < (b.1.wanUlFlRuleHdl f).length ∧
        (b.1.wanUlFlRuleHdl f).length ≤ maxWanUlFilterRules ∧
        b.2.rules.entries = a.2.rules.entries + ownWan b.1 f false ∧
        b.2.fltRuleCount f = a.2.fltRuleCount f + (b.1.wanUlFlRuleHdl f).length) ∧
      (¬ (ans.qmap = true ∧ ans.ready = true ∧ ans.add = true ∧ 0 < ans.numExtProps ∧
        ans.numExtProps ≤ maxWanUlFilterRules) →
        b.1.modemUlSet f = false ∨ b.1.wanUlFlRuleHdl f = []) := by
  intro b
  by_cases hq : ans.qmap = true
  · let u := handleUplinkFilterRule f ans a
    have hb : b = ({ u.1 with modemUlSet := Function.update u.1.modemUlSet f true }, u.2) :=
      if_neg (by simp [hq, hm])
    have hset : ∀ v : LanAt, Frame f a v →
        Frame f a ({ v.1 with modemUlSet := Function.update v.1.modemUlSet f true }, v.2) :=
      fun v hF => ⟨hF.active, hF.ip, hF.up, hF.down,
        fun h hne => (Function.update_of_ne hne _ _).trans (hF.modem h hne), hF.sta, hF.hdls,
        hF.staHdl, hF.prefixHdl, hF.count⟩
    rw [hb]
    by_cases hr : ans.numExtProps > maxWanUlFilterRules ∨ ans.ready = false ∨ ans.add = false
    · have hu : u = a := if_pos hr
      rw [hu]
      refine ⟨⟨rfl, rfl, rfl, hset a (.refl f a)⟩, ?_, fun _ => Or.inr hh⟩
      rintro ⟨-, h2, h3, -, h5⟩
      rcases hr with hr | hr | hr
      · omega
      · simp [h2] at hr
      · simp [h3] at hr
    · have hu : u = forUpTo ans.numExtProps (fun _ => addModemRule f ans) a := if_neg hr
      obtain ⟨h1, h2, h3, h4, h5, h6, h7, h8⟩ :=
        addModemRules_spec ans ans.numExtProps hh
      rw [← hu] at h1 h2 h3 h4 h5 h6 h7 h8
      refine ⟨⟨h6, h7, h4, hset u h8⟩, ?_, fun hno => Or.inr ?_⟩
      · rintro ⟨-, -, -, hn, hn'⟩
        refine ⟨Function.update_self .., ?_, ?_, ?_, ?_⟩
        · simpa [h1] using hn
        · simpa [h1] using hn'
        · simpa [ownWan] using h2
        · simpa [h1] using h3
      · push Not at hr
        have hn : ans.numExtProps = 0 := by
          by_contra hn
          exact hno ⟨hq, by simpa using hr.2.1, by simpa using hr.2.2, by omega, hr.1⟩
        exact List.eq_nil_of_length_eq_zero (h1.trans hn)
  · have hb : b = a := if_pos (Or.inl (by simpa using hq))
    rw [hb]
    exact ⟨⟨rfl, rfl, rfl, .refl _ a⟩, fun h => absurd h.1 hq, fun _ => Or.inl hm⟩

lemma ownPrefix_congr {x y : LanIface} (e : y.ipv6PrefixFltRuleHdl = x.ipv6PrefixFltRuleHdl) :
    ownPrefix y f = ownPrefix x f := by
  rw [ownPrefix, ownPrefix, e]

lemma card_own (x : LanIface) (f : IpType) (kind : Bool) :
    (own x f kind).card = (if f = .v6 then 1 else 0) +
      if kind then 1 else (x.wanUlFlRuleHdl f).length := by
  rw [own, Multiset.card_add, card_ownPrefix, ownWan]
  cases kind <;> simp [length_modemRules]

/-- **Installing the rules of a family** works just if the driver does all it is asked for. -/
lemma addUlRules_spec (ans : UlAns) (isSta : Bool) (hn : NoFlags a.1 f) :
    let b := addUlRules f ans isSta a
    (Frame f a b ∧ b.2.wrongDels = a.2.wrongDels) ∧
      (AddOk f isSta ans → Flags b.1 f isSta ∧
        b.2.rules.entries = a.2.rules.entries + own b.1 f isSta ∧
        b.2.fltRuleCount f = a.2.fltRuleCount f + (own b.1 f isSta).card) ∧
      (Flags b.1 f isSta ∧ b.2.fltRuleCount f = a.2.fltRuleCount f + (own b.1 f isSta).card →
        AddOk f isSta ans) := by
  intro b
  let p := addPrefix f ans a
  obtain ⟨⟨hp1, hp2, hp3, hp4, hp5⟩, hpok, hpno⟩ := addPrefix_spec f ans a
  -- without the rule for the prefix the count is one less
  have hpfx : b.2.fltRuleCount f = a.2.fltRuleCount f + (own b.1 f isSta).card →
      b.2.fltRuleCount f =
        p.2.fltRuleCount f + (if isSta then 1 else (b.1.wanUlFlRuleHdl f).length : ℕ) →
      f = .v6 → ans.addPrefix = true := by
    intro hcount hcount' hf
    by_contra hadd
    have hpa := (hpno fun h => hadd (h hf)).2
    rw [card_own, if_pos hf] at hcount
    rw [show p.2.fltRuleCount f = a.2.fltRuleCount f by rw [show p = a from hpa]] at hcount'
    rw [hcount'] at hcount
    push_cast at hcount
    omega
  cases isSta with
  | true =>
      have hb : b = handleWanUp f ans p := rfl
      obtain ⟨⟨h1, h2, h3, h4, h5⟩, hok, hno⟩ :=
        handleWanUp_spec ans (f := f) (a := p) (by rw [hp3]; exact hn.sta)
      rw [← hb] at h1 h2 h3 h4 h5 hok hno
      have hmodem : b.1.modemUlSet f = false := by rw [h2, hp2]; exact hn.modem
      have hhdls : b.1.wanUlFlRuleHdl f = [] := by rw [h1, hp1]; exact hn.hdls
      refine ⟨⟨hp5.trans h5, h4.trans hp4⟩, fun hadd => ?_, fun hR => ?_⟩
      · obtain ⟨hsta, hent, hcnt⟩ := hok ⟨hadd.ready, hadd.add⟩
        obtain ⟨hpent, hpcnt⟩ := hpok hadd.pfx
        refine ⟨⟨hmodem, hsta, by simp [hhdls], by simp [hhdls]⟩, ?_, ?_⟩
        · rw [hent, hpent, own, ownPrefix_congr h3, add_assoc]
        · rw [hcnt, hpcnt, card_ownPrefix, card_own]
          push_cast
          simp [add_assoc]
      · have hok' : ans.ready = true ∧ ans.add = true := by
          by_contra hok'
          have hsta := hR.1.sta
          rw [hno hok', hp3, hn.sta] at hsta
          exact absurd hsta (by decide)
        refine ⟨fun hf => hpfx hR.2 ?_ hf, hok'.1, hok'.2, nofun⟩
        simpa using (hok hok').2.2
  | false =>
      have hb : b = handleWanUpEx f ans p := rfl
      obtain ⟨⟨h1, h2, h3, h4⟩, hok, hno⟩ :=
        handleWanUpEx_spec ans (f := f) (a := p) (by rw [hp2]; exact hn.modem)
          (by rw [hp1]; exact hn.hdls)
      rw [← hb] at h1 h2 h3 h4 hok hno
      have hsta : b.1.staUlSet f = false := by rw [h1, hp3]; exact hn.sta
      refine ⟨⟨hp5.trans h4, h3.trans hp4⟩, fun hadd => ?_, fun hR => ?_⟩
      · have hm := hadd.modem rfl
        obtain ⟨hmodem, hpos, hlen, hent, hcnt⟩ := hok ⟨hm.1, hadd.ready, hadd.add, hm.2⟩
        obtain ⟨hpent, hpcnt⟩ := hpok hadd.pfx
        refine ⟨⟨hmodem, hsta, ?_, hlen⟩, ?_, ?_⟩
        · simp [List.ne_nil_of_length_pos hpos]
        · rw [hent, hpent, own, ownPrefix_congr h2, add_assoc]
        · rw [hcnt, hpcnt, card_ownPrefix, card_own]
          push_cast
          simp [add_assoc]
      · have hok' : ans.qmap = true ∧ ans.ready = true ∧ ans.add = true ∧ 0 < ans.numExtProps ∧
            ans.numExtProps ≤ maxWanUlFilterRules := by
          by_contra hok'
          rcases hno hok' with hm | hh
          · exact absurd (hR.1.modem.symm.trans hm) (by decide)
          · exact absurd (hR.1.hdls.mp hh) (by decide)
        refine ⟨fun hf => hpfx hR.2 ?_ hf, hok'.2.1, hok'.2.2.1, fun _ => ⟨hok'.1, hok'.2.2.2⟩⟩
        simpa using (hok hok').2.2.2.2

/-! ## Removing -/

/-- The driver deletes the rules of a family, and they are asked for in a way that finds them. -/
def DelOk (x : LanIface) (f : IpType) (kind isSta : Bool) (ans : UlAns) : Prop :=
  (f = .v6 → ans.del .v6Prefix = true) ∧
    if kind then ans.del (.sta f) = true
    else isSta = false ∧ ∀ k < (x.wanUlFlRuleHdl f).length, ans.del (.modem f k) = true

/-- The rule for the prefix goes, for a family that has one. -/
def deletePrefix (f : IpType) (ans : UlAns) (a : LanAt) : LanAt :=
  if f = .v6 then deleteIpv6PrefixFltRule ans a else a

lemma wanDown_eq (f : IpType) (ans : UlAns) (isSta : Bool) (a : LanAt) :
    wanDown f ans isSta a = deleteUlRules f ans isSta (deletePrefix f ans a) := by
  cases f <;> rfl

/-- A deletion that the driver refuses. -/
lemma deleteFilteringHdls_refused {k : ℕ} {r : FltRule} (hk : (k, r) ∈ g.rules.entries)
    (hd : ans.del r ≠ true) : deleteFilteringHdls ans [(k, r)] g = (g, false) := by
  rw [deleteFilteringHdls, if_neg (g.rules.pos _ hk), noteDel_mem hk]
  exact if_neg fun h => hd h.2

lemma Frame.of_shared {g' : LanShared} (hc : ∀ h ≠ f, g'.fltRuleCount h = a.2.fltRuleCount h) :
    Frame f a (a.1, g') :=
  ⟨rfl, rfl, rfl, rfl, fun _ _ => rfl, fun _ _ => rfl, fun _ _ => rfl, fun _ _ => rfl, fun _ => rfl,
    hc⟩

lemma decrease_other {n : ℕ} (hh : h ≠ f) :
    (decreaseFltRuleCount f n g).fltRuleCount h = g.fltRuleCount h :=
  Function.update_of_ne hh _ _

/-- Whatever the driver deletes, the rule for the prefix is all that changes. -/
lemma deletePrefix_frame (f : IpType) (ans : UlAns) (a : LanAt) :
    let b := deletePrefix f ans a
    b.1 = a.1 ∧ Frame f a b ∧ a.2.wrongDels ≤ b.2.wrongDels ∧
      b.2.rules.entries ≤ a.2.rules.entries ∧ b.2.fltRuleCount f ≤ a.2.fltRuleCount f := by
  intro b
  by_cases hf : f = .v6
  · subst hf
    obtain ⟨h1, h2, h3⟩ := deleteFilteringHdls_frame ans
      [(a.1.ipv6PrefixFltRuleHdl, .v6Prefix)] a.2
    have hb : b = deleteIpv6PrefixFltRule ans a := if_pos rfl
    rw [hb, deleteIpv6PrefixFltRule]
    split_ifs
    · refine ⟨rfl, .of_shared fun h hh => ?_, h2, h3, ?_⟩
      · rw [decrease_other hh, h1]
      · simp [decreaseFltRuleCount, h1]
    · exact ⟨rfl, .of_shared fun h _ => by rw [h1], h2, h3, by rw [h1]⟩
  · have hb : b = a := if_neg hf
    rw [hb]
    exact ⟨rfl, .refl f a, le_rfl, le_rfl, le_rfl⟩

lemma deleteUlRules_frame (f : IpType) (ans : UlAns) (isSta : Bool) (a : LanAt) :
    Frame f a (deleteUlRules f ans isSta a) ∧
      a.2.wrongDels ≤ (deleteUlRules f ans isSta a).2.wrongDels := by
  rw [deleteUlRules]
  dsimp only
  split_ifs with hbr hlen hr hr
  · exact ⟨.refl f a, le_rfl⟩
  all_goals
    obtain ⟨h1, h2, -⟩ := deleteFilteringHdls_frame ans _ a.2
  · refine ⟨⟨rfl, rfl, rfl, rfl, fun h hh => Function.update_of_ne hh _ _, fun _ _ => rfl,
      fun h hh => Function.update_of_ne hh _ _, fun _ _ => rfl, fun _ => rfl, fun h hh => ?_⟩, h2⟩
    rw [decrease_other hh, h1]
  · exact ⟨.of_shared fun h _ => by rw [h1], h2⟩
  · refine ⟨⟨rfl, rfl, rfl, rfl, fun _ _ => rfl, fun h hh => Function.update_of_ne hh _ _,
      fun _ _ => rfl, fun _ _ => rfl, fun _ => rfl, fun h hh => ?_⟩, h2⟩
    rw [decrease_other hh, h1]
  · exact ⟨.of_shared fun h _ => by rw [h1], h2⟩

/-- **The other family is left alone**, whatever is removed. -/
lemma wanDown_frame (f : IpType) (ans : UlAns) (isSta : Bool) (a : LanAt) :
    Frame f a (wanDown f ans isSta a) ∧
      a.2.wrongDels ≤ (wanDown f ans isSta a).2.wrongDels := by
  rw [wanDown_eq]
  obtain ⟨-, hF, hle, -⟩ := deletePrefix_frame f ans a
  obtain ⟨hF', hle'⟩ := deleteUlRules_frame f ans isSta (deletePrefix f ans a)
  exact ⟨hF.trans hF', hle.trans hle'⟩

/-- The rule for the prefix is there. -/
lemma deletePrefix_spec (ans : UlAns) (hT : a.2.rules.entries = T + ownPrefix a.1 f) :
    let b := deletePrefix f ans a
    ((f = .v6 → ans.del .v6Prefix = true) → b.2.rules.entries = T ∧
        b.2.wrongDels = a.2.wrongDels ∧ b.2.fltRuleCount f = a.2.fltRuleCount f - (ownPrefix a.1 f).card) ∧
      (¬ (f = .v6 → ans.del .v6Prefix = true) → f = .v6 ∧ b = a) := by
  intro b
  by_cases hf : f = .v6
  · subst hf
    rw [ownPrefix, if_pos rfl] at hT
    have hb : b = deleteIpv6PrefixFltRule ans a := if_pos rfl
    have hcoe : a.2.rules.entries =
        T + (([(a.1.ipv6PrefixFltRuleHdl, .v6Prefix)] : List (ℕ × FltRule)) : Multiset _) := hT
    obtain ⟨hw, hok, hent⟩ := deleteFilteringHdls_own ans _ hcoe
    have hcnt := (deleteFilteringHdls_frame ans
      [(a.1.ipv6PrefixFltRuleHdl, .v6Prefix)] a.2).1
    rw [hb, deleteIpv6PrefixFltRule]
    refine ⟨fun hd => ?_, fun hno => ⟨rfl, ?_⟩⟩
    · have hr := hok.mpr (by simpa using hd)
      rw [if_pos hr]
      exact ⟨hent hr, hw, by simp [decreaseFltRuleCount, hcnt, ownPrefix]⟩
    · have hmem : (a.1.ipv6PrefixFltRuleHdl, FltRule.v6Prefix) ∈ a.2.rules.entries := by
        rw [hT]
        simp
      rw [deleteFilteringHdls_refused hmem fun h => hno fun _ => h]
      rfl
  · have hb : b = a := if_neg hf
    rw [ownPrefix, if_neg hf, add_zero] at hT
    rw [hb]
    exact ⟨fun _ => ⟨hT, rfl, by simp [ownPrefix, hf]⟩,
      fun hno => absurd (fun h => absurd h hf) hno⟩

lemma mem_modemRules {l : List ℕ} {P : FltRule → Prop} :
    (∀ e ∈ modemRules f l, P e.2) ↔ ∀ k < l.length, P (.modem f k) := by
  simp only [modemRules, List.mem_map, forall_exists_index, and_imp]
  constructor
  · intro hP k hk
    exact hP _ (l[k], k) (List.mk_mem_zipIdx_iff_getElem?.mpr (List.getElem?_eq_getElem hk)) rfl
  · rintro hP e ⟨v, k⟩ he rfl
    have hk := List.mk_mem_zipIdx_iff_getElem?.mp he
    exact hP k (List.getElem?_eq_some_iff.mp hk).1

/-- **What `handle_wan_down` and `handle_wan_down_v6` share**, where rules are installed. -/
lemma deleteUlRules_spec (ans : UlAns) (isSta : Bool) (hF : Flags a.1 f kind)
    (hT : a.2.rules.entries = T + ownWan a.1 f kind) :
    let ok := if kind then ans.del (.sta f) = true
      else isSta = false ∧ ∀ k < (a.1.wanUlFlRuleHdl f).length, ans.del (.modem f k) = true
    let b := deleteUlRules f ans isSta a
    (ok → NoFlags b.1 f ∧ b.2.rules.entries = T ∧ b.2.wrongDels = a.2.wrongDels ∧
        b.2.fltRuleCount f = a.2.fltRuleCount f - (ownWan a.1 f kind).card) ∧
      (NoFlags b.1 f → ok) := by
  intro ok b
  have hcnt : ∀ l, (deleteFilteringHdls ans l a.2).1.fltRuleCount = a.2.fltRuleCount := fun l =>
    (deleteFilteringHdls_frame ans l a.2).1
  by_cases hbr : isSta = false ∧ a.1.modemUlSet f = true
  · -- the rules of the modem
    have hk : kind = false := by simpa [hF.modem] using hbr.2
    subst hk
    have hne : a.1.wanUlFlRuleHdl f ≠ [] := fun h => absurd (hF.hdls.mp h) (by decide)
    obtain ⟨hw, hok, hent⟩ := deleteFilteringHdls_own ans _
      (show a.2.rules.entries = T + (modemRules f (a.1.wanUlFlRuleHdl f) : Multiset _) from hT)
    rw [mem_modemRules (P := fun r => ans.del r = true)] at hok
    have hb : b = if (deleteFilteringHdls ans (modemRules f (a.1.wanUlFlRuleHdl f)) a.2).2 then
        ({ a.1 with
          wanUlFlRuleHdl := Function.update a.1.wanUlFlRuleHdl f []
          modemUlSet := Function.update a.1.modemUlSet f false },
          decreaseFltRuleCount f (a.1.wanUlFlRuleHdl f).length
            (deleteFilteringHdls ans (modemRules f (a.1.wanUlFlRuleHdl f)) a.2).1)
        else (a.1, (deleteFilteringHdls ans (modemRules f (a.1.wanUlFlRuleHdl f)) a.2).1) := by
      change deleteUlRules f ans isSta a = _
      rw [deleteUlRules, if_pos hbr, if_neg]
      rintro (h | h)
      · exact absurd hF.len (by omega)
      · exact hne h
    split_ifs at hb with hr
    · rw [hb]
      refine ⟨fun _ => ⟨⟨?_, hF.sta, ?_⟩, hent hr, hw, ?_⟩, fun _ => ⟨hbr.1, hok.mp hr⟩⟩
      · exact Function.update_self ..
      · exact Function.update_self ..
      · simp [decreaseFltRuleCount, hcnt, ownWan, length_modemRules]
    · rw [hb]
      refine ⟨fun h => absurd (hok.mpr h.2) hr, fun hN => ?_⟩
      exact absurd (hbr.2.symm.trans hN.modem) (by decide)
  · -- the rule of a station
    have hb : b = if (deleteFilteringHdls ans [(a.1.staUlFlRuleHdl f, .sta f)] a.2).2 then
        ({ a.1 with staUlSet := Function.update a.1.staUlSet f false },
          decreaseFltRuleCount f 1
            (deleteFilteringHdls ans [(a.1.staUlFlRuleHdl f, .sta f)] a.2).1)
        else (a.1, (deleteFilteringHdls ans [(a.1.staUlFlRuleHdl f, .sta f)] a.2).1) :=
      if_neg hbr
    cases kind with
    | true =>
        obtain ⟨hw, hok, hent⟩ := deleteFilteringHdls_own ans _
          (show a.2.rules.entries =
            T + (([(a.1.staUlFlRuleHdl f, .sta f)] : List (ℕ × FltRule)) : Multiset _) from hT)
        split_ifs at hb with hr
        · rw [hb]
          refine ⟨fun _ => ⟨⟨hF.modem, Function.update_self .., hF.hdls.mpr rfl⟩, hent hr, hw, ?_⟩,
            fun _ => ?_⟩
          · simp [decreaseFltRuleCount, hcnt, ownWan]
          · simpa [ok] using hok.mp hr
        · rw [hb]
          refine ⟨fun h => absurd (hok.mpr (by simpa [ok] using h)) hr, fun hN => ?_⟩
          exact absurd (hF.sta.symm.trans hN.sta) (by decide)
    | false =>
        have hm : a.1.modemUlSet f = true := hF.modem
        refine ⟨fun h => absurd ⟨h.1, hm⟩ hbr, fun hN => ?_⟩
        have hbm : b.1.modemUlSet f = a.1.modemUlSet f := by
          rw [hb]
          split_ifs <;> rfl
        exact absurd (hm.symm.trans (hbm.symm.trans hN.modem)) (by decide)

/-- **Removing the rules of a family** works just if the driver deletes them and they are asked for
in a way that finds them. -/
lemma wanDown_spec (ans : UlAns) (isSta : Bool) (hF : Flags a.1 f kind)
    (hT : a.2.rules.entries = T + own a.1 f kind) :
    let b := wanDown f ans isSta a
    (DelOk a.1 f kind isSta ans → NoFlags b.1 f ∧ b.2.rules.entries = T ∧
        b.2.wrongDels = a.2.wrongDels ∧
        b.2.fltRuleCount f = a.2.fltRuleCount f - (own a.1 f kind).card) ∧
      (NoFlags b.1 f ∧ b.2.fltRuleCount f = a.2.fltRuleCount f - (own a.1 f kind).card →
        DelOk a.1 f kind isSta ans) := by
  intro b
  have hb : b = deleteUlRules f ans isSta (deletePrefix f ans a) := wanDown_eq f ans isSta a
  rw [own, add_comm (ownPrefix a.1 f), ← add_assoc] at hT
  obtain ⟨hpok, hpno⟩ := deletePrefix_spec (f := f) ans hT
  have hcard : (own a.1 f kind).card = (ownPrefix a.1 f).card + (ownWan a.1 f kind).card :=
    Multiset.card_add _ _
  by_cases hp : f = .v6 → ans.del .v6Prefix = true
  · obtain ⟨hent, hw, hcnt⟩ := hpok hp
    have hrec := (deletePrefix_frame f ans a).1
    obtain ⟨hok, hno⟩ := deleteUlRules_spec (a := deletePrefix f ans a) (f := f)
      (T := T) ans isSta (by rw [hrec]; exact hF) (by rw [hrec]; exact hent)
    rw [← hb] at hok hno
    rw [hrec] at hok hno
    refine ⟨fun hd => ?_, fun hN => ⟨hp, hno hN.1⟩⟩
    obtain ⟨h1, h2, h3, h4⟩ := hok hd.2
    refine ⟨h1, h2, h3.trans hw, ?_⟩
    rw [h4, hcnt, hcard]
    push_cast
    ring
  · obtain ⟨hf, hpa⟩ := hpno hp
    rw [add_assoc, add_comm (ownWan a.1 f kind), ← add_assoc] at hT
    obtain ⟨hok, hno⟩ := deleteUlRules_spec ans isSta hF hT
    rw [hpa] at hb
    rw [← hb] at hok hno
    refine ⟨fun hd => absurd hd.1 hp, fun hN => ?_⟩
    have hcnt := (hok (hno hN.1)).2.2.2
    rw [hN.2, hcard, card_ownPrefix, if_pos hf] at hcnt
    push_cast at hcnt
    omega

/-- **Where nothing is installed**, the count goes wrong or a wrong handle is passed. -/
lemma wanDown_spare (ans : UlAns) (isSta : Bool) (hN : NoFlags a.1 f)
    (hsta : ∀ k, (k, FltRule.sta f) ∉ a.2.rules.entries) :
    let b := wanDown f ans isSta a
    b.2.wrongDels = a.2.wrongDels → b.2.fltRuleCount f < a.2.fltRuleCount f := by
  intro b hw
  have hb : b = deleteUlRules f ans isSta (deletePrefix f ans a) := wanDown_eq f ans isSta a
  obtain ⟨hrec, -, hle, hent, hcnt⟩ := deletePrefix_frame f ans a
  generalize deletePrefix f ans a = p at hb hrec hle hent hcnt
  have hbr : ¬ (isSta = false ∧ p.1.modemUlSet f = true) := fun h => by
    rw [hrec, hN.modem] at h
    exact absurd h.2 (by decide)
  have h1 := (deleteFilteringHdls_frame ans [(p.1.staUlFlRuleHdl f, .sta f)] p.2).1
  have hspare := deleteFilteringHdls_spare ans (k := p.1.staUlFlRuleHdl f)
    fun h => hsta _ (Multiset.mem_of_le hent h)
  rw [deleteUlRules, if_neg hbr] at hb
  dsimp only at hb
  split_ifs at hb with hr
  · rw [hb]
    simp only [decreaseFltRuleCount, Function.update_self, h1]
    push_cast
    omega
  · rcases hspare with hs | hs
    · exact absurd (congrArg Prod.snd hs) hr
    · rw [hb] at hw
      dsimp only at hw
      omega

end Ipacm.LanUplink
