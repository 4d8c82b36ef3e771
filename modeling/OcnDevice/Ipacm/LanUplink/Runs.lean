import OcnDevice.Core.Run
import OcnDevice.Ipacm.LanUplink.Spec

/-!
# The uplink rules over a run

The rules of a family are wanted (`Wanted`) while the interface is active, has addresses of the
family, and is a downstream of an upstream.  Just then they should be installed, for the kind of
backhaul that was named last; the count of rules in `IPACM_Config` should follow, and no handle be
passed for deletion that does not stand for a rule of the interface (`Right`).

`LanOp.Clean` says which events keep it so (`LanOp.Step.right_iff_clean`), and a run is right all
along just if all of its events are clean (`uplink_follows`).  Among those that are not: rules that
become wanted when an address is added, since the flag for the upstream is set without them; an empty
list of rules, or one that fails, with `modem_ul_v4_set` set all the same; a downstream that goes
while there are no addresses of the family, and an interface that goes down while its rules are not
wanted, as both remove rules that are not there; an interface that goes down behind its upstream; and
a backhaul of another kind.
-/

namespace Ipacm.LanUplink

open HandleTable WlanRules WanRoutes
open UplinkFilter (maxWanUlFilterRules)

/-! ## Statement -/

/-- The rules of a family are wanted. -/
def Wanted (x : LanIface) (f : IpType) : Bool :=
  x.isActive && x.isUpstreamSet f && x.isDownstreamSet f && hasIp x.ipType f

/-- What is installed for a family, if something is. -/
def installed (W : IpType → Bool) (kind : IpType → Bool) (x : LanIface) (f : IpType) :
    Multiset (ℕ × FltRule) :=
  if W f then own x f (kind f) else 0

/-- **The rules of some families are installed**, beside those of others, and flags and counts say
so. -/
structure RightFor (R : Multiset (ℕ × FltRule)) (c : IpType → ℤ) (kind W : IpType → Bool)
    (a : LanAt) : Prop where
  flags : ∀ f, if W f then Flags a.1 f (kind f) else NoFlags a.1 f
  entries : a.2.rules.entries = R + ∑ f, installed W kind a.1 f
  count : ∀ f, a.2.fltRuleCount f = c f + (installed W kind a.1 f).card
  wrong : a.2.wrongDels = 0

/-- **The rules are installed that are wanted.** -/
def Right (R : Multiset (ℕ × FltRule)) (c : IpType → ℤ) (x : LanAt × (IpType → Bool)) : Prop :=
  RightFor R c x.2 (Wanted x.1.1) x.1

/-- The kind of the backhaul of a family, by what was said last. -/
def LanOp.kind (k : IpType → Bool) : LanOp → IpType → Bool
  | .wanUpTether fam isSta _ => Function.update k fam isSta
  | .downstreamAdd fam bh _ => Function.update k fam bh.backhaulIsStaMode
  | _ => k

/-- An event, with the kinds of the backhaul. -/
def LanOp.Step (x : LanAt × (IpType → Bool)) (op : LanOp) (y : LanAt × (IpType → Bool)) : Prop :=
  y = (op.handle x.1, op.kind x.2)

/-- The rules become wanted with an upstream. -/
def TakesUpstream (x : LanIface) (f : IpType) (isSta : Bool) : Prop :=
  x.isActive = true ∧ ¬ (x.cate ≠ .wlan ∧ f = .v4 ∧ isSta = true) ∧ hasIp x.ipType f = true ∧
    x.isUpstreamSet f = false ∧ x.isDownstreamSet f = true

/-- The rules become wanted with a downstream. -/
def TakesDownstream (x : LanIface) (f : IpType) : Prop :=
  x.isActive = true ∧ hasIp x.ipType f = true ∧ x.isUpstreamSet f = true ∧
    x.isDownstreamSet f = false

/-- The interface goes down cleanly: rules that are wanted are removed, and others not touched. -/
def DownOk (x : LanIface) (f : IpType) (kind : Bool) (bh : Backhaul) (ans : UlAns) : Prop :=
  if Wanted x f then bh.wanUp f = true ∧ DelOk x f kind bh.backhaulIsStaMode ans
  else bh.wanUp f = false

/-- **An event that keeps the rules right.** -/
def LanOp.Clean (a : LanAt) (kind : IpType → Bool) : LanOp → Prop
  | .wanUpTether fam isSta ans =>
      (Wanted a.1 fam = true → isSta = kind fam) ∧
        (TakesUpstream a.1 fam isSta → AddOk fam isSta ans)
  | .wanDownTether fam isSta ans =>
      Wanted a.1 fam = true → DelOk a.1 fam (kind fam) isSta ans
  | .downstreamAdd fam bh ans =>
      (Wanted a.1 fam = true → bh.backhaulIsStaMode = kind fam) ∧
        (TakesDownstream a.1 fam → AddOk fam bh.backhaulIsStaMode ans)
  | .downstreamDel fam bh ans =>
      a.1.isActive = true → a.1.isUpstreamSet fam = true → a.1.isDownstreamSet fam = true →
        hasIp a.1.ipType fam = true ∧ DelOk a.1 fam (kind fam) bh.backhaulIsStaMode ans
  | .addrAdd addr bh rt =>
      ∀ f, Wanted (LanUplink.addrAdd addr bh rt a.1) f = true → Wanted a.1 f = true
  | .linkDown bh ans =>
      a.1.isActive = true → a.1.ipType ≠ none → ∀ f, DownOk a.1 f (kind f) bh (ans f)

/-! ## Installing and removing -/

variable {R : Multiset (ℕ × FltRule)} {c : IpType → ℤ} {kind W : IpType → Bool} {a b : LanAt}
  {f h : IpType} {ans : UlAns} {isSta : Bool} {x y : LanAt × (IpType → Bool)} {op : LanOp}

lemma sum_family (f : IpType) (F : IpType → Multiset (ℕ × FltRule)) :
    ∑ h, F h = F (otherFam f) + F f := by
  cases f
  · exact (Finset.sum_pair (by decide)).trans (add_comm _ _)
  · exact Finset.sum_pair (by decide)

lemma otherFam_ne (f : IpType) : otherFam f ≠ f := by cases f <;> decide

lemma Frame.installed_other {W' kind' : IpType → Bool} (hF : Frame f a b) (hW : W' h = W h)
    (hk : kind' h = kind h) (hh : h ≠ f) :
    installed W' kind' b.1 h = installed W kind a.1 h := by
  rw [installed, installed, hW, hk, hF.own hh]

/-- Only one family changes. -/
lemma RightFor.change (H : RightFor R c kind W a) {w k : Bool} (hF : Frame f a b)
    (hflags : if w then Flags b.1 f k else NoFlags b.1 f)
    (hent : b.2.rules.entries = R + installed W kind a.1 (otherFam f) + if w then own b.1 f k else 0)
    (hcount : b.2.fltRuleCount f = c f + (if w then own b.1 f k else 0).card)
    (hwrong : b.2.wrongDels = 0) :
    RightFor R c (Function.update kind f k) (Function.update W f w) b := by
  have hself : installed (Function.update W f w) (Function.update kind f k) b.1 f =
      if w then own b.1 f k else 0 := by
    rw [installed, Function.update_self, Function.update_self]
  have hother : ∀ h ≠ f, installed (Function.update W f w) (Function.update kind f k) b.1 h =
      installed W kind a.1 h := fun h hh =>
    hF.installed_other (Function.update_of_ne hh _ _) (Function.update_of_ne hh _ _) hh
  refine ⟨fun h => ?_, ?_, fun h => ?_, hwrong⟩
  · rcases eq_or_ne h f with rfl | hh
    · rwa [Function.update_self, Function.update_self]
    · rw [Function.update_of_ne hh, Function.update_of_ne hh]
      have hR := H.flags h
      split_ifs at hR ⊢
      · exact (hF.flags hh).mpr hR
      · exact (hF.noFlags hh).mpr hR
  · rw [hent, sum_family f, hself, hother _ (otherFam_ne f), add_assoc]
  · rcases eq_or_ne h f with rfl | hh
    · rw [hself, hcount]
    · rw [hother h hh, hF.count h hh, H.count h]

lemma RightFor.entries_of (H : RightFor R c kind W a) (f : IpType) :
    a.2.rules.entries = R + installed W kind a.1 (otherFam f) + installed W kind a.1 f := by
  rw [H.entries, sum_family f, add_assoc]

lemma RightFor.noFlags (H : RightFor R c kind W a) (hW : W f = false) :
    NoFlags a.1 f ∧ a.2.rules.entries = R + installed W kind a.1 (otherFam f) ∧
      a.2.fltRuleCount f = c f := by
  have hR := H.flags f
  have hi : installed W kind a.1 f = 0 := by rw [installed, hW]; rfl
  rw [hW] at hR
  exact ⟨hR, by rw [H.entries_of f, hi, add_zero], by rw [H.count f, hi]; simp⟩

lemma RightFor.isFlags (H : RightFor R c kind W a) (hW : W f = true) :
    Flags a.1 f (kind f) ∧
      a.2.rules.entries = R + installed W kind a.1 (otherFam f) + own a.1 f (kind f) ∧
      a.2.fltRuleCount f = c f + (own a.1 f (kind f)).card := by
  have hR := H.flags f
  have hi : installed W kind a.1 f = own a.1 f (kind f) := by rw [installed, hW]; rfl
  rw [hW] at hR
  exact ⟨hR, by rw [H.entries_of f, hi], by rw [H.count f, hi]⟩

/-- **Rules are installed.** -/
lemma RightFor.added (H : RightFor R c kind W a) (hW : W f = false) (ans : UlAns)
    (isSta : Bool) :
    RightFor R c (Function.update kind f isSta) (Function.update W f true)
      (addUlRules f ans isSta a) ↔ AddOk f isSta ans := by
  obtain ⟨hN, hent, hcnt⟩ := H.noFlags hW
  obtain ⟨⟨hF, hw⟩, hok, hno⟩ := addUlRules_spec ans isSta hN
  constructor
  · intro hR
    obtain ⟨h1, -, h3⟩ := hR.isFlags (f := f) (Function.update_self ..)
    rw [Function.update_self] at h1 h3
    exact hno ⟨h1, h3.trans (by rw [hcnt])⟩
  · intro hadd
    obtain ⟨h1, h2, h3⟩ := hok hadd
    refine H.change hF ?_ ?_ ?_ (hw.trans H.wrong)
    · simpa using h1
    · simpa [hent] using h2
    · simpa [hcnt] using h3

/-- **Rules are removed.** -/
lemma RightFor.removed (H : RightFor R c kind W a) (hW : W f = true) (ans : UlAns) (isSta : Bool) :
    (DelOk a.1 f (kind f) isSta ans →
      RightFor R c kind (Function.update W f false) (wanDown f ans isSta a)) ∧
      (NoFlags (wanDown f ans isSta a).1 f ∧
        (wanDown f ans isSta a).2.fltRuleCount f = c f →
        DelOk a.1 f (kind f) isSta ans) := by
  obtain ⟨hN, hent, hcnt⟩ := H.isFlags hW
  have hF := (wanDown_frame f ans isSta a).1
  obtain ⟨hok, hno⟩ := wanDown_spec ans isSta hN hent
  constructor
  · intro hd
    obtain ⟨h1, h2, h3, h4⟩ := hok hd
    have hR := H.change (w := false) (k := kind f) hF h1 (by simpa using h2)
      (by rw [h4, hcnt]; simp) (h3.trans H.wrong)
    rwa [Function.update_eq_self] at hR
  · rintro ⟨h1, h2⟩
    refine hno ⟨h1, ?_⟩
    rw [h2, hcnt]
    ring

/-- Rules of others are not those of the interface. -/
def Others (R : Multiset (ℕ × FltRule)) : Prop := ∀ e ∈ R, e.2 = .other

lemma sta_not_mem_own {x : LanIface} {k : Bool} {e : ℕ} :
    (e, FltRule.sta f) ∉ own x (otherFam f) k := by
  have hmod : (e, FltRule.sta f) ∉ modemRules (otherFam f) (x.wanUlFlRuleHdl (otherFam f)) := by
    intro he
    obtain ⟨p, -, hp⟩ := List.mem_map.mp he
    simp at hp
  cases f <;> cases k <;> simp_all [own, ownPrefix, ownWan, otherFam]

/-- **Rules that are not there are removed.** -/
lemma RightFor.spare (H : RightFor R c kind W a) (hO : Others R) (hW : W f = false)
    (ans : UlAns) (isSta : Bool) :
    ¬ ((wanDown f ans isSta a).2.fltRuleCount f = c f ∧
      (wanDown f ans isSta a).2.wrongDels = 0) := by
  obtain ⟨hN, hent, hcnt⟩ := H.noFlags hW
  have hbad := wanDown_spare (f := f) (a := a) ans isSta hN fun e he => by
    rw [hent, Multiset.mem_add] at he
    rcases he with he | he
    · exact absurd (hO _ he) (by simp)
    · rw [installed] at he
      split_ifs at he
      · exact sta_not_mem_own he
      · simp at he
  rintro ⟨h1, h2⟩
  have hlt := hbad (h2.trans H.wrong.symm)
  omega

/-! ## What the flags say -/

/-- Two records with the same rules. -/
structure SameRules (x y : LanIface) : Prop where
  modem : y.modemUlSet = x.modemUlSet
  sta : y.staUlSet = x.staUlSet
  hdls : y.wanUlFlRuleHdl = x.wanUlFlRuleHdl
  staHdl : y.staUlFlRuleHdl = x.staUlFlRuleHdl
  prefixHdl : y.ipv6PrefixFltRuleHdl = x.ipv6PrefixFltRuleHdl

lemma SameRules.own {x y : LanIface} (hS : SameRules x y) (k : Bool) : own y f k = own x f k := by
  rw [LanUplink.own, LanUplink.own, ownPrefix_congr hS.prefixHdl, ownWan, ownWan, hS.staHdl, hS.hdls]

lemma RightFor.same {x y : LanIface} {g : LanShared} (H : RightFor R c kind W (x, g))
    (hS : SameRules x y) : RightFor R c kind W (y, g) := by
  have hi : installed W kind y = installed W kind x := by
    funext h
    rw [installed, installed, hS.own]
  refine ⟨fun h => ?_, ?_, fun h => ?_, H.wrong⟩
  · have hR := H.flags h
    split_ifs at hR ⊢
    · obtain ⟨h1, h2, h3, h4⟩ := hR
      refine ⟨?_, ?_, ?_, ?_⟩
      · rwa [hS.modem]
      · rwa [hS.sta]
      · rwa [hS.hdls]
      · rwa [hS.hdls]
    · obtain ⟨h1, h2, h3⟩ := hR
      refine ⟨?_, ?_, ?_⟩
      · rwa [hS.modem]
      · rwa [hS.sta]
      · rwa [hS.hdls]
  · rw [hi]
    exact H.entries
  · rw [hi]
    exact H.count h

/-- Another kind of backhaul is right for rules that are installed only if it is the same. -/
lemma RightFor.kind_iff (H : RightFor R c kind W a) {k : Bool} :
    RightFor R c (Function.update kind f k) W a ↔ (W f = true → k = kind f) := by
  constructor
  · intro hR hW
    have h1 := (H.isFlags hW).1.sta
    have h2 := (hR.isFlags hW).1.sta
    rw [Function.update_self] at h2
    exact h2.symm.trans h1
  · intro hk
    by_cases hW : W f = true
    · rw [hk hW, Function.update_eq_self]
      exact H
    · have hWf : W f = false := by simpa using hW
      have hi : installed W (Function.update kind f k) a.1 = installed W kind a.1 := by
        funext h
        rcases eq_or_ne h f with rfl | hh
        · rw [installed, installed, hWf]
          rfl
        · rw [installed, installed, Function.update_of_ne hh]
      refine ⟨fun h => ?_, by rw [hi]; exact H.entries, fun h => by rw [hi]; exact H.count h,
        H.wrong⟩
      rcases eq_or_ne h f with rfl | hh
      · have hR := H.flags h
        rw [hWf] at hR ⊢
        exact hR
      · rw [Function.update_of_ne hh]
        exact H.flags h

lemma Frame.wanted (hF : Frame f a b) : Wanted b.1 = Wanted a.1 := by
  funext h
  rw [Wanted, Wanted, hF.active, hF.up, hF.down, hF.ip]

lemma wanted_setUpstream (f : IpType) (u : Bool) (a : LanAt) :
    Wanted (setUpstream f u a).1 = Function.update (Wanted a.1) f
      (a.1.isActive && u && a.1.isDownstreamSet f && hasIp a.1.ipType f) := by
  funext h
  rcases eq_or_ne h f with rfl | hh
  · simp [Wanted, setUpstream]
  · simp [Wanted, setUpstream, Function.update_of_ne hh]

lemma wanted_setDownstream (f : IpType) (d : Bool) (a : LanAt) :
    Wanted (setDownstream f d a).1 = Function.update (Wanted a.1) f
      (a.1.isActive && a.1.isUpstreamSet f && d && hasIp a.1.ipType f) := by
  funext h
  rcases eq_or_ne h f with rfl | hh
  · simp [Wanted, setDownstream]
  · simp [Wanted, setDownstream, Function.update_of_ne hh]

lemma RightFor.setUpstream (H : RightFor R c kind W a) (f : IpType) (u : Bool) :
    RightFor R c kind W (setUpstream f u a) := H.same ⟨rfl, rfl, rfl, rfl, rfl⟩

lemma RightFor.setDownstream (H : RightFor R c kind W a) (f : IpType) (d : Bool) :
    RightFor R c kind W (setDownstream f d a) := H.same ⟨rfl, rfl, rfl, rfl, rfl⟩

lemma frame_addUlRules (H : RightFor R c kind W a) (hW : W f = false) (ans : UlAns) (isSta : Bool) :
    Frame f a (addUlRules f ans isSta a) := (addUlRules_spec ans isSta (H.noFlags hW).1).1.1

/-! ## One event -/

/-- **An upstream is named.** -/
lemma right_wanUpTether (H : RightFor R c kind (Wanted a.1) a) (fam : IpType) (isSta : Bool)
    (ans : UlAns) :
    RightFor R c (Function.update kind fam isSta) (Wanted (wanUpTether fam ans isSta a).1)
        (wanUpTether fam ans isSta a) ↔ (LanOp.wanUpTether fam isSta ans).Clean a kind := by
  rw [wanUpTether, LanOp.Clean]
  split_ifs with hign hd
  · have hno : ¬ TakesUpstream a.1 fam isSta := by
      rintro ⟨h1, h2, h3, h4, -⟩
      rcases hign with h | h | h | h
      · simp [h1] at h
      · exact h2 h
      · simp [h3] at h
      · simp [h4] at h
    rw [H.kind_iff]
    exact ⟨fun h => ⟨h, fun h' => absurd h' hno⟩, fun h => h.1⟩
  all_goals
    push Not at hign
    obtain ⟨h1, h2, h3, h4⟩ := hign
    have hup : a.1.isUpstreamSet fam = false := by simpa using h4
    have hW : Wanted a.1 fam = false := by simp [Wanted, hup]
    have H' := H.setUpstream fam true
  · have htake : TakesUpstream a.1 fam isSta :=
      ⟨by simpa using h1, fun h => h2 h.1 h.2.1 h.2.2, by simpa using h3, hup, hd⟩
    have hwant : Wanted (addUlRules fam ans isSta (setUpstream fam true a)).1 =
        Function.update (Wanted a.1) fam true := by
      rw [(frame_addUlRules H' hW ans isSta).wanted, wanted_setUpstream, htake.1, hd, htake.2.2.1]
      rfl
    rw [hwant, H'.added hW]
    exact ⟨fun h => ⟨fun h' => absurd (hW.symm.trans h') (by decide), fun _ => h⟩,
      fun h => h.2 htake⟩
  · have hwant : Wanted (setUpstream fam true a).1 = Wanted a.1 := by
      rw [wanted_setUpstream, show a.1.isDownstreamSet fam = false by simpa using hd]
      rw [Bool.and_false, Bool.false_and, ← hW, Function.update_eq_self]
    rw [hwant, H'.kind_iff]
    exact ⟨fun h => ⟨h, fun h' => absurd h'.2.2.2.2 hd⟩, fun h => h.1⟩

/-- **A downstream is named.** -/
lemma right_downstreamAdd (H : RightFor R c kind (Wanted a.1) a) (fam : IpType) (bh : Backhaul)
    (ans : UlAns) :
    RightFor R c (Function.update kind fam bh.backhaulIsStaMode)
        (Wanted (downstreamAdd fam ans bh a).1) (downstreamAdd fam ans bh a) ↔
      (LanOp.downstreamAdd fam bh ans).Clean a kind := by
  rw [downstreamAdd, LanOp.Clean]
  split_ifs with hign hd
  · have hno : ¬ TakesDownstream a.1 fam := by
      rintro ⟨h1, -, -, h4⟩
      rcases hign with h | h
      · simp [h1] at h
      · simp [h4] at h
    rw [H.kind_iff]
    exact ⟨fun h => ⟨h, fun h' => absurd h' hno⟩, fun h => h.1⟩
  all_goals
    push Not at hign
    have hdown : a.1.isDownstreamSet fam = false := by simpa using hign.2
    have hW : Wanted a.1 fam = false := by simp [Wanted, hdown]
    have H' := H.setDownstream fam true
  · have htake : TakesDownstream a.1 fam := ⟨by simpa using hign.1, hd.2, hd.1, hdown⟩
    have hwant : Wanted (addUlRules fam ans bh.backhaulIsStaMode (setDownstream fam true a)).1 =
        Function.update (Wanted a.1) fam true := by
      rw [(frame_addUlRules H' hW ans _).wanted, wanted_setDownstream, htake.1, hd.1, hd.2]
      rfl
    rw [hwant, H'.added hW]
    exact ⟨fun h => ⟨fun h' => absurd (hW.symm.trans h') (by decide), fun _ => h⟩,
      fun h => h.2 htake⟩
  · have hwant : Wanted (setDownstream fam true a).1 = Wanted a.1 := by
      rw [wanted_setDownstream, Bool.and_true, Bool.and_assoc]
      have hno : (a.1.isUpstreamSet fam && hasIp a.1.ipType fam) = false := by
        simpa using hd
      rw [hno, Bool.and_false, ← hW, Function.update_eq_self]
    rw [hwant, H'.kind_iff]
    exact ⟨fun h => ⟨h, fun h' => absurd ⟨h'.2.2.1, h'.2.1⟩ hd⟩, fun h => h.1⟩

/-- Rules that were wanted are removed. -/
lemma right_removed (H : RightFor R c kind W a) (hO : Others R) (fam : IpType) (isSta : Bool)
    (ans : UlAns) {W' : IpType → Bool} (hW' : W' = Function.update W fam false) :
    RightFor R c kind W' (wanDown fam ans isSta a) ↔
      W fam = true ∧ DelOk a.1 fam (kind fam) isSta ans := by
  subst hW'
  have hself : Function.update W fam false fam = false := Function.update_self ..
  cases hW : W fam with
  | true =>
      obtain ⟨hok, hno⟩ := H.removed hW ans isSta
      constructor
      · intro hR
        obtain ⟨h1, -, h3⟩ := hR.noFlags hself
        exact ⟨rfl, hno ⟨h1, h3⟩⟩
      · exact fun h => hok h.2
  | false =>
      refine iff_of_false (fun hR => ?_) nofun
      exact H.spare hO hW ans isSta ⟨(hR.noFlags hself).2.2, hR.wrong⟩

/-- **An upstream goes.** -/
lemma right_wanDownTether (H : RightFor R c kind (Wanted a.1) a) (hO : Others R) (fam : IpType)
    (isSta : Bool) (ans : UlAns) :
    RightFor R c kind (Wanted (wanDownTether fam ans isSta a).1) (wanDownTether fam ans isSta a) ↔
      (LanOp.wanDownTether fam isSta ans).Clean a kind := by
  rw [wanDownTether, LanOp.Clean]
  split_ifs with hign hd
  · refine iff_of_true H fun hW => ?_
    simp only [Wanted, Bool.and_eq_true] at hW
    rcases hign with h | h | h <;> simp_all
  all_goals
    push Not at hign
    have H' := H.setUpstream fam false
    have hwant : Wanted (setUpstream fam false a).1 = Function.update (Wanted a.1) fam false := by
      rw [wanted_setUpstream, Bool.and_false, Bool.false_and, Bool.false_and]
  · have hW : Wanted a.1 fam = true := by simp_all [Wanted]
    rw [right_removed H' hO fam isSta ans
      (by rw [(wanDown_frame fam ans isSta _).1.wanted, hwant])]
    exact ⟨fun h _ => h.2, fun h => ⟨hW, h hW⟩⟩
  · have hW : Wanted a.1 fam = false := by
      simp [Wanted, show a.1.isDownstreamSet fam = false by simpa using hd]
    have hsame : Function.update (Wanted a.1) fam false = Wanted a.1 := by
      rw [← hW, Function.update_eq_self]
    rw [hwant, hsame]
    exact iff_of_true H' fun h => absurd (hW.symm.trans h) (by decide)

/-- **A downstream goes.** -/
lemma right_downstreamDel (H : RightFor R c kind (Wanted a.1) a) (hO : Others R) (fam : IpType)
    (bh : Backhaul) (ans : UlAns) :
    RightFor R c kind (Wanted (downstreamDel fam ans bh a).1) (downstreamDel fam ans bh a) ↔
      (LanOp.downstreamDel fam bh ans).Clean a kind := by
  rw [downstreamDel, LanOp.Clean]
  split_ifs with hign hu
  · refine iff_of_true H fun h1 _ h3 => ?_
    rcases hign with h | h
    · simp [h1] at h
    · simp [h3] at h
  all_goals
    push Not at hign
    have hact : a.1.isActive = true := by simpa using hign.1
    have hdown : a.1.isDownstreamSet fam = true := by simpa using hign.2
    have H' := H.setDownstream fam false
    have hwant : Wanted (setDownstream fam false a).1 =
        Function.update (Wanted a.1) fam false := by
      rw [wanted_setDownstream, Bool.and_false, Bool.false_and]
  · have hW : Wanted a.1 fam = hasIp a.1.ipType fam := by simp [Wanted, hact, hdown, hu]
    rw [right_removed H' hO fam bh.backhaulIsStaMode ans
      (by rw [(wanDown_frame fam ans _ _).1.wanted, hwant]), hW]
    exact ⟨fun h _ _ _ => h, fun h => h hact hu hdown⟩
  · have hW : Wanted a.1 fam = false := by
      simp [Wanted, show a.1.isUpstreamSet fam = false by simpa using hu]
    have hsame : Function.update (Wanted a.1) fam false = Wanted a.1 := by
      rw [← hW, Function.update_eq_self]
    rw [hwant, hsame]
    exact iff_of_true H' fun _ h => absurd h hu

/-! ## Addresses -/

lemma addrAdd_same (addr : DstAddr) (bh : Backhaul) (rt : RtAdd) (x : LanIface) :
    SameRules x (addrAdd addr bh rt x) := by
  cases addr <;>
    (rw [addrAdd]; dsimp only; split_ifs <;> exact ⟨rfl, rfl, rfl, rfl, rfl⟩)

/-- What is wanted stays wanted where only an address and upstreams come. -/
lemma wanted_mono {x y : LanIface} (hx : Wanted x f = true) (fam : IpType)
    (hact : y.isActive = x.isActive) (hip : y.ipType = configIpType x.ipType fam)
    (hup : x.isUpstreamSet f = true → y.isUpstreamSet f = true)
    (hdown : y.isDownstreamSet = x.isDownstreamSet) : Wanted y f = true := by
  simp only [Wanted, Bool.and_eq_true] at hx ⊢
  refine ⟨⟨⟨hact.trans hx.1.1.1, hup hx.1.1.2⟩, (congrFun hdown f).trans hx.1.2⟩, ?_⟩
  rw [hip, hasIp_configIpType, hx.2, Bool.true_or]

lemma findUpstreams_up {x : LanIface} (hx : x.isUpstreamSet f = true) (bh : Backhaul) :
    (findUpstreams bh x).isUpstreamSet f = true := by
  simp [findUpstreams, hx]

lemma wanted_addrAdd (addr : DstAddr) (bh : Backhaul) (rt : RtAdd) {x : LanIface}
    (hx : Wanted x f = true) : Wanted (addrAdd addr bh rt x) f = true := by
  cases addr with
  | v4 ip =>
      by_cases hign : x.isActive = false ∨ ip = 0 ∨ hasIp x.ipType .v4 = true
      · rwa [addrAdd, if_pos hign]
      · rw [addrAdd, if_neg hign]
        dsimp only
        split_ifs
        · exact wanted_mono hx .v4 rfl rfl id rfl
        · exact wanted_mono hx .v4 rfl rfl (findUpstreams_up · bh) rfl
  | v6 ip =>
      by_cases hign : x.isActive = false ∨ ip = (0, 0, 0, 0) ∨
          (hasIp x.ipType .v6 = true ∧ x.ipv6Addr.length = maxDefaultV6RouteRules)
      · rwa [addrAdd, if_pos hign]
      · rw [addrAdd, if_neg hign]
        dsimp only
        by_cases hno : x.ipv6Addr.contains ip ∨ rt = .failed
        · rw [if_pos hno]
          exact wanted_mono hx .v6 rfl rfl id rfl
        · rw [if_neg hno]
          exact wanted_mono hx .v6 rfl rfl (findUpstreams_up · bh) rfl

/-- Without a change of the rules, none may become wanted. -/
lemma RightFor.wanted_iff (H : RightFor R c kind W a) {W' : IpType → Bool}
    (hW : ∀ f, W f = true → W' f = true) :
    RightFor R c kind W' a ↔ ∀ f, W' f = true → W f = true := by
  constructor
  · intro hR f hf
    by_contra hno
    have hN := (H.noFlags (f := f) (by simpa using hno)).1
    have hF := (hR.isFlags hf).1
    have hmodem := hF.modem.symm.trans hN.modem
    rw [hF.sta.symm.trans hN.sta] at hmodem
    exact absurd hmodem (by decide)
  · intro h
    have hsame : W' = W := funext fun f => Bool.eq_iff_iff.mpr ⟨h f, hW f⟩
    rw [hsame]
    exact H

/-- **An address is added.** -/
lemma right_addrAdd (H : RightFor R c kind (Wanted a.1) a) (addr : DstAddr) (bh : Backhaul)
    (rt : RtAdd) :
    RightFor R c kind (Wanted (addrAdd addr bh rt a.1)) (addrAdd addr bh rt a.1, a.2) ↔
      (LanOp.addrAdd addr bh rt).Clean a kind :=
  (H.same (addrAdd_same addr bh rt a.1)).wanted_iff fun _ => wanted_addrAdd addr bh rt

/-! ## Going down -/

lemma Frame.downOk (hF : Frame f a b) (hh : h ≠ f) {k : Bool} (bh : Backhaul) (ans : UlAns) :
    DownOk b.1 h k bh ans ↔ DownOk a.1 h k bh ans := by
  rw [DownOk, DownOk, DelOk, DelOk, hF.wanted, hF.hdls h hh]

lemma downFam_frame (f : IpType) (bh : Backhaul) (ans : UlAns) (a : LanAt) :
    Frame f a (downFam f bh ans a) ∧ a.2.wrongDels ≤ (downFam f bh ans a).2.wrongDels := by
  rw [downFam]
  split_ifs
  · exact wanDown_frame f ans _ a
  · exact ⟨.refl f a, le_rfl⟩

/-- What `handle_down_evt` does for a family is right just if the family goes down cleanly. -/
lemma RightFor.downFam (H : RightFor R c kind W a) (hO : Others R) (hW : W f = Wanted a.1 f)
    (bh : Backhaul) (ans : UlAns) :
    (DownOk a.1 f (kind f) bh ans →
      RightFor R c kind (Function.update W f false) (downFam f bh ans a)) ∧
      (NoFlags (downFam f bh ans a).1 f → (downFam f bh ans a).2.fltRuleCount f = c f →
        (downFam f bh ans a).2.wrongDels = 0 → DownOk a.1 f (kind f) bh ans) := by
  rw [LanUplink.downFam, DownOk, ← hW]
  cases hWf : W f with
  | true =>
      obtain ⟨hok, hno⟩ := H.removed hWf ans bh.backhaulIsStaMode
      rw [if_pos rfl]
      split_ifs with hup
      · exact ⟨fun h => hok h.2, fun h1 h2 _ => ⟨hup, hno ⟨h1, h2⟩⟩⟩
      · refine ⟨fun h => absurd h.1 hup, fun h1 => ?_⟩
        have hF := (H.isFlags hWf).1
        have hmodem := hF.modem.symm.trans h1.modem
        rw [hF.sta.symm.trans h1.sta] at hmodem
        exact absurd hmodem (by decide)
  | false =>
      have hsame : Function.update W f false = W := by rw [← hWf, Function.update_eq_self]
      rw [hsame, if_neg (by decide)]
      split_ifs with hup
      · refine ⟨fun h => absurd (hup.symm.trans h) (by decide), fun _ h2 h3 => ?_⟩
        exact absurd ⟨h2, h3⟩ (H.spare hO hWf ans bh.backhaulIsStaMode)
      · exact ⟨fun _ => H, fun _ _ _ => by simpa using hup⟩

/-- The families go down one after the other. -/
lemma right_downFams (H : RightFor R c kind (Wanted a.1) a) (hO : Others R) (bh : Backhaul)
    (ans : IpType → UlAns) :
    RightFor R c kind (fun _ => false)
        (LanUplink.downFam .v6 bh (ans .v6) (LanUplink.downFam .v4 bh (ans .v4) a)) ↔
      ∀ f, DownOk a.1 f (kind f) bh (ans f) := by
  have h64 : IpType.v6 ≠ .v4 := by decide
  have h46 : IpType.v4 ≠ .v6 := by decide
  obtain ⟨hF4, -⟩ := downFam_frame .v4 bh (ans .v4) a
  obtain ⟨hok4, hno4⟩ := H.downFam hO (f := .v4) rfl bh (ans .v4)
  generalize LanUplink.downFam .v4 bh (ans .v4) a = b at hF4 hok4 hno4 ⊢
  obtain ⟨hF6, hle6⟩ := downFam_frame .v6 bh (ans .v6) b
  have hsecond (Hb : RightFor R c kind (Function.update (Wanted a.1) .v4 false) b) :=
    Hb.downFam hO (f := .v6) (by rw [Function.update_of_ne h64, hF4.wanted]) bh (ans .v6)
  constructor
  · intro hR
    obtain ⟨hN4, -, hc4⟩ := hR.noFlags (f := .v4) rfl
    obtain ⟨hN6, -, hc6⟩ := hR.noFlags (f := .v6) rfl
    have hd4 : DownOk a.1 .v4 (kind .v4) bh (ans .v4) :=
      hno4 ((hF6.noFlags h46).mp hN4) ((hF6.count .v4 h46).symm.trans hc4)
        (Nat.le_zero.mp (hle6.trans hR.wrong.le))
    have hd6 := (hsecond (hok4 hd4)).2 hN6 hc6 hR.wrong
    intro f
    cases f with
    | v4 => exact hd4
    | v6 => exact (hF4.downOk h64 bh (ans .v6)).mp hd6
  · intro hd
    have hR := (hsecond (hok4 (hd .v4))).1 ((hF4.downOk h64 bh (ans .v6)).mpr (hd .v6))
    have hoff : Function.update (Function.update (Wanted a.1) .v4 false) .v6 false =
        fun _ => false := funext fun f => by cases f <;> rfl
    rwa [hoff] at hR

/-- **The interface goes down.** -/
lemma right_linkDown (H : RightFor R c kind (Wanted a.1) a) (hO : Others R) (bh : Backhaul)
    (ans : IpType → UlAns) :
    RightFor R c kind (Wanted (linkDown bh ans a).1) (linkDown bh ans a) ↔
      (LanOp.linkDown bh ans).Clean a kind := by
  rw [LanOp.Clean]
  by_cases hact : a.1.isActive = false
  · rw [linkDown, if_pos hact]
    exact iff_of_true H fun h => absurd (hact.symm.trans h) (by decide)
  have hoff : Wanted (linkDown bh ans a).1 = fun _ => false := by
    rw [linkDown, if_neg hact]
    exact funext fun f => by simp [Wanted]
  have hsame (b : LanAt) : RightFor R c kind (fun _ => false) ({ b.1 with isActive := false }, b.2) ↔
      RightFor R c kind (fun _ => false) b :=
    ⟨fun h => h.same ⟨rfl, rfl, rfl, rfl, rfl⟩, fun h => h.same ⟨rfl, rfl, rfl, rfl, rfl⟩⟩
  rw [hoff, linkDown, if_neg hact]
  dsimp only
  rw [hsame]
  by_cases hip : a.1.ipType = none
  · have hW : Wanted a.1 = fun _ => false := funext fun f => by cases f <;> simp [Wanted, hip, hasIp]
    rw [if_pos hip, ← hW]
    exact iff_of_true H fun _ h => absurd hip h
  · rw [if_neg hip, right_downFams H hO bh ans]
    exact ⟨fun h _ _ => h, fun h => h (by simpa using hact) hip⟩

/-! ## A run -/

/-- **An event keeps the rules right** just if it is clean. -/
theorem LanOp.Step.right_iff_clean (hO : Others R) (H : Right R c x) (hst : LanOp.Step x op y) :
    Right R c y ↔ op.Clean x.1 x.2 := by
  rw [hst]
  cases op with
  | wanUpTether fam isSta ans => exact right_wanUpTether H fam isSta ans
  | wanDownTether fam isSta ans => exact right_wanDownTether H hO fam isSta ans
  | downstreamAdd fam bh ans => exact right_downstreamAdd H fam bh ans
  | downstreamDel fam bh ans => exact right_downstreamDel H hO fam bh ans
  | addrAdd addr bh rt => exact right_addrAdd H addr bh rt
  | linkDown bh ans => exact right_linkDown H hO bh ans

variable {cate : LanCate} {bh : Backhaul} {hdl : ℕ} {g : LanShared}

/-- Nothing is installed at the start. -/
lemma right_init (hw : g.wrongDels = 0) (cate : LanCate) (bh : Backhaul) (hdl : ℕ)
    (k : IpType → Bool) :
    Right g.rules.entries g.fltRuleCount ((LanIface.init cate bh hdl, g), k) := by
  have hW : Wanted (LanIface.init cate bh hdl) = fun _ => false :=
    funext fun f => by cases f <;> simp [Wanted, LanIface.init, hasIp]
  rw [Right]
  dsimp only
  rw [hW]
  exact ⟨fun f => ⟨rfl, rfl, rfl⟩, by simp [installed], fun f => by simp [installed], hw⟩

/-- **The uplink rules over a run** are the wanted ones in every state just if every event is
clean. -/
theorem uplink_follows {ops : List LanOp} {k : IpType → Bool} (hO : Others g.rules.entries)
    (hw : g.wrongDels = 0) (hr : Run LanOp.Step ((LanIface.init cate bh hdl, g), k) ops y) :
    (∀ pre z, pre <+: ops → Run LanOp.Step ((LanIface.init cate bh hdl, g), k) pre z →
        Right g.rules.entries g.fltRuleCount z) ↔
      Run (fun x op y => op.Clean x.1 x.2 ∧ LanOp.Step x op y)
        ((LanIface.init cate bh hdl, g), k) ops y :=
  Run.always_iff (I := fun _ => True) (P := Right g.rules.entries g.fltRuleCount)
    (fun _ _ _ _ h h' => h.trans h'.symm) (fun _ _ _ _ _ => trivial)
    (fun _ _ _ _ hP h => h.right_iff_clean hO hP) trivial (right_init hw cate bh hdl k) hr

instance : Decidable (AddOk f isSta ans) :=
  decidable_of_iff ((f = .v6 → ans.addPrefix = true) ∧ ans.ready = true ∧ ans.add = true ∧
      (isSta = false → ans.qmap = true ∧ 0 < ans.numExtProps ∧
        ans.numExtProps ≤ maxWanUlFilterRules))
    ⟨fun h => ⟨h.1, h.2.1, h.2.2.1, h.2.2.2⟩, fun h => ⟨h.pfx, h.ready, h.add, h.modem⟩⟩

instance {x : LanIface} {k : Bool} : Decidable (DelOk x f k isSta ans) := by
  unfold DelOk
  infer_instance

instance {x : LanIface} {k : Bool} : Decidable (DownOk x f k bh ans) := by
  unfold DownOk
  infer_instance

instance {x : LanIface} : Decidable (TakesUpstream x f isSta) := by
  unfold TakesUpstream
  infer_instance

instance {x : LanIface} : Decidable (TakesDownstream x f) := by
  unfold TakesDownstream
  infer_instance

instance : Decidable (op.Clean a kind) := by cases op <;> unfold LanOp.Clean <;> infer_instance

/-- The step of an event, if it is clean. -/
def cleanEvent (x : LanAt × (IpType → Bool)) (op : LanOp) :
    Option ((LanAt × (IpType → Bool)) × LanOp) :=
  if op.Clean x.1 x.2 then some ((op.handle x.1, op.kind x.2), op) else none

/-- What the modem asks for is two rules, and the driver does all that it is asked for. -/
def twoRules : UlAns := ⟨true, true, true, true, fun _ => 0, 2, fun _ => true⟩

/-- The modem is the backhaul, and no family is up yet. -/
def modemOnly : Backhaul := ⟨false, fun _ => false⟩

/-- Nothing has been installed yet. -/
def noRules : LanShared := ⟨.empty, fun _ => 0, 0⟩

/-- Tethering over the modem, of which IPv6 is taken back. -/
def tethering : List LanOp :=
  [.addrAdd (.v4 7) modemOnly .added, .addrAdd (.v6 (1, 0, 0, 1)) modemOnly .added,
    .wanUpTether .v4 false twoRules, .wanUpTether .v6 false twoRules,
    .downstreamAdd .v4 modemOnly twoRules, .downstreamAdd .v6 modemOnly twoRules,
    .wanDownTether .v6 false twoRules]

lemma cleanEvent_run {ops ops' : List LanOp} (he : execBy cleanEvent x ops = some (y, ops')) :
    Run (fun x op y => op.Clean x.1 x.2 ∧ LanOp.Step x op y) x ops' y := by
  refine Run.of_execBy (fun x op p hp => ?_) he
  rw [cleanEvent] at hp
  split_ifs at hp with hc
  cases hp
  exact ⟨hc, rfl⟩

/-- The two rules of IPv4 are left, and they are counted. -/
theorem uplink_follows_tethering : ∃ ops x,
    Run LanOp.Step ((LanIface.init .eth modemOnly 0, noRules), fun _ => false) ops x ∧
      Right 0 (fun _ => 0) x ∧ x.1.2.fltRuleCount .v4 = 2 ∧ x.1.2.rules.entries.card = 2 := by
  have hexec : ((execBy cleanEvent ((LanIface.init .eth modemOnly 0, noRules), fun _ => false)
      tethering).map fun p => (p.1.1.2.fltRuleCount .v4, p.1.1.2.rules.entries.card)) =
        some (2, 2) := by decide
  obtain ⟨⟨x, ops⟩, he, hp⟩ := Option.map_eq_some_iff.mp hexec
  obtain ⟨hcount, hcard⟩ := Prod.mk.inj hp
  have hclean := cleanEvent_run he
  have hr := hclean.mono fun _ _ _ h => h.2
  have hright := (uplink_follows (g := noRules) (fun _ he => absurd he (Multiset.notMem_zero _)) rfl
    hr).mpr hclean ops x List.prefix_rfl hr
  exact ⟨ops, x, hr, hright, hcount, hcard⟩

end Ipacm.LanUplink
