import OcnDevice.Ipacm.WlanRules.Clients
import OcnDevice.Ipacm.WlanRules.Switch

/-!
# The rules follow the clients

The records of an interface track the clients that are attached: each of them has a record, which
matches it (`Tracks`).  Every event keeps this as long as the clients that come are new, except that
a deletion moves the records up without `power_save_set`; it keeps the records right if the flags of
the records that move are alike (`WlanEvent.KeepsFlags`).

As the records also account for the rules (`BookedIn`), the rules that are installed are then those
that the clients should have (`rules_follow`).
-/

namespace Ipacm.WlanRules

open HandleTable Finset IfaceProps

variable {A : Type*} {p : IfaceProps A} {net : Net} {s s' : WlanIface A} {mac : Mac} {i j : ℕ}
  {g : Client → Client}
  {f : WlanClient × HandleTable (RtRule A) → WlanClient × HandleTable (RtRule A)}

/-- **Each client that is attached has a record**, and the record matches it. -/
structure Tracks (p : IfaceProps A) (net : Net) (s : WlanIface A) : Prop where
  pre : net.ipv6Prefix = s.ipv6Prefix
  attached : ∀ mac, mac ∈ net.attached ↔ ∃ i < s.numWifiClient, (s.wlanClient i).mac = mac
  distinct : ∀ i < s.numWifiClient, ∀ j < s.numWifiClient,
    (s.wlanClient i).mac = (s.wlanClient j).mac → i = j
  client : ∀ i < s.numWifiClient, Matches p (net.client (s.wlanClient i).mac) (s.wlanClient i)

namespace Tracks

/-- The records change, but they stay those of the same clients. -/
lemma congr {net' : Net} (h : Tracks p net s) (hpre : net'.ipv6Prefix = s'.ipv6Prefix)
    (hatt : net'.attached = net.attached) (hnum : s'.numWifiClient = s.numWifiClient)
    (hmac : ∀ i < s.numWifiClient, (s'.wlanClient i).mac = (s.wlanClient i).mac)
    (hclient : ∀ i < s.numWifiClient,
      Matches p (net'.client (s.wlanClient i).mac) (s'.wlanClient i)) : Tracks p net' s' where
  pre := hpre
  attached := by
    intro mac
    rw [hatt, h.attached, hnum]
    exact exists_congr fun i => and_congr_right fun hi => by rw [hmac i hi]
  distinct := by
    intro i hi j hj heq
    rw [hnum] at hi hj
    rw [hmac i hi, hmac j hj] at heq
    exact h.distinct i hi j hj heq
  client := by
    intro i hi
    rw [hnum] at hi
    rw [hmac i hi]
    exact hclient i hi

/-- An event that changes a client changes its record. -/
lemma onMac (h : Tracks p net s) (hg : ∀ k, (g k).mac = k.mac)
    (hf : ∀ k c t, Matches p k c → Matches p (g k) (f (c, t)).1) :
    Tracks p (net.change mac g) (s.onMac mac f) := by
  rw [WlanIface.onMac]
  cases hidx : s.getWlanClientIndex mac with
  | none =>
      refine h.congr h.pre rfl rfl (fun _ _ => rfl) fun i hi => ?_
      have hne := firstIdx_eq_none.mp hidx i hi
      simp only [Net.change]
      rw [Function.update_of_ne (by simpa using hne)]
      exact h.client i hi
  | some i =>
      obtain ⟨hi, hmac, -⟩ := firstIdx_eq_some.mp hidx
      have hmac : (s.wlanClient i).mac = mac := by simpa using hmac
      have hfound : Matches p (g (net.client mac)) (f (s.wlanClient i, s.rules)).1 :=
        hf _ _ _ (hmac ▸ h.client i hi)
      have hsame : (f (s.wlanClient i, s.rules)).1.mac = (s.wlanClient i).mac := by
        rw [hfound.mac, hg, ← hmac, ← (h.client i hi).mac]
      simp only
      refine h.congr h.pre rfl rfl (fun j hj => ?_) fun j hj => ?_
      · rcases eq_or_ne j i with rfl | hne
        · rw [WlanIface.onClient_self, hsame]
        · rw [WlanIface.onClient_of_ne hne]
      · simp only [Net.change]
        rcases eq_or_ne j i with rfl | hne
        · rw [WlanIface.onClient_self, hmac, Function.update_self]
          exact hfound
        · have hother : (s.wlanClient j).mac ≠ mac := fun heq =>
            hne (h.distinct j hj i hi (heq.trans hmac.symm))
          rw [WlanIface.onClient_of_ne hne, Function.update_of_ne hother]
          exact h.client j hj

/-- The IPv6 addresses of all clients are forgotten. -/
lemma resetRt (h : Tracks p net s) :
    Tracks p (net.handle .resetRt) (s.handleWlanClientResetRt p) := by
  have hgo := forUpTo_invariant (n := s.numWifiClient) (s := s)
    (f := fun i s => s.onClient i fun a =>
      let b := p.deleteDefaultQosRtrules a .v6
      ({ b.1 with ipv6Set := 0 }, b.2))
    (P := fun k t => t.numWifiClient = s.numWifiClient ∧ t.ipv6Prefix = s.ipv6Prefix ∧
      ∀ i, t.wlanClient i = if i < k then
        { s.wlanClient i with routeRuleSetV6 := 0, ipv6Set := 0 } else s.wlanClient i)
    ⟨rfl, rfl, fun i => by simp⟩ (by
      rintro k t hk ⟨hnum, hpre, hclient⟩
      refine ⟨hnum, hpre, fun i => ?_⟩
      rcases lt_trichotomy i k with hlt | rfl | hgt
      · rw [WlanIface.onClient_of_ne hlt.ne, hclient, if_pos hlt, if_pos (by omega)]
      · rw [WlanIface.onClient_self]
        simp only [deleteRules_v6_fst]
        rw [hclient, if_neg (lt_irrefl i), if_pos (Nat.lt_succ_self i)]
      · rw [WlanIface.onClient_of_ne hgt.ne', hclient, if_neg (by omega), if_neg (by omega)])
  obtain ⟨hnum, hpre, hclient⟩ := hgo
  refine h.congr (h.pre.trans hpre.symm) rfl hnum (fun i hi => ?_) fun i hi => ?_
  · rw [WlanIface.handleWlanClientResetRt, hclient, if_pos hi]
  · rw [WlanIface.handleWlanClientResetRt, hclient, if_pos hi]
    exact (h.client i hi).resetRt

/-- A new client gets a record. -/
lemma attach (h : Tracks p net s) (htx : p.hasTxProp = true) (hnum : p.numTxProps ≠ 0)
    {total : ℕ} {hdrHdl : IpType → ℕ} (hroom : s.numWifiClient < ipaMaxNumWifiClients)
    (htotal : total < ipaMaxNumWifiClients) (hnew : mac ∉ net.attached) :
    Tracks p (net.handle (.clientAdd total (some mac) hdrHdl))
      (s.handleWlanClientInitEx p total (some mac) hdrHdl) := by
  have hnot : ∀ i < s.numWifiClient, (s.wlanClient i).mac ≠ mac := fun i hi heq =>
    hnew ((h.attached mac).mpr ⟨i, hi, heq⟩)
  rw [WlanIface.handleWlanClientInitEx, if_neg (by omega), if_neg (by simp [htx]), Net.handle]
  refine ⟨h.pre, fun mac' => ?_, fun i hi j hj heq => ?_, fun i hi => ?_⟩
  · simp only [mem_insert, h.attached]
    constructor
    · rintro (rfl | ⟨i, hi, rfl⟩)
      · exact ⟨s.numWifiClient, by omega, by simp [hnum]⟩
      · exact ⟨i, by omega, by rw [Function.update_of_ne hi.ne]⟩
    · rintro ⟨i, hi, rfl⟩
      rcases Nat.lt_succ_iff_lt_or_eq.mp hi with hi | rfl
      · exact Or.inr ⟨i, hi, by rw [Function.update_of_ne hi.ne]⟩
      · exact Or.inl (by simp [hnum])
  · simp only at heq
    rcases Nat.lt_succ_iff_lt_or_eq.mp hi with hi | rfl <;>
      rcases Nat.lt_succ_iff_lt_or_eq.mp hj with hj | rfl
    · rw [Function.update_of_ne hi.ne, Function.update_of_ne hj.ne] at heq
      exact h.distinct i hi j hj heq
    · rw [Function.update_of_ne hi.ne, Function.update_self] at heq
      simp only [if_neg hnum, Option.getD_some] at heq
      exact absurd heq (hnot i hi)
    · rw [Function.update_of_ne hj.ne, Function.update_self] at heq
      simp only [if_neg hnum, Option.getD_some] at heq
      exact absurd heq.symm (hnot j hj)
    · rfl
  · simp only
    rcases Nat.lt_succ_iff_lt_or_eq.mp hi with hi | rfl
    · rw [Function.update_of_ne hi.ne, Function.update_of_ne (hnot i hi)]
      exact h.client i hi
    · rw [Function.update_self]
      simp only [if_neg hnum, Option.getD_some, Function.update_self]
      exact ⟨rfl, rfl, rfl, fun h4 => if_neg h4, fun h6 => if_neg h6, rfl, rfl, rfl⟩

/-- A client whose rules are deleted keeps its place and its flag. -/
lemma clear_client : ((s.clear p i).wlanClient j).mac = (s.wlanClient j).mac ∧
    ((s.clear p i).wlanClient j).powerSaveSet = (s.wlanClient j).powerSaveSet := by
  rw [WlanIface.clear]
  rcases eq_or_ne j i with rfl | hne
  · rw [WlanIface.onClient_self]
    simp only [deleteRules_v6_fst, deleteRules_v4_fst, and_self]
  · rw [WlanIface.onClient_of_ne hne]
    exact ⟨rfl, rfl⟩

/-- **A client leaves**, and the records behind it move up.  Their flags have to be alike, as they
stay where they are. -/
lemma detach (h : Tracks p net s)
    (hflags : ∀ i, s.getWlanClientIndex mac = some i → ∀ j, i ≤ j → j + 1 < s.numWifiClient →
      (s.wlanClient j).powerSaveSet = (s.wlanClient (j + 1)).powerSaveSet) :
    Tracks p (net.handle (.clientDel mac)) (s.handleWlanClientDownEvt p mac) := by
  rw [WlanIface.handleWlanClientDownEvt]
  cases hidx : s.getWlanClientIndex mac with
  | none =>
      have hnot : mac ∉ net.attached := by
        rw [h.attached]
        rintro ⟨i, hi, hmac⟩
        have hne := firstIdx_eq_none.mp hidx i hi
        simp [hmac] at hne
      exact h.congr h.pre (erase_eq_of_notMem hnot) rfl (fun _ _ => rfl) h.client
  | some i =>
      obtain ⟨hi, hmac, -⟩ := firstIdx_eq_some.mp hidx
      have hmac : (s.wlanClient i).mac = mac := by simpa using hmac
      -- the record at `j` is now that of the client whose record was at `old j`
      let old : ℕ → ℕ := fun j => if j < i then j else j + 1
      have hrec : ∀ j < s.numWifiClient - 1,
          Matches p (net.client (s.wlanClient (old j)).mac)
            (((s.clear p i).detach p i).wlanClient j) ∧
          (((s.clear p i).detach p i).wlanClient j).mac = (s.wlanClient (old j)).mac := by
        intro j hj
        rw [WlanIface.detach_client (s := s.clear p i) hj]
        rcases lt_or_ge j i with hlt | hge
        · have hsame : (s.clear p i).wlanClient j = s.wlanClient j :=
            WlanIface.onClient_of_ne hlt.ne
          rw [if_pos hlt, hsame, show old j = j from if_pos hlt]
          exact ⟨h.client j (by omega), rfl⟩
        · have hsame : (s.clear p i).wlanClient (j + 1) = s.wlanClient (j + 1) :=
            WlanIface.onClient_of_ne (by omega)
          rw [if_neg (by omega), hsame, show old j = j + 1 from if_neg (by omega)]
          refine ⟨(h.client (j + 1) (by omega)).moveUp ?_, rfl⟩
          rw [clear_client.2]
          exact hflags i hidx j hge (by omega)
      have hnum : ((s.clear p i).detach p i).numWifiClient = s.numWifiClient - 1 := rfl
      have hold : ∀ j < s.numWifiClient - 1, old j < s.numWifiClient ∧ old j ≠ i := by
        intro j hj
        simp only [old]
        split_ifs <;> omega
      refine ⟨h.pre, fun mac' => ?_, fun j hj j' hj' heq => ?_, fun j hj => ?_⟩
      · rw [hnum, Net.handle, mem_erase, h.attached]
        constructor
        · rintro ⟨hne, k, hk, rfl⟩
          have hki : k ≠ i := fun heq => hne (heq ▸ hmac)
          refine ⟨if k < i then k else k - 1, by split_ifs <;> omega, ?_⟩
          rw [(hrec _ (by split_ifs <;> omega)).2]
          congr 2
          simp only [old]
          split_ifs <;> omega
        · rintro ⟨j, hj, rfl⟩
          obtain ⟨hlt, hne⟩ := hold j hj
          rw [(hrec j hj).2]
          exact ⟨fun heq => hne (h.distinct _ hlt i hi (heq.trans hmac.symm)), _, hlt, rfl⟩
      · rw [(hrec j hj).2, (hrec j' hj').2] at heq
        have hsame := h.distinct _ (hold j hj).1 _ (hold j' hj').1 heq
        simp only [old] at hsame
        split_ifs at hsame <;> omega
      · rw [(hrec j hj).2]
        exact (hrec j hj).1

end Tracks

/-! ## Runs -/

variable {a b : Net × WlanIface A} {event : WlanEvent} {es : List WlanEvent} {isMCCMode : Bool}

/-- The events of clients: one that is added is not attached yet, and there is room for it.  The
mode does not change. -/
def WlanEvent.Proper (a : Net × WlanIface A) : WlanEvent → Prop
  | .clientAdd total attrib _ =>
      a.2.numWifiClient < ipaMaxNumWifiClients ∧ total < ipaMaxNumWifiClients ∧
        ∃ mac, attrib = some mac ∧ mac ∉ a.1.attached
  | .mode _ => False
  | .switch _ => False
  | _ => True

/-- The records that a deletion moves have the flags of those that they move to. -/
def WlanEvent.KeepsFlags (s : WlanIface A) : WlanEvent → Prop
  | .clientDel mac => ∀ i, s.getWlanClientIndex mac = some i → ∀ j, i ≤ j →
      j + 1 < s.numWifiClient → (s.wlanClient j).powerSaveSet = (s.wlanClient (j + 1)).powerSaveSet
  | _ => True

/-- An event is heard by the clients and by the interface. -/
structure Heard (p : IfaceProps A) (a : Net × WlanIface A) (event : WlanEvent)
    (b : Net × WlanIface A) : Prop where
  net : b.1 = a.1.handle event
  iface : event.Step p a.2 b.2
  proper : event.Proper a

/-- No client is there yet. -/
def start (A : Type*) (isMCCMode : Bool) : Net × WlanIface A :=
  (.init, { WlanIface.init A with isMCCMode })

/-- **The rules are those that the attached clients should have**, every handle is kept, and none
was named in vain. -/
structure RulesFollow (p : IfaceProps A) (a : Net × WlanIface A) : Prop where
  rules : a.2.rules.entries.map Prod.snd =
    ∑ mac ∈ a.1.attached, ((a.1.client mac).rules p a.2.isMCCMode : Multiset (RtRule A))
  handles : a.2.rules.handles = ∑ i ∈ range a.2.numWifiClient,
    (p.inUse (a.2.wlanClient i)).val.map (a.2.wlanClient i).wifiRtHdl
  misses : a.2.rules.misses = 0

/-- Every event keeps the records those of the clients. -/
theorem Tracks.step (h : Tracks p a.1 a.2) (htx : p.hasTxProp = true) (hnum : p.numTxProps ≠ 0)
    (hst : Heard p a event b) (hflags : event.KeepsFlags a.2) : Tracks p b.1 b.2 := by
  obtain ⟨hnet, hiface, hproper⟩ := hst
  rw [hnet, ← hiface]
  cases event with
  | clientAdd total attrib hdrHdl =>
      obtain ⟨hroom, htotal, mac, rfl, hnew⟩ := hproper
      exact h.attach htx hnum hroom htotal hnew
  | clientDel mac => exact h.detach hflags
  | clientPowerSave mac =>
      exact h.onMac (g := fun k => { k with saving := true }) (fun _ => rfl)
        fun k c t hk => hk.pwrsave
  | clientRecover mac pick =>
      exact h.onMac (g := fun k => { k with saving := false }) (fun _ => rfl)
        fun k c t hk => hk.recover htx
  | ipAddrAdd mac addr pick =>
      refine h.onMac (g := fun k => k.learn a.1.ipv6Prefix addr) (fun k => ?_) fun k c t hk => ?_
      · cases addr <;> simp only [Client.learn] <;> split_ifs <;> rfl
      · rw [h.pre]
        exact hk.learn htx
  | resetRt => exact h.resetRt
  | newPrefix q => exact h.congr rfl rfl rfl (fun _ _ => rfl) h.client
  | mode isMCCMode => exact hproper.elim
  | switch fam => exact hproper.elim

lemma mode_of_heard (hst : Heard p a event b) : b.2.isMCCMode = a.2.isMCCMode := by
  obtain ⟨-, hiface, hproper⟩ := hst
  have hmac : ∀ mac f, (a.2.onMac mac f).isMCCMode = a.2.isMCCMode := by
    intro mac f
    rw [WlanIface.onMac]
    split <;> rfl
  rw [← hiface]
  cases event with
  | clientAdd total attrib hdrHdl =>
      rw [WlanEvent.exec, WlanIface.handleWlanClientInitEx]
      split_ifs <;> rfl
  | clientDel mac =>
      rw [WlanEvent.exec, WlanIface.handleWlanClientDownEvt]
      split <;> rfl
  | clientPowerSave mac => exact hmac _ _
  | clientRecover mac pick => exact hmac _ _
  | ipAddrAdd mac addr pick => exact hmac _ _
  | resetRt =>
      exact forUpTo_preserves (P := fun t : WlanIface A => t.isMCCMode = a.2.isMCCMode) rfl
        fun _ _ _ ht => ht
  | newPrefix q => rfl
  | mode isMCCMode => exact hproper.elim
  | switch fam => exact hproper.elim

lemma tracks_start : Tracks p (start A isMCCMode).1 (start A isMCCMode).2 where
  pre := rfl
  attached := fun mac => by simp [start, Net.init, WlanIface.init]
  distinct := fun i hi => absurd hi (Nat.not_lt_zero i)
  client := fun i hi => absurd hi (Nat.not_lt_zero i)

/-- The rules that the records account for. -/
lemma rules_eq {m : ℕ → RtHdl → Bool} (h : Booked p m s) (hm : ∀ i x, m i x = isMCCMode) :
    s.rules.entries.map Prod.snd = ∑ i ∈ range s.numWifiClient,
      (p.rulesOf (fun _ => isMCCMode) (s.wlanClient i)).map Prod.snd := by
  rw [h.rules]
  refine (map_sum (Multiset.mapAddMonoidHom Prod.snd) _ _).trans (sum_congr rfl fun i _ => ?_)
  rw [show m i = fun _ => isMCCMode from funext (hm i)]
  rfl

/-- The handles that the records keep. -/
lemma handles_eq {m : ℕ → RtHdl → Bool} (h : Booked p m s) :
    s.rules.handles = ∑ i ∈ range s.numWifiClient,
      (p.inUse (s.wlanClient i)).val.map (s.wlanClient i).wifiRtHdl := by
  rw [handles, h.rules]
  exact (map_sum (Multiset.mapAddMonoidHom Prod.fst) _ _).trans
    (sum_congr rfl fun i _ => map_fst_known)

/-- **The rules of records that track the clients** are those that the clients should have. -/
lemma Tracks.rules (h : Tracks p net s) (htx : p.hasTxProp = true) :
    ∑ i ∈ range s.numWifiClient,
      (p.rulesOf (fun _ => isMCCMode) (s.wlanClient i)).map Prod.snd =
    ∑ mac ∈ net.attached, ((net.client mac).rules p isMCCMode : Multiset (RtRule A)) := by
  have himage : net.attached = (range s.numWifiClient).image fun i => (s.wlanClient i).mac := by
    ext mac
    rw [h.attached, mem_image]
    simp only [mem_range]
  rw [himage, sum_image fun i hi j hj =>
    h.distinct i (by simpa using hi) j (by simpa using hj)]
  exact sum_congr rfl fun i hi => (h.client i (mem_range.mp hi)).rules htx

/-- **In every run the rules follow the clients**, if the deletions keep the flags right. -/
theorem rules_follow (hr : Run (fun a event b => Heard p a event b ∧ event.KeepsFlags a.2)
    (start A isMCCMode) es a) : RulesFollow p a := by
  obtain ⟨hmode, ⟨m, hm, hbooked⟩, htracks⟩ := hr.invariant
    (P := fun a => a.2.isMCCMode = isMCCMode ∧ BookedIn p (· = isMCCMode) a.2 ∧
      (p.hasTxProp = true → p.numTxProps ≠ 0 → Tracks p a.1 a.2))
    (fun a event b ⟨hmode, hbooked, htracks⟩ hst =>
      ⟨(mode_of_heard hst.1).trans hmode, hbooked.step hmode hst.1.iface,
        fun htx hnum => (htracks htx hnum).step htx hnum hst.1 hst.2⟩)
    ⟨rfl, ⟨fun _ _ => isMCCMode, fun _ _ => rfl, Booked.init.mode isMCCMode (0, 0)⟩,
      fun _ _ => tracks_start⟩
  refine ⟨?_, handles_eq hbooked, hbooked.misses⟩
  rw [rules_eq hbooked hm, hmode]
  by_cases hnum : p.numTxProps = 0
  · -- without tx properties there are no rules
    have hno : ∀ fam, p.txOf fam = [] := fun fam => by simp [txOf, hnum]
    have hrecord : ∀ c, (p.rulesOf (fun _ => isMCCMode) c).map Prod.snd = 0 := by
      intro c
      have hempty : p.inUse c = ∅ := by
        ext x
        cases x <;> simp [hno]
      rw [rulesOf, hempty, known_empty, Multiset.map_zero]
    have hclient : ∀ k : Client, k.rules p isMCCMode = [] := by
      intro k
      rw [Client.rules]
      cases k.v4 <;> simp [hno]
    simp only [hrecord, hclient, sum_const_zero, Multiset.coe_nil]
  · cases htx : p.hasTxProp with
    | true => exact (htracks htx hnum).rules htx
    | false =>
        have hnone : a.2.numWifiClient = 0 := by
          by_contra hpos
          simp [hbooked.hasTx (Nat.pos_of_ne_zero hpos)] at htx
        have hclient : ∀ k : Client, k.rules p isMCCMode = [] := fun k => if_pos (Or.inl htx)
        simp only [hnone, range_zero, sum_empty, hclient, sum_const_zero, Multiset.coe_nil]

lemma Heard.of_proper (h : event.Proper a) : Heard p a event (a.1.handle event, event.exec p a.2) :=
  ⟨rfl, rfl, h⟩

/-- One client comes and leaves, and another one comes, saves power and recovers. -/
theorem rules_follow_two : ∃ es a, Run (fun a event b => Heard twoTx a event b ∧
      event.KeepsFlags a.2) (start Unit false) es a ∧
    a.2.rules.entries ≠ 0 ∧ RulesFollow twoTx a := by
  have hr : Run (fun a event b => Heard twoTx a event b ∧ event.KeepsFlags a.2) (start Unit false)
      [.clientAdd 0 (some 2) fun _ => 8, .clientDel 2, .clientAdd 0 (some 1) fun _ => 7,
        .ipAddrAdd 1 (.v4 0xC0A80102) fun _ => 0, .clientPowerSave 1,
        .clientRecover 1 fun _ => 0] _ :=
    .cons ⟨.of_proper ⟨by decide, by decide, 2, rfl, by decide⟩, trivial⟩
      (.cons ⟨.of_proper trivial,
          fun i _ j _ hj => absurd hj (Nat.not_lt.mpr (Nat.le_add_left 1 j))⟩
        (.cons ⟨.of_proper ⟨by decide, by decide, 1, rfl, by decide⟩, trivial⟩
          (.cons ⟨.of_proper trivial, trivial⟩ (.cons ⟨.of_proper trivial, trivial⟩
            (.cons ⟨.of_proper trivial, trivial⟩ (.nil _))))))
  exact ⟨_, _, hr, by decide, rules_follow hr⟩

/-- **The rule in the table of the LAN names no header.** -/
theorem lan_rule_names_no_header : ∃ es a, Run (Heard twoTx) (start Unit false) es a ∧
    (∀ mac ∈ a.1.attached, ∀ fam, (a.1.client mac).hdrHdl fam = 7) ∧
    ∃ e ∈ a.2.rules.entries, e.2.hdrHdl ≠ 7 := by
  have hr : Run (Heard twoTx) (start Unit false)
      [.clientAdd 0 (some 1) fun _ => 7, .ipAddrAdd 1 (.v6 (0xFE800000, 0, 0, 1)) fun _ => 0] _ :=
    .cons (.of_proper ⟨by decide, by decide, 1, rfl, by decide⟩)
      (.cons (.of_proper trivial) (.nil _))
  refine ⟨_, _, hr, fun mac hmac fam => ?_, (1, ⟨.lanV6, 5, none, .v6 (0xFE800000, 0, 0, 1), 0,
    true⟩), by decide, by decide⟩
  obtain rfl : mac = 1 := by simpa [Net.handle, Net.change, start, Net.init] using hmac
  rfl

/-- A client that is not in power save mode has no rule when it takes the place of one that is. -/
example : ∃ es a, Run (Heard twoTx) (start Unit false) es a ∧ ¬ RulesFollow twoTx a := by
  have hr : Run (Heard twoTx) (start Unit false)
      [.clientAdd 0 (some 1) fun _ => 7, .clientAdd 1 (some 2) fun _ => 8, .clientPowerSave 1,
        .clientDel 1, .ipAddrAdd 2 (.v4 0xC0A80102) fun _ => 0] _ :=
    .cons (.of_proper ⟨by decide, by decide, 1, rfl, by decide⟩)
      (.cons (.of_proper ⟨by decide, by decide, 2, rfl, by decide⟩) (.cons (.of_proper trivial)
        (.cons (.of_proper trivial) (.cons (.of_proper trivial) (.nil _)))))
  refine ⟨_, _, hr, fun hfollow => ?_⟩
  have hcard := congrArg Multiset.card hfollow.rules
  revert hcard
  decide

end Ipacm.WlanRules
