import OcnDevice.Ipacm.WlanRules.Model

/-!
# The records account for the rules

The elements of `wifi_rt_hdl` that the counters of a record say are in use (`inUse`) hold the
handles of exactly the rules that the driver has.  Each rule is what
`handle_wlan_client_route_rule` would install for the record as it is, except that it may have
been written in another mode.

`ClientBooks` says this of one client, next to the rules `R` of the others; the functions for a
client keep it, as they install, change or remove the rules of a list of handles.  `Booked` says
it of the interface.
-/

namespace Ipacm.WlanRules

open HandleTable Finset

variable {A : Type*} {p : IfaceProps A} {c c' d : WlanClient} {k num lo hi : ℕ} {x : RtHdl}
  {fam : IpType} {l : List RtHdl} {R : Multiset (ℕ × RtRule A)} {m : RtHdl → Bool}
  {a : WlanClient × HandleTable (RtRule A)} {t : HandleTable (RtRule A)} {isMCCMode : Bool}
  {pick : RtHdl → ℕ} {Q : Bool → Prop}

namespace IfaceProps

/-! ## Lists of handles -/

@[simp] lemma v4_mem_v4Rules : .v4 k ∈ p.v4Rules ↔ k ∈ p.txOf .v4 := by
  simp [v4Rules]

@[simp] lemma v6_notMem_v4Rules : .v6 k num ∉ p.v4Rules := by
  simp [v4Rules]

@[simp] lemma v6Wan_notMem_v4Rules : .v6Wan k num ∉ p.v4Rules := by
  simp [v4Rules]

@[simp] lemma v4_notMem_v6Rules : .v4 k ∉ p.v6Rules lo hi := by
  simp [v6Rules]

@[simp] lemma v6_mem_v6Rules :
    .v6 k num ∈ p.v6Rules lo hi ↔ k ∈ p.txOf .v6 ∧ lo ≤ num ∧ num < hi := by
  simp [v6Rules]

@[simp] lemma v6Wan_mem_v6Rules :
    .v6Wan k num ∈ p.v6Rules lo hi ↔ k ∈ p.txOf .v6 ∧ lo ≤ num ∧ num < hi := by
  simp [v6Rules]

lemma mem_txOf : k ∈ p.txOf fam ↔ k < p.numTxProps ∧ (p.tx k).ip = fam := by
  simp [txOf]

lemma nodup_txOf : (p.txOf fam).Nodup := List.nodup_range.filter _

lemma nodup_v4Rules : p.v4Rules.Nodup :=
  nodup_txOf.map fun _ _ h => RtHdl.v4.inj h

lemma nodup_v6Rules : (p.v6Rules lo hi).Nodup := by
  refine List.nodup_flatMap.mpr ⟨fun k _ => List.nodup_flatMap.mpr ⟨fun num _ => by simp, ?_⟩, ?_⟩
  · refine (List.Ico.nodup lo hi).imp fun {i j} hij x hx hx' => ?_
    simp only [List.mem_cons, List.not_mem_nil, or_false] at hx hx'
    rcases hx with rfl | rfl <;> simp [hij] at hx'
  · refine (nodup_txOf (p := p)).imp fun {i j} hij x hx hx' => ?_
    simp only [List.mem_flatMap, List.mem_cons, List.not_mem_nil, or_false] at hx hx'
    obtain ⟨_, _, rfl | rfl⟩ := hx <;> simp [hij] at hx'

/-- The elements of `wifi_rt_hdl` that are in use. -/
def inUse (p : IfaceProps A) (c : WlanClient) : Finset RtHdl :=
  (if c.routeRuleSetV4 then p.v4Rules.toFinset else ∅) ∪ (p.v6Rules 0 c.routeRuleSetV6).toFinset

@[simp] lemma v4_mem_inUse : .v4 k ∈ p.inUse c ↔ c.routeRuleSetV4 = true ∧ k ∈ p.txOf .v4 := by
  cases h : c.routeRuleSetV4 <;> simp [inUse, h]

@[simp] lemma v6_mem_inUse : .v6 k num ∈ p.inUse c ↔ k ∈ p.txOf .v6 ∧ num < c.routeRuleSetV6 := by
  cases h : c.routeRuleSetV4 <;> simp [inUse, h]

@[simp] lemma v6Wan_mem_inUse :
    .v6Wan k num ∈ p.inUse c ↔ k ∈ p.txOf .v6 ∧ num < c.routeRuleSetV6 := by
  cases h : c.routeRuleSetV4 <;> simp [inUse, h]

lemma inUse_eq_empty (h4 : c.routeRuleSetV4 = false) (h6 : c.routeRuleSetV6 = 0) :
    p.inUse c = ∅ := by
  ext x
  cases x <;> simp [h4, h6]

/-- The rules of a client, each as it is installed in the mode that `m` says. -/
def rulesOf (p : IfaceProps A) (m : RtHdl → Bool) (c : WlanClient) : Multiset (ℕ × RtRule A) :=
  known (p.inUse c) c.wifiRtHdl fun x => p.rtRule (m x) c x

end IfaceProps

/-! ## One client -/

open IfaceProps

/-- The counters of a record do not run ahead of its addresses. -/
structure WlanClient.Sane (c : WlanClient) : Prop where
  v4 : c.routeRuleSetV4 = true → c.ipv4Set = true
  v6 : c.routeRuleSetV6 ≤ c.ipv6Set

/-- **The record of a client accounts for its rules**, and no handle was named in vain. -/
structure ClientBooks (p : IfaceProps A) (R : Multiset (ℕ × RtRule A)) (m : RtHdl → Bool)
    (a : WlanClient × HandleTable (RtRule A)) : Prop where
  sane : a.1.Sane
  misses : a.2.misses = 0
  rules : a.2.entries = R + p.rulesOf m a.1

/-- The same, where all the rules are written in modes that satisfy `Q`. -/
def ClientBooksIn (p : IfaceProps A) (R : Multiset (ℕ × RtRule A)) (Q : Bool → Prop)
    (a : WlanClient × HandleTable (RtRule A)) : Prop :=
  ∃ m, (∀ x, Q (m x)) ∧ ClientBooks p R m a

namespace ClientBooks

/-- The record changes where no rule depends on it. -/
lemma record (h : ClientBooks p R m a) (hsane : c'.Sane) (huse : p.inUse c' = p.inUse a.1)
    (hhdl : ∀ x ∈ p.inUse a.1, c'.wifiRtHdl x = a.1.wifiRtHdl x)
    (hrule : ∀ b, ∀ x ∈ p.inUse a.1, p.rtRule b c' x = p.rtRule b a.1 x) :
    ClientBooks p R m (c', a.2) where
  sane := hsane
  misses := h.misses
  rules := by
    rw [h.rules, rulesOf, rulesOf, huse]
    exact congrArg (R + ·) (known_congr hhdl fun x hx => hrule (m x) x hx).symm

/-- The rules of a list are installed. -/
lemma install (h : ClientBooks p R m a) (hl : l.Nodup) (hfree : ∀ x ∈ l, x ∉ p.inUse a.1)
    (hsane : c'.Sane) (huse : p.inUse c' = p.inUse a.1 ∪ l.toFinset)
    (hhdl : c'.wifiRtHdl =
      (installAll pick (p.rtRule isMCCMode a.1) l a.1.wifiRtHdl a.2).1)
    (hrule : ∀ b, ∀ x, p.rtRule b c' x = p.rtRule b a.1 x) :
    ClientBooks p R (fun x => if x ∈ l then isMCCMode else m x)
      (c', (installAll pick (p.rtRule isMCCMode a.1) l a.1.wifiRtHdl a.2).2) := by
  obtain ⟨hent, -, hmiss⟩ := entries_installAll pick (p.rtRule isMCCMode a.1) h.rules hl hfree
  refine ⟨hsane, hmiss.trans h.misses, ?_⟩
  rw [hent, rulesOf, huse, hhdl]
  refine congrArg (R + ·) (known_congr (fun _ _ => rfl) fun x _ => ?_)
  rw [hrule]
  split_ifs <;> rfl

/-- The rules of a list are removed. -/
lemma remove (h : ClientBooks p R m a) (hl : l.Nodup) (hin : ∀ x ∈ l, x ∈ p.inUse a.1)
    (hsane : c'.Sane) (huse : p.inUse c' = p.inUse a.1 \ l.toFinset)
    (hhdl : c'.wifiRtHdl = a.1.wifiRtHdl)
    (hrule : ∀ b, ∀ x ∈ p.inUse c', p.rtRule b c' x = p.rtRule b a.1 x) :
    ClientBooks p R m (c', removeAll a.1.wifiRtHdl l a.2) := by
  obtain ⟨hent, hmiss⟩ := entries_removeAll h.rules hl hin
  refine ⟨hsane, hmiss.trans h.misses, ?_⟩
  rw [hent, rulesOf, ← huse, hhdl]
  exact congrArg (R + ·) (known_congr (fun _ _ => rfl) fun x hx => (hrule (m x) x hx).symm)

/-- `handle_wlan_client_route_rule` keeps the books. -/
lemma routeRule (h : ClientBooks p R m a) (hm : ∀ x, Q (m x)) (hmode : Q isMCCMode) :
    ClientBooksIn p R Q (p.handleWlanClientRouteRule a isMCCMode pick fam) := by
  have hmodes : ∀ l : List RtHdl, ∀ x, Q (if x ∈ l then isMCCMode else m x) := by
    intro l x
    split_ifs
    · exact hmode
    · exact hm x
  cases fam with
  | v4 =>
      simp only [handleWlanClientRouteRule]
      split_ifs with hskip hset
      · exact ⟨m, hm, h⟩
      · refine ⟨_, hmodes _, h.install nodup_v4Rules (fun x hx => ?_)
          ⟨fun _ => hset.2, h.sane.v6⟩ ?_ rfl fun b x => ?_⟩
        · cases x <;> simp_all
        · ext x
          cases x <;> simp [hset.1]
        · cases x <;> rfl
      · exact ⟨m, hm, h⟩
  | v6 =>
      simp only [handleWlanClientRouteRule]
      split_ifs with hskip hset
      · exact ⟨m, hm, h⟩
      · refine ⟨_, hmodes _, h.install nodup_v6Rules (fun x hx => ?_) ⟨h.sane.v4, le_rfl⟩ ?_ rfl
          fun b x => ?_⟩
        · cases x with
          | v4 k => simp at hx
          | v6 k num => simp_all
          | v6Wan k num => simp_all
        · ext x
          cases x with
          | v4 k => simp
          | v6 k num =>
              simp only [v6_mem_inUse, mem_union, List.mem_toFinset, v6_mem_v6Rules]
              grind
          | v6Wan k num =>
              simp only [v6Wan_mem_inUse, mem_union, List.mem_toFinset, v6Wan_mem_v6Rules]
              grind
        · cases x <;> rfl
      · exact ⟨m, hm, h⟩

/-- `delete_default_qos_rtrules` keeps the books. -/
lemma deleteRules (h : ClientBooks p R m a) (fam : IpType) :
    ClientBooks p R m (p.deleteDefaultQosRtrules a fam) := by
  cases fam with
  | v4 =>
      simp only [deleteDefaultQosRtrules]
      split_ifs with hset
      · refine h.remove nodup_v4Rules (fun x hx => ?_) ⟨fun hf => by simp at hf, h.sane.v6⟩ ?_ rfl
          fun b x _ => ?_
        · cases x <;> simp_all
        · ext x
          cases x <;> simp [hset]
        · cases x <;> rfl
      · exact h
  | v6 =>
      refine h.remove nodup_v6Rules (fun x hx => ?_) ⟨h.sane.v4, Nat.zero_le _⟩ ?_ rfl
        fun b x _ => ?_
      · cases x <;> simp_all
      · ext x
        cases x with
        | v4 k => simp
        | v6 k num => simp +contextual
        | v6Wan k num => simp +contextual
      · cases x <;> rfl

/-- `handle_wlan_client_pwrsave` keeps the books. -/
lemma pwrsave (h : ClientBooks p R m a) : ClientBooks p R m (p.handleWlanClientPwrsave a) := by
  rw [handleWlanClientPwrsave]
  split_ifs with hsave
  · exact h
  · have hdel := (h.deleteRules .v4).deleteRules .v6
    exact hdel.record ⟨hdel.sane.v4, hdel.sane.v6⟩ rfl (fun _ _ => rfl) fun b x _ => by
      cases x <;> rfl

/-- An IPv4 address keeps the books. -/
lemma ipaddrV4 {addr : UInt32} {b : WlanClient × HandleTable (RtRule A)}
    (h : ClientBooks p R m a) (hb : p.handleIpaddrV4 a addr = some b) : ClientBooks p R m b := by
  rw [handleIpaddrV4] at hb
  split_ifs at hb with h0 hset hsame
  · cases hb
    -- without an address there was no rule that could name it
    have hno : a.1.routeRuleSetV4 = false := by
      cases h4 : a.1.routeRuleSetV4 with
      | false => rfl
      | true => simp [h.sane.v4 h4] at hset
    refine h.record ⟨fun _ => rfl, h.sane.v6⟩ rfl (fun _ _ => rfl) fun b x hx => ?_
    cases x with
    | v4 k => simp [hno] at hx
    | v6 k num => rfl
    | v6Wan k num => rfl
  · cases hb
    have hdel := h.deleteRules .v4
    have hno : (p.deleteDefaultQosRtrules a .v4).1.routeRuleSetV4 = false := by
      simp only [deleteDefaultQosRtrules]
      split_ifs with h4
      · rfl
      · simpa using h4
    refine hdel.record ⟨fun hf => by simp at hf, hdel.sane.v6⟩ ?_ (fun _ _ => rfl) fun b x hx => ?_
    · simp only [inUse, hno]
    · cases x with
      | v4 k => simp [hno] at hx
      | v6 k num => rfl
      | v6Wan k num => rfl

/-- An IPv6 address keeps the books: it is put behind those that have rules. -/
lemma ipaddrV6 {q : UInt32 × UInt32} {addr : V6Addr} {b : WlanClient × HandleTable (RtRule A)}
    (h : ClientBooks p R m a) (hb : handleIpaddrV6 a q addr = some b) : ClientBooks p R m b := by
  rw [handleIpaddrV6] at hb
  split_ifs at hb with h0 hpre hroom hseen
  cases hb
  have hkeep : ∀ num < a.1.routeRuleSetV6,
      Function.update a.1.v6Addr a.1.ipv6Set addr num = a.1.v6Addr num := by
    intro num hnum
    have hle := h.sane.v6
    exact Function.update_of_ne (by omega) _ _
  refine h.record ⟨h.sane.v4, h.sane.v6.trans (Nat.le_succ _)⟩ rfl (fun _ _ => rfl) fun b x hx => ?_
  cases x with
  | v4 k => rfl
  | v6 k num => simp only [rtRule, hkeep num (v6_mem_inUse.mp hx).2]
  | v6Wan k num => simp only [rtRule, hkeep num (v6Wan_mem_inUse.mp hx).2]

/-- `handle_wlan_client_reset_rt` keeps the books. -/
lemma resetRt (h : ClientBooks p R m a) :
    ClientBooks p R m ({ (p.deleteDefaultQosRtrules a .v6).1 with ipv6Set := 0 },
      (p.deleteDefaultQosRtrules a .v6).2) := by
  have hdel := h.deleteRules .v6
  exact hdel.record ⟨hdel.sane.v4, le_rfl⟩ rfl (fun _ _ => rfl) fun b x _ => by cases x <;> rfl

end ClientBooks

namespace ClientBooksIn

lemma routeRule (h : ClientBooksIn p R Q a) (hmode : Q isMCCMode) :
    ClientBooksIn p R Q (p.handleWlanClientRouteRule a isMCCMode pick fam) :=
  let ⟨_, hm, hbooks⟩ := h
  hbooks.routeRule hm hmode

lemma routeRule_ite (h : ClientBooksIn p R Q a) (hmode : Q isMCCMode) (q : Prop) [Decidable q] :
    ClientBooksIn p R Q
      (if q then p.handleWlanClientRouteRule a isMCCMode pick fam else a) := by
  split_ifs
  · exact h.routeRule hmode
  · exact h

/-- A client that comes out of power save mode keeps the books. -/
lemma recover (h : ClientBooksIn p R Q a) (hmode : Q isMCCMode) :
    ClientBooksIn p R Q (p.recover a isMCCMode pick) := by
  obtain ⟨m, hm, hbooks⟩ := h
  rw [IfaceProps.recover]
  by_cases hsave : a.1.powerSaveSet = true
  · rw [if_pos hsave]
    have hoff : ClientBooksIn p R Q ({ a.1 with powerSaveSet := false }, a.2) :=
      ⟨m, hm, hbooks.record ⟨hbooks.sane.v4, hbooks.sane.v6⟩ rfl (fun _ _ => rfl)
        fun b x _ => by cases x <;> rfl⟩
    exact (hoff.routeRule_ite hmode (a.1.ipv4Set = true)).routeRule_ite hmode _
  · rw [if_neg hsave]
    exact ⟨m, hm, hbooks⟩

/-- A new address keeps the books. -/
lemma ipAddrAdd {q : UInt32 × UInt32} {addr : DstAddr} (h : ClientBooksIn p R Q a)
    (hmode : Q isMCCMode) : ClientBooksIn p R Q (p.ipAddrAdd a isMCCMode pick q addr) := by
  obtain ⟨m, hm, hbooks⟩ := h
  cases addr with
  | v4 addr =>
      rw [IfaceProps.ipAddrAdd]
      cases hb : p.handleIpaddrV4 a addr with
      | none => exact ⟨m, hm, hbooks⟩
      | some b =>
          rw [Option.map_some, Option.getD_some]
          exact (hbooks.ipaddrV4 hb).routeRule hm hmode
  | v6 addr =>
      rw [IfaceProps.ipAddrAdd]
      cases hb : handleIpaddrV6 a q addr with
      | none => exact ⟨m, hm, hbooks⟩
      | some b =>
          rw [Option.map_some, Option.getD_some]
          exact (hbooks.ipaddrV6 hb).routeRule hm hmode

end ClientBooksIn

/-! ## The interface -/

section OnClient

variable {s : WlanIface A} {i j : ℕ}
  {f : WlanClient × HandleTable (RtRule A) → WlanClient × HandleTable (RtRule A)}

@[simp] lemma WlanIface.onClient_self :
    (s.onClient i f).wlanClient i = (f (s.wlanClient i, s.rules)).1 :=
  Function.update_self _ _ _

@[simp] lemma WlanIface.onClient_of_ne (hne : j ≠ i) :
    (s.onClient i f).wlanClient j = s.wlanClient j :=
  Function.update_of_ne hne _ _

/-- The record behind a client that leaves is the one that was there, or the one behind it. -/
lemma WlanIface.detach_client (hj : j < s.numWifiClient - 1) : (s.detach p i).wlanClient j =
    if j < i then s.wlanClient j else p.moveUp (s.wlanClient j) (s.wlanClient (j + 1)) := by
  simp only [WlanIface.detach]
  rw [shiftDown_apply]
  split_ifs <;> first | rfl | omega

end OnClient

/-- **The records of an interface account for its rules**: `m i` says in which mode each rule of the
client `i` was written. -/
structure Booked (p : IfaceProps A) (m : ℕ → RtHdl → Bool) (s : WlanIface A) : Prop where
  hasTx : 0 < s.numWifiClient → p.hasTxProp = true
  sane : ∀ i < s.numWifiClient, (s.wlanClient i).Sane
  misses : s.rules.misses = 0
  rules : s.rules.entries = ∑ i ∈ range s.numWifiClient, p.rulesOf (m i) (s.wlanClient i)

namespace Booked

variable {s : WlanIface A} {m : ℕ → RtHdl → Bool} {m' : RtHdl → Bool} {mac : Mac} {i : ℕ}
  {f : WlanClient × HandleTable (RtRule A) → WlanClient × HandleTable (RtRule A)}

lemma init : Booked p m (.init A) :=
  ⟨fun h => absurd h (lt_irrefl 0), fun _ hi => absurd hi (Nat.not_lt_zero _), rfl, rfl⟩

/-- The rules of the other clients. -/
def others (p : IfaceProps A) (m : ℕ → RtHdl → Bool) (s : WlanIface A) (i : ℕ) :
    Multiset (ℕ × RtRule A) :=
  ∑ j ∈ (range s.numWifiClient).erase i, p.rulesOf (m j) (s.wlanClient j)

/-- The books of one client. -/
lemma client (h : Booked p m s) (hi : i < s.numWifiClient) :
    ClientBooks p (others p m s i) (m i) (s.wlanClient i, s.rules) where
  sane := h.sane i hi
  misses := h.misses
  rules := by rw [h.rules, others, sum_erase_add _ _ (mem_range.mpr hi)]

/-- **A client is changed**, and keeps its books. -/
lemma onClient (h : Booked p m s) (hi : i < s.numWifiClient)
    (hf : ClientBooks p (others p m s i) m' (f (s.wlanClient i, s.rules))) :
    Booked p (Function.update m i m') (s.onClient i f) where
  hasTx := h.hasTx
  sane := by
    intro j hj
    rcases eq_or_ne j i with rfl | hne
    · rw [WlanIface.onClient_self]
      exact hf.sane
    · rw [WlanIface.onClient_of_ne hne]
      exact h.sane j hj
  misses := hf.misses
  rules := by
    show (f (s.wlanClient i, s.rules)).2.entries = ∑ j ∈ range s.numWifiClient, _
    rw [hf.rules, ← sum_erase_add _ _ (mem_range.mpr hi), Function.update_self,
      WlanIface.onClient_self, others]
    congr 1
    refine sum_congr rfl fun j hj => ?_
    rw [Function.update_of_ne (ne_of_mem_erase hj), WlanIface.onClient_of_ne (ne_of_mem_erase hj)]

/-- A client that is added has no rules yet. -/
lemma attach (h : Booked p m s) (htx : p.hasTxProp = true) (h4 : c.routeRuleSetV4 = false)
    (h6 : c.routeRuleSetV6 = 0) :
    Booked p m { s with
      numWifiClient := s.numWifiClient + 1
      wlanClient := Function.update s.wlanClient s.numWifiClient c } where
  hasTx := fun _ => htx
  sane := by
    intro i hi
    simp only
    rcases Nat.lt_succ_iff_lt_or_eq.mp hi with hi | rfl
    · rw [Function.update_of_ne hi.ne]
      exact h.sane i hi
    · rw [Function.update_self]
      exact ⟨fun hf => by simp [h4] at hf, h6 ▸ Nat.zero_le _⟩
  misses := h.misses
  rules := by
    simp only
    rw [sum_range_succ, Function.update_self, rulesOf, inUse_eq_empty h4 h6, known_empty, add_zero,
      h.rules]
    refine sum_congr rfl fun i hi => ?_
    rw [Function.update_of_ne (mem_range.mp hi).ne]

lemma initEx (h : Booked p m s) {total : ℕ} {attrib : Option Mac} {hdrHdl : IpType → ℕ} :
    Booked p m (s.handleWlanClientInitEx p total attrib hdrHdl) := by
  rw [WlanIface.handleWlanClientInitEx]
  by_cases hroom : s.numWifiClient ≥ ipaMaxNumWifiClients ∨ total ≥ ipaMaxNumWifiClients
  · rw [if_pos hroom]
    exact h
  · rw [if_neg hroom]
    by_cases htx : p.hasTxProp = false
    · rw [if_pos htx]
      exact h
    · rw [if_neg htx]
      exact h.attach (by simpa using htx) rfl rfl

/-- A record that moves up takes its rules along. -/
lemma rulesOf_moveUp (hd : d.Sane) : p.rulesOf m' (p.moveUp c d) = p.rulesOf m' d := by
  refine known_congr (fun x hx => ?_) fun x hx => ?_
  · replace hx : x ∈ p.inUse d := hx
    cases x with
    | v4 k => exact if_pos (mem_txOf.mp (v4_mem_inUse.mp hx).2).1
    | v6 k num =>
        obtain ⟨hk, hnum⟩ := v6_mem_inUse.mp hx
        exact if_pos ⟨(mem_txOf.mp hk).1, hnum⟩
    | v6Wan k num =>
        obtain ⟨hk, hnum⟩ := v6Wan_mem_inUse.mp hx
        exact if_pos ⟨(mem_txOf.mp hk).1, hnum⟩
  · replace hx : x ∈ p.inUse d := hx
    cases x with
    | v4 k => rfl
    | v6 k num => simp only [rtRule, moveUp, if_pos ((v6_mem_inUse.mp hx).2.trans_le hd.v6)]
    | v6Wan k num => simp only [rtRule, moveUp, if_pos ((v6Wan_mem_inUse.mp hx).2.trans_le hd.v6)]

/-- The client that the records behind it move over has no rules left. -/
lemma detach (h : Booked p m s) (hi : i < s.numWifiClient)
    (hno : p.inUse (s.wlanClient i) = ∅) :
    Booked p (fun j => m (if j < i then j else j + 1)) (s.detach p i) := by
  refine ⟨fun _ => h.hasTx (Nat.zero_lt_of_lt hi), fun j hj => ?_, h.misses, ?_⟩
  · replace hj : j < s.numWifiClient - 1 := hj
    rw [WlanIface.detach_client hj]
    split_ifs
    · exact h.sane j (by omega)
    · have hs := h.sane (j + 1) (by omega)
      exact ⟨hs.v4, hs.v6⟩
  · show s.rules.entries = ∑ j ∈ range (s.numWifiClient - 1), _
    rw [h.rules, sum_range_remove hi, rulesOf, hno, known_empty, add_zero]
    refine sum_congr rfl fun j hj => ?_
    rw [WlanIface.detach_client (mem_range.mp hj)]
    have hlt := mem_range.mp hj
    split_ifs
    · rfl
    · exact (rulesOf_moveUp (h.sane (j + 1) (by omega))).symm

/-- The rules of a client are all deleted. -/
lemma clear (h : Booked p m s) (hi : i < s.numWifiClient) :
    Booked p (Function.update m i (m i)) (s.clear p i) := by
  refine h.onClient hi ?_
  have hdel := ((h.client hi).deleteRules .v4).deleteRules .v6
  have h4 : (p.deleteDefaultQosRtrules (p.deleteDefaultQosRtrules (s.wlanClient i, s.rules) .v4)
      .v6).1.routeRuleSetV4 = false := by
    simp only [deleteDefaultQosRtrules]
    split_ifs with h4
    · rfl
    · simpa using h4
  refine hdel.record ⟨fun hf => by simp at hf, le_rfl⟩ ?_ (fun _ _ => rfl)
    fun b x _ => by cases x <;> rfl
  rw [inUse_eq_empty rfl rfl, inUse_eq_empty h4 rfl]

end Booked

/-- The records account for the rules, which are all written in modes that satisfy `Q`. -/
def BookedIn (p : IfaceProps A) (Q : Bool → Prop) (s : WlanIface A) : Prop :=
  ∃ m : ℕ → RtHdl → Bool, (∀ i x, Q (m i x)) ∧ Booked p m s

namespace BookedIn

variable {s : WlanIface A} {mac : Mac} {i : ℕ}
  {f : WlanClient × HandleTable (RtRule A) → WlanClient × HandleTable (RtRule A)}

lemma onClient (h : BookedIn p Q s) (hi : i < s.numWifiClient)
    (hf : ∀ R, ClientBooksIn p R Q (s.wlanClient i, s.rules) →
      ClientBooksIn p R Q (f (s.wlanClient i, s.rules))) : BookedIn p Q (s.onClient i f) := by
  obtain ⟨m, hm, hbooked⟩ := h
  obtain ⟨m', hm', hclient⟩ := hf _ ⟨m i, hm i, hbooked.client hi⟩
  refine ⟨_, fun j x => ?_, hbooked.onClient hi hclient⟩
  rcases eq_or_ne j i with rfl | hne
  · rw [Function.update_self]
    exact hm' x
  · rw [Function.update_of_ne hne]
    exact hm j x

lemma onMac (h : BookedIn p Q s)
    (hf : ∀ R a, ClientBooksIn p R Q a → ClientBooksIn p R Q (f a)) :
    BookedIn p Q (s.onMac mac f) := by
  rw [WlanIface.onMac]
  cases hidx : s.getWlanClientIndex mac with
  | none => exact h
  | some i => exact h.onClient (firstIdx_eq_some.mp hidx).1 fun R => hf R _

/-- `handle_wlan_client_down_evt` keeps the books. -/
lemma downEvt (h : BookedIn p Q s) : BookedIn p Q (s.handleWlanClientDownEvt p mac) := by
  obtain ⟨m, hm, hbooked⟩ := h
  rw [WlanIface.handleWlanClientDownEvt]
  cases hidx : s.getWlanClientIndex mac with
  | none => exact ⟨m, hm, hbooked⟩
  | some i =>
      have hi := (firstIdx_eq_some.mp hidx).1
      have hclear := hbooked.clear hi
      rw [Function.update_eq_self] at hclear
      refine ⟨_, fun j x => hm _ x, hclear.detach hi ?_⟩
      rw [WlanIface.clear, WlanIface.onClient_self]
      exact inUse_eq_empty rfl rfl

/-- `handle_wlan_client_reset_rt` keeps the books. -/
lemma resetRt (h : BookedIn p Q s) : BookedIn p Q (s.handleWlanClientResetRt p) := by
  refine (forUpTo_preserves
    (P := fun t => t.numWifiClient = s.numWifiClient ∧ BookedIn p Q t) ⟨rfl, h⟩ ?_).2
  rintro i t hi ⟨hnum, ht⟩
  refine ⟨hnum, ht.onClient (hnum ▸ hi) fun R ha => ?_⟩
  obtain ⟨m, hm, hbooks⟩ := ha
  exact ⟨m, hm, hbooks.resetRt⟩

end BookedIn

end Ipacm.WlanRules
