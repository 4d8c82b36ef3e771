import OcnDevice.Ipacm.WlanRules.Books

/-!
# Clients as the events tell of them

What rules should be installed follows from the events alone: a `Client` has the addresses that the
events told of it, its headers, and whether it is in power save mode, and a `Net` says which clients
there are.  They are known by their MAC addresses, and nothing is kept in an array.

A record `Matches` such a client if it has the same addresses, headers and flag, and counts the
rules that the client should have.  The functions for a client keep this, each for the change that
its event makes to the client (`Matches.learn`, `Matches.recover`).
-/

namespace Ipacm.WlanRules

open HandleTable Finset IfaceProps

/-! ## What the events tell -/

/-- A client. -/
structure Client where
  mac : Mac
  v4 : Option UInt32
  v6 : List V6Addr
  hdrHdl : IpType → ℕ
  saving : Bool

/-- A new address of a client.  There is one IPv4 address, and a limited number of others. -/
def Client.learn (k : Client) (ipv6Prefix : UInt32 × UInt32) : DstAddr → Client
  | .v4 addr => if addr = 0 then k else { k with v4 := some addr }
  | .v6 addr =>
      if addr = (0, 0, 0, 0) ∨ prefixOk ipv6Prefix addr = false ∨ ipv6NumAddr ≤ k.v6.length ∨
        addr ∈ k.v6 then k
      else { k with v6 := k.v6 ++ [addr] }

/-- The clients that are attached, and what is known of them. -/
structure Net where
  ipv6Prefix : UInt32 × UInt32
  attached : Finset Mac
  client : Mac → Client

namespace Net

/-- There are none. -/
def init : Net := ⟨(0, 0), ∅, fun mac => ⟨mac, none, [], fun _ => 0, false⟩⟩

/-- A client is changed. -/
def change (net : Net) (mac : Mac) (g : Client → Client) : Net :=
  { net with client := Function.update net.client mac (g (net.client mac)) }

/-- What an event tells. -/
def handle (net : Net) : WlanEvent → Net
  | .clientAdd _ none _ => net
  | .clientAdd _ (some mac) hdrHdl =>
      { net with
        attached := insert mac net.attached
        client := Function.update net.client mac ⟨mac, none, [], hdrHdl, false⟩ }
  | .clientDel mac => { net with attached := net.attached.erase mac }
  | .clientPowerSave mac => net.change mac fun k => { k with saving := true }
  | .clientRecover mac _ => net.change mac fun k => { k with saving := false }
  | .ipAddrAdd mac addr _ => net.change mac fun k => k.learn net.ipv6Prefix addr
  | .resetRt => { net with client := fun mac => { net.client mac with v6 := [] } }
  | .newPrefix ipv6Prefix => { net with ipv6Prefix }
  | .mode _ => net
  | .switch _ => net

end Net

variable {A : Type*}

/-- **The rules that a client should have**: none in power save mode, and else one for each IPv4
tx property, and two for each IPv6 tx property and each IPv6 address, of which the one in the
table of the LAN leads to the exception pipe and names no header. -/
def Client.rules (p : IfaceProps A) (isMCCMode : Bool) (k : Client) : List (RtRule A) :=
  if p.hasTxProp = false ∨ k.saving then []
  else
    (k.v4.elim [] fun addr => (p.txOf .v4).map fun j =>
      ⟨.lanV4, p.dstPipe isMCCMode j, some (p.tx j).attrib, .v4 addr, k.hdrHdl .v4, false⟩) ++
    (p.txOf .v6).flatMap fun j => k.v6.flatMap fun addr =>
      [⟨.lanV6, p.excpPipe, none, .v6 addr, 0, true⟩,
        ⟨.wanV6, p.dstPipe isMCCMode j, some (p.tx j).attrib, .v6 addr, k.hdrHdl .v6, true⟩]

/-! ## Records that match -/

/-- **A record tells what the events told**, and counts the rules that the client should have. -/
structure Matches (p : IfaceProps A) (k : Client) (c : WlanClient) : Prop where
  mac : c.mac = k.mac
  v4 : k.v4 = if c.ipv4Set then some c.v4Addr else none
  v6 : k.v6 = (List.range c.ipv6Set).map c.v6Addr
  hdrV4 : p.txOf .v4 ≠ [] → c.hdrHdlV4 = k.hdrHdl .v4
  hdrV6 : p.txOf .v6 ≠ [] → c.hdrHdlV6 = k.hdrHdl .v6
  saving : c.powerSaveSet = k.saving
  ruleV4 : c.routeRuleSetV4 = (c.ipv4Set && !c.powerSaveSet)
  ruleV6 : c.routeRuleSetV6 = if c.powerSaveSet then 0 else c.ipv6Set

variable {p : IfaceProps A} {k : Client} {c d : WlanClient}
  {a : WlanClient × HandleTable (RtRule A)} {isMCCMode : Bool} {pick : RtHdl → ℕ} {addr : DstAddr}
  {q : UInt32 × UInt32}

lemma deleteRules_v4_fst :
    (p.deleteDefaultQosRtrules a .v4).1 = { a.1 with routeRuleSetV4 := false } := by
  simp only [deleteDefaultQosRtrules]
  split_ifs with hset
  · rfl
  · simp [← Bool.eq_false_iff.mpr hset]

lemma deleteRules_v6_fst :
    (p.deleteDefaultQosRtrules a .v6).1 = { a.1 with routeRuleSetV6 := 0 } := rfl

/-- In power save mode no rules are installed. -/
lemma routeRule_saving {fam : IpType} (hsave : a.1.powerSaveSet = true) :
    p.handleWlanClientRouteRule a isMCCMode pick fam = a := by
  cases fam with
  | v4 => exact if_pos (Or.inr hsave)
  | v6 => exact if_pos (Or.inr hsave)

lemma routeRule_v4_fst (htx : p.hasTxProp = true) (hsave : a.1.powerSaveSet = false) : ∃ H,
    (p.handleWlanClientRouteRule a isMCCMode pick .v4).1 = { a.1 with
      wifiRtHdl := H, routeRuleSetV4 := a.1.routeRuleSetV4 || a.1.ipv4Set } := by
  have hgo : ¬ (p.hasTxProp = false ∨ a.1.powerSaveSet = true) := by simp [htx, hsave]
  simp only [handleWlanClientRouteRule, if_neg hgo]
  split_ifs with hset
  · exact ⟨_, by rw [hset.2, Bool.or_true]⟩
  · refine ⟨a.1.wifiRtHdl, ?_⟩
    have hsame : (a.1.routeRuleSetV4 || a.1.ipv4Set) = a.1.routeRuleSetV4 := by
      cases hr : a.1.routeRuleSetV4 <;> simp_all
    rw [hsame]

lemma routeRule_v6_fst (htx : p.hasTxProp = true) (hsave : a.1.powerSaveSet = false) : ∃ H,
    (p.handleWlanClientRouteRule a isMCCMode pick .v6).1 = { a.1 with
      wifiRtHdl := H, routeRuleSetV6 := max a.1.routeRuleSetV6 a.1.ipv6Set } := by
  have hgo : ¬ (p.hasTxProp = false ∨ a.1.powerSaveSet = true) := by simp [htx, hsave]
  simp only [handleWlanClientRouteRule, if_neg hgo]
  split_ifs with hlt
  · exact ⟨_, by rw [max_eq_right hlt.le]⟩
  · exact ⟨a.1.wifiRtHdl, by rw [max_eq_left (not_lt.mp hlt)]⟩

lemma routeRule_v4_ite (htx : p.hasTxProp = true) (hsave : a.1.powerSaveSet = false)
    (isMCCMode : Bool) (pick : RtHdl → ℕ) : ∃ H,
    (if a.1.ipv4Set then p.handleWlanClientRouteRule a isMCCMode pick .v4 else a).1 = { a.1 with
      wifiRtHdl := H, routeRuleSetV4 := a.1.routeRuleSetV4 || a.1.ipv4Set } := by
  split_ifs with hset
  · exact routeRule_v4_fst htx hsave
  · refine ⟨a.1.wifiRtHdl, ?_⟩
    rw [Bool.eq_false_iff.mpr hset, Bool.or_false]

lemma routeRule_v6_ite (htx : p.hasTxProp = true) (hsave : a.1.powerSaveSet = false)
    (isMCCMode : Bool) (pick : RtHdl → ℕ) : ∃ H,
    (if a.1.ipv6Set ≠ 0 then p.handleWlanClientRouteRule a isMCCMode pick .v6 else a).1 = { a.1 with
      wifiRtHdl := H, routeRuleSetV6 := max a.1.routeRuleSetV6 a.1.ipv6Set } := by
  split_ifs with hset
  · exact routeRule_v6_fst htx hsave
  · refine ⟨a.1.wifiRtHdl, ?_⟩
    rw [not_not.mp hset, Nat.max_zero]

/-- A record with a new IPv4 address has no IPv4 rules. -/
lemma handleIpaddrV4_fst {t : HandleTable (RtRule A)} {addr : UInt32}
    {b : WlanClient × HandleTable (RtRule A)} (h : Matches p k c)
    (hb : p.handleIpaddrV4 (c, t) addr = some b) :
    addr ≠ 0 ∧ b.1 = { c with v4Addr := addr, ipv4Set := true, routeRuleSetV4 := false } := by
  rw [handleIpaddrV4] at hb
  split_ifs at hb with h0 hset hsame
  · cases hb
    have hno : c.routeRuleSetV4 = false := by
      rw [h.ruleV4, hset, Bool.false_and]
    exact ⟨h0, by rw [← hno]⟩
  · cases hb
    have hyes : c.ipv4Set = true := by simpa using hset
    refine ⟨h0, ?_⟩
    rw [deleteRules_v4_fst, ← hyes]

/-- An IPv6 address is put behind the others, if there is room and it is not among them. -/
lemma handleIpaddrV6_eq {t : HandleTable (RtRule A)} {addr : V6Addr} (h : Matches p k c) :
    handleIpaddrV6 (c, t) q addr =
      if addr = (0, 0, 0, 0) ∨ prefixOk q addr = false ∨ ipv6NumAddr ≤ k.v6.length ∨
        addr ∈ k.v6 then none
      else some ({ c with
        v6Addr := Function.update c.v6Addr c.ipv6Set addr
        ipv6Set := c.ipv6Set + 1 }, t) := by
  have hlen : k.v6.length = c.ipv6Set := by simp [h.v6]
  have hany : ((List.range c.ipv6Set).any fun num => addr = c.v6Addr num) = true ↔ addr ∈ k.v6 := by
    rw [h.v6, List.any_eq_true, List.mem_map]
    exact exists_congr fun num => and_congr_right fun _ => by rw [decide_eq_true_eq, eq_comm]
  rw [handleIpaddrV6, hlen]
  by_cases h0 : addr = (0, 0, 0, 0)
  · rw [if_pos h0, if_pos (Or.inl h0)]
  by_cases hpre : prefixOk q addr = false
  · rw [if_neg h0, if_pos hpre, if_pos (Or.inr (Or.inl hpre))]
  by_cases hroom : c.ipv6Set < ipv6NumAddr
  · rw [if_neg h0, if_neg hpre, if_pos hroom]
    refine if_congr ?_ rfl rfl
    rw [hany]
    simp [h0, hpre, hroom]
  · rw [if_neg h0, if_neg hpre, if_neg hroom,
      if_pos (Or.inr (Or.inr (Or.inl (not_lt.mp hroom))))]

namespace Matches

/-- Power save mode. -/
lemma pwrsave (h : Matches p k c) {t : HandleTable (RtRule A)} :
    Matches p { k with saving := true } (p.handleWlanClientPwrsave (c, t)).1 := by
  rw [handleWlanClientPwrsave]
  split_ifs with hsave
  · exact ⟨h.mac, h.v4, h.v6, h.hdrV4, h.hdrV6, hsave, h.ruleV4, h.ruleV6⟩
  · simp only [deleteRules_v6_fst, deleteRules_v4_fst]
    exact ⟨h.mac, h.v4, h.v6, h.hdrV4, h.hdrV6, rfl, by simp, by simp⟩

/-- The end of power save mode, where the rules of all addresses are installed. -/
lemma recover (h : Matches p k c) (htx : p.hasTxProp = true) {t : HandleTable (RtRule A)} :
    Matches p { k with saving := false } (p.recover (c, t) isMCCMode pick).1 := by
  rw [IfaceProps.recover]
  by_cases hsave : c.powerSaveSet = true
  · rw [if_pos hsave]
    have h4 : c.routeRuleSetV4 = false := by simp [h.ruleV4, hsave]
    have h6 : c.routeRuleSetV6 = 0 := by simp [h.ruleV6, hsave]
    obtain ⟨H, hb⟩ := routeRule_v4_ite (p := p) (a := ({ c with powerSaveSet := false }, t))
      htx rfl isMCCMode pick
    obtain ⟨H', hb'⟩ := routeRule_v6_ite (p := p) (a := if c.ipv4Set then
        p.handleWlanClientRouteRule ({ c with powerSaveSet := false }, t) isMCCMode pick .v4
      else ({ c with powerSaveSet := false }, t)) htx (by rw [hb]) isMCCMode pick
    simp only at hb' ⊢
    rw [hb', hb]
    exact ⟨h.mac, h.v4, h.v6, h.hdrV4, h.hdrV6, rfl, by simp [h4], by simp [h6]⟩
  · rw [if_neg hsave]
    exact ⟨h.mac, h.v4, h.v6, h.hdrV4, h.hdrV6, by simpa using hsave, h.ruleV4, h.ruleV6⟩

/-- A new IPv4 address. -/
lemma learn_v4 (h : Matches p k c) (htx : p.hasTxProp = true) {addr : UInt32}
    {t : HandleTable (RtRule A)} :
    Matches p (k.learn q (.v4 addr)) (p.ipAddrAdd (c, t) isMCCMode pick q (.v4 addr)).1 := by
  rw [ipAddrAdd, Client.learn]
  cases hb : p.handleIpaddrV4 (c, t) addr with
  | none =>
      -- there is no address, or it is the one that is known
      split_ifs with h0
      · exact h
      · have hsame : k.v4 = some addr := by
          rw [handleIpaddrV4, if_neg h0] at hb
          rw [h.v4]
          split_ifs at hb with hset heq
          · simp_all
        rw [← hsame]
        exact h
  | some b =>
      obtain ⟨h0, hfst⟩ := handleIpaddrV4_fst h hb
      rw [Option.map_some, Option.getD_some, if_neg h0]
      cases hsave : c.powerSaveSet with
      | true =>
          rw [routeRule_saving (by rw [hfst]; exact hsave), hfst]
          exact ⟨h.mac, rfl, h.v6, h.hdrV4, h.hdrV6, h.saving, by simp [hsave], h.ruleV6⟩
      | false =>
          obtain ⟨H, hr⟩ := routeRule_v4_fst (p := p) (a := b) htx (by rw [hfst]; exact hsave)
          rw [hr, hfst]
          exact ⟨h.mac, rfl, h.v6, h.hdrV4, h.hdrV6, h.saving, by simp [hsave], h.ruleV6⟩

/-- A new IPv6 address. -/
lemma learn_v6 (h : Matches p k c) (htx : p.hasTxProp = true) {addr : V6Addr}
    {t : HandleTable (RtRule A)} :
    Matches p (k.learn q (.v6 addr)) (p.ipAddrAdd (c, t) isMCCMode pick q (.v6 addr)).1 := by
  rw [ipAddrAdd, Client.learn, handleIpaddrV6_eq h]
  split_ifs with hskip
  · exact h
  · rw [Option.map_some, Option.getD_some]
    have hv6 : k.v6 ++ [addr] =
        (List.range (c.ipv6Set + 1)).map (Function.update c.v6Addr c.ipv6Set addr) := by
      rw [List.range_succ, List.map_append, List.map_singleton, Function.update_self, h.v6]
      congr 1
      refine List.map_congr_left fun num hnum => ?_
      rw [Function.update_of_ne (List.mem_range.mp hnum).ne]
    by_cases hsave : c.powerSaveSet = true
    · rw [routeRule_saving hsave]
      exact ⟨h.mac, h.v4, hv6, h.hdrV4, h.hdrV6, h.saving, h.ruleV4, by simp [h.ruleV6, hsave]⟩
    · obtain ⟨H, hr⟩ := routeRule_v6_fst (p := p) (a := ({ c with
        v6Addr := Function.update c.v6Addr c.ipv6Set addr
        ipv6Set := c.ipv6Set + 1 }, t)) htx (Bool.eq_false_iff.mpr hsave)
      rw [hr]
      exact ⟨h.mac, h.v4, hv6, h.hdrV4, h.hdrV6, h.saving, h.ruleV4, by simp [h.ruleV6, hsave]⟩

/-- **A new address.** -/
lemma learn (h : Matches p k c) (htx : p.hasTxProp = true) {t : HandleTable (RtRule A)} :
    Matches p (k.learn q addr) (p.ipAddrAdd (c, t) isMCCMode pick q addr).1 := by
  cases addr with
  | v4 addr => exact h.learn_v4 htx
  | v6 addr => exact h.learn_v6 htx

/-- The IPv6 addresses are forgotten. -/
lemma resetRt (h : Matches p k c) :
    Matches p { k with v6 := [] } { c with routeRuleSetV6 := 0, ipv6Set := 0 } :=
  ⟨h.mac, h.v4, rfl, h.hdrV4, h.hdrV6, h.saving, h.ruleV4, by simp⟩

/-- A record that moves up over one with the same flag. -/
lemma moveUp (h : Matches p k d) (hsave : c.powerSaveSet = d.powerSaveSet) :
    Matches p k (p.moveUp c d) where
  mac := h.mac
  v4 := h.v4
  v6 := by
    rw [h.v6]
    refine List.map_congr_left fun num hnum => ?_
    exact (if_pos (List.mem_range.mp hnum)).symm
  hdrV4 := h.hdrV4
  hdrV6 := h.hdrV6
  saving := hsave.trans h.saving
  ruleV4 := by
    rw [show (p.moveUp c d).powerSaveSet = d.powerSaveSet from hsave]
    exact h.ruleV4
  ruleV6 := by
    rw [show (p.moveUp c d).powerSaveSet = d.powerSaveSet from hsave]
    exact h.ruleV6

/-- **The rules of a record that matches** are those that the client should have. -/
lemma rules (h : Matches p k c) (htx : p.hasTxProp = true) :
    (p.rulesOf (fun _ => isMCCMode) c).map Prod.snd = k.rules p isMCCMode := by
  by_cases hsave : k.saving = true
  · have hoff : c.powerSaveSet = true := h.saving.trans hsave
    rw [Client.rules, if_pos (Or.inr hsave), rulesOf,
      inUse_eq_empty (by simp [h.ruleV4, hoff]) (by simp [h.ruleV6, hoff]), known_empty]
    rfl
  · have hon : c.powerSaveSet = false := h.saving.trans (Bool.eq_false_iff.mpr hsave)
    have h6 : c.routeRuleSetV6 = c.ipv6Set := by simp [h.ruleV6, hon]
    have hall : p.inUse c = ((if c.ipv4Set then p.v4Rules else []) ++
        p.v6Rules 0 c.ipv6Set).toFinset := by
      ext x
      cases hset : c.ipv4Set <;> cases x <;> simp [h.ruleV4, hon, hset, h6]
    have hnodup : ((if c.ipv4Set then p.v4Rules else []) ++ p.v6Rules 0 c.ipv6Set).Nodup := by
      refine List.nodup_append.mpr ⟨?_, nodup_v6Rules, fun x hx y hy heq => ?_⟩
      · split_ifs
        · exact nodup_v4Rules
        · exact List.nodup_nil
      · subst heq
        split_ifs at hx
        · cases x <;> simp at hx hy
        · exact absurd hx List.not_mem_nil
    have hgo : ¬ (p.hasTxProp = false ∨ k.saving = true) := by simp [htx, hsave]
    rw [rulesOf, hall, known_toFinset hnodup, Multiset.map_coe, List.map_map, List.map_append,
      Client.rules, if_neg hgo]
    congr 2
    · rw [h.v4]
      split_ifs
      · rw [v4Rules, List.map_map]
        refine List.map_congr_left fun j hj => ?_
        simp only [Function.comp_apply, rtRule, h.hdrV4 (List.ne_nil_of_mem hj)]
      · rfl
    · rw [v6Rules, List.map_flatMap, h.v6]
      refine List.flatMap_congr fun j hj => ?_
      rw [List.map_flatMap, List.flatMap_map, List.Ico.zero_bot]
      refine List.flatMap_congr fun num _ => ?_
      simp only [List.map_cons, List.map_nil, Function.comp_apply, rtRule,
        h.hdrV6 (List.ne_nil_of_mem hj)]

end Matches

end Ipacm.WlanRules
