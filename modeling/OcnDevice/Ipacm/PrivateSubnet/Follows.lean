import OcnDevice.Ipacm.PrivateSubnet.Model

/-!
# Private subnets follow the interfaces

The table should hold the subnets of the interfaces that have an IPv4 address, each once, and when no
change event waits the rules of such an interface should be those for the table.  `AddPrivateSubnet`
looks for the subnet before it adds it, but `DelPrivateSubnet` does not know whether another interface
has the same one, so this holds as long as no interface goes down while another one has its subnet.

The rules need not be right while events wait.  An interface whose rules are not those for the table
has an event of another interface before it (`SubnetSys.Ok.rules`), and the change that it made itself
it has seen already.
-/

namespace Ipacm

open Finset

/-! ## The table -/

/-- **The table holds the set**, each subnet once and with the mask of a /24. -/
structure PrivateSubnetTable.Holds (c : PrivateSubnetTable) (S : Finset (BitVec 32)) : Prop where
  nodup : c.subnets.Nodup
  mem : ∀ a, a ∈ c.subnets ↔ a ∈ S
  mask : ∀ k < c.num, c.subnetMask k = mask24

namespace PrivateSubnetTable

variable {c : PrivateSubnetTable} {S : Finset (BitVec 32)} {a : BitVec 32} {cnt : ℕ}

lemma mem_subnets : a ∈ c.subnets ↔ ∃ k < c.num, c.subnetAddr k = a := by
  simp [subnets]

@[simp] lemma length_subnets : c.subnets.length = c.num := by simp [subnets]

lemma find_none : c.find a = none ↔ a ∉ c.subnets := by
  rw [find, firstIdx_eq_none, mem_subnets]
  simp

lemma find_some (h : c.find a = some cnt) : cnt < c.num ∧ c.subnetAddr cnt = a := by
  obtain ⟨hlt, heq, -⟩ := firstIdx_eq_some.mp h
  exact ⟨hlt, by simpa using heq⟩

/-- The number of entries is the number of subnets. -/
lemma Holds.num_eq (H : c.Holds S) : c.num = S.card := by
  have hS : c.subnets.toFinset = S := by
    ext b
    rw [List.mem_toFinset, H.mem]
  rw [← hS, List.toFinset_card_of_nodup H.nodup, length_subnets]

/-- **A subnet is added** unless it is there. -/
lemma Holds.add (H : c.Holds S) (hroom : a ∉ S → S.card < ipaMaxPrivateSubnetEntries) :
    (c.addPrivateSubnet a).1.Holds (insert a S) ∧
      ((c.addPrivateSubnet a).2 = false → (c.addPrivateSubnet a).1 = c) := by
  rw [addPrivateSubnet]
  cases hf : c.find a with
  | some cnt =>
      have hmem : a ∈ S := by
        rw [← H.mem]
        by_contra hno
        rw [find_none.mpr hno] at hf
        exact absurd hf (by simp)
      exact ⟨by rwa [insert_eq_of_mem hmem], fun _ => rfl⟩
  | none =>
      have hno := find_none.mp hf
      simp only
      rw [if_pos (H.num_eq ▸ hroom (fun h => hno ((H.mem a).mpr h)))]
      have hsub : subnets { subnetAddr := Function.update c.subnetAddr c.num a
                            subnetMask := Function.update c.subnetMask c.num mask24
                            num := c.num + 1 } = c.subnets ++ [a] := by
        simp only [subnets, List.range_succ, List.map_append, List.map_cons, List.map_nil,
          Function.update_self]
        congr 1
        refine List.map_congr_left fun k hk => ?_
        rw [Function.update_of_ne (List.mem_range.mp hk).ne]
      refine ⟨⟨?_, fun b => ?_, fun k hk => ?_⟩, by simp⟩
      · rw [hsub]
        refine List.nodup_append.mpr ⟨H.nodup, by simp, fun b hb b' hb' => ?_⟩
        rw [List.mem_singleton.mp hb']
        rintro rfl
        exact hno hb
      · rw [hsub, List.mem_append, List.mem_singleton, H.mem, mem_insert, or_comm]
      · by_cases hkn : k = c.num
        · simp [hkn]
        · simp only [ne_eq, hkn, not_false_eq_true, Function.update_of_ne] at hk ⊢
          exact H.mask k (by omega)

/-- The entries behind the gap move up by one. -/
lemma closeGap_apply (h : cnt < c.num) (j : ℕ) : c.closeGap cnt j =
    if cnt ≤ j ∧ j < c.num - 1 then c.subnetAddr (j + 1) else c.subnetAddr j := by
  have hgo := forUpTo_invariant (n := c.num - 1 - cnt)
    (f := fun i a => Function.update a (cnt + i) (a (cnt + i + 1))) (s := c.subnetAddr)
    (P := fun i t => ∀ j, t j =
      if cnt ≤ j ∧ j < cnt + i then c.subnetAddr (j + 1) else c.subnetAddr j)
    (fun j => by rw [if_neg (by omega)]) (by
      intro i t _ ht j
      by_cases hj : j = cnt + i
      · subst hj
        rw [Function.update_self, ht, if_neg (by omega), if_pos (by omega)]
      · rw [Function.update_of_ne hj, ht]
        by_cases hlt : cnt ≤ j ∧ j < cnt + i
        · rw [if_pos hlt, if_pos (by omega)]
        · rw [if_neg hlt, if_neg (by omega)])
  have hend : cnt + (c.num - 1 - cnt) = c.num - 1 := by omega
  rw [hend] at hgo
  exact hgo j

/-- **A subnet is taken out** if it is there. -/
lemma Holds.del (H : c.Holds S) (ha : a ∈ S) :
    (c.delPrivateSubnet a).1.Holds (S.erase a) ∧ (c.delPrivateSubnet a).2 = true := by
  obtain ⟨cnt, hf⟩ : ∃ cnt, c.find a = some cnt := by
    rw [← Option.ne_none_iff_exists', ne_eq, find_none, not_not, H.mem]
    exact ha
  obtain ⟨hlt, heq⟩ := find_some hf
  rw [delPrivateSubnet, hf]
  have hsub : subnets { c with subnetAddr := c.closeGap cnt, num := c.num - 1 } =
      c.subnets.eraseIdx cnt := by
    refine List.ext_getElem ?_ fun j h1 h2 => ?_
    · rw [List.length_eraseIdx, length_subnets, length_subnets, if_pos hlt]
    · simp only [length_subnets] at h1
      rw [List.getElem_eraseIdx]
      simp only [subnets, List.getElem_map, List.getElem_range, closeGap_apply hlt]
      split_ifs with h3 h4 h4 <;> first | rfl | omega
  have hperm : c.subnets.Perm (a :: c.subnets.eraseIdx cnt) := by
    have hlen : cnt < c.subnets.length := by simpa using hlt
    have h := List.getElem_cons_eraseIdx_perm hlen
    have hget : c.subnets[cnt] = a := by simp [subnets, heq]
    rw [hget] at h
    exact h.symm
  have hnd := hperm.nodup_iff.mp H.nodup
  rw [List.nodup_cons] at hnd
  refine ⟨⟨?_, fun b => ?_, fun k hk => H.mask k ?_⟩, rfl⟩
  · rw [hsub]
    exact hnd.2
  · rw [hsub, mem_erase, ← H.mem, hperm.mem_iff, List.mem_cons]
    constructor
    · intro hb
      exact ⟨fun h => hnd.1 (h ▸ hb), Or.inr hb⟩
    · rintro ⟨hne, rfl | hb⟩
      · exact absurd rfl hne
      · exact hb
  · simp only at hk
    omega

end PrivateSubnetTable

/-! ## The rules of an interface -/

/-- All calls of `handle_private_subnet_android` succeed. -/
def MdfyReply.Ok (r : MdfyReply) : Prop :=
  (∀ i < ipaMaxPrivateSubnetEntries, r.reset i = true) ∧ r.getTable = true ∧ r.mdfy = true

/-- All calls succeed when an interface gets its address. -/
def AddrReply.Ok (r : AddrReply) : Prop :=
  r.addr = true ∧ r.add = true ∧ (∀ i < ipaMaxPrivateSubnetEntries, r.status i = true) ∧
    r.subnets.Ok

/-- All calls succeed when an interface goes down. -/
def DownReply.Ok (r : DownReply) : Prop :=
  r.before = true ∧ (∀ i < ipaMaxPrivateSubnetEntries, r.del i = true) ∧ r.after = true

namespace SubnetIface

/-- The rules of the interface, if they do `b`. -/
def rulesWith (x : SubnetIface) (b : ℕ → PrivateRule) : Multiset (ℕ × PrivateFlt) :=
  match x.rxProp with
  | none => 0
  | some rx =>
      if x.hasV4 then
        ∑ k ∈ range ipaMaxPrivateSubnetEntries, {(x.privateFlRuleHdl k, ⟨rx.srcPipe, b k⟩)}
      else 0

/-- **What the rules should do**: one for each subnet of the table, and dummies. -/
def wanted (x : SubnetIface) (cfg : PrivateSubnetTable) (k : ℕ) : PrivateRule :=
  if k < cfg.num then
    .toRouting (x.rxProp.elim 0 RxProp.attrib) (cfg.subnetAddr k) (cfg.subnetMask k)
  else .dummy

variable {x : SubnetIface} {cfg : PrivateSubnetTable} {flt : HandleTable PrivateFlt}
  {R : Multiset (ℕ × PrivateFlt)} {b : ℕ → PrivateRule} {r : MdfyReply} {ra : AddrReply}
  {rd : DownReply}

/-- A handle that is zero names no rule. -/
lemma modify_zero {f : PrivateFlt → PrivateFlt} : (flt.modify 0 f).entries = flt.entries := by
  rw [HandleTable.modify, if_neg]
  intro hmem
  obtain ⟨e, he, h0⟩ := Multiset.mem_map.mp hmem
  exact flt.pos e he h0

/-- An interface without rules changes none. -/
lemma handlePrivateSubnetAndroid_zero (hx : ∀ k < ipaMaxPrivateSubnetEntries,
      x.privateFlRuleHdl k = 0) (hnum : cfg.num ≤ ipaMaxPrivateSubnetEntries) :
    (x.handlePrivateSubnetAndroid cfg r flt).entries = flt.entries := by
  rw [handlePrivateSubnetAndroid]
  cases x.rxProp with
  | none => rfl
  | some rx =>
      simp only
      have hreset : (forUpTo ipaMaxPrivateSubnetEntries (fun i flt =>
          resetToDummyFltRule (x.privateFlRuleHdl i) (r.reset i) flt) flt).entries = flt.entries := by
        refine forUpTo_preserves (P := fun t : HandleTable PrivateFlt => t.entries = flt.entries) rfl
          fun i t hi ht => ?_
        rw [resetToDummyFltRule]
        split_ifs
        · rw [hx i hi, modify_zero, ht]
        · exact ht
      split_ifs
      · refine forUpTo_preserves (P := fun t : HandleTable PrivateFlt => t.entries = flt.entries)
          hreset fun i t hi ht => ?_
        rw [hx i (hi.trans_le hnum), modify_zero, ht]
      · exact hreset

/-- **The rules are rewritten** for the table. -/
lemma handlePrivateSubnetAndroid_entries (hr : r.Ok) (hv4 : x.hasV4 = true)
    (hnum : cfg.num ≤ ipaMaxPrivateSubnetEntries) (h : flt.entries = R + x.rulesWith b) :
    (x.handlePrivateSubnetAndroid cfg r flt).entries = R + x.rulesWith (x.wanted cfg) := by
  obtain ⟨hreset, htbl, hmdfy⟩ := hr
  rw [handlePrivateSubnetAndroid]
  cases hrx : x.rxProp with
  | none => simpa [rulesWith, hrx] using h
  | some rx =>
      simp only [rulesWith, hrx, hv4, if_true, htbl, hmdfy, Bool.and_self] at h ⊢
      -- first all of them are dummies
      have hdummy := forUpTo_invariant (n := ipaMaxPrivateSubnetEntries) (s := flt)
        (f := fun i flt => resetToDummyFltRule (x.privateFlRuleHdl i) (r.reset i) flt)
        (P := fun i t => t.entries = R + ∑ k ∈ range ipaMaxPrivateSubnetEntries,
          {(x.privateFlRuleHdl k, ⟨rx.srcPipe, if k < i then .dummy else b k⟩)})
        (by simpa using h) (by
          intro i t hi ht
          rw [resetToDummyFltRule, hreset i hi, if_pos rfl, HandleTable.entries_modify_array ht hi]
          congr 1
          refine sum_congr rfl fun k _ => ?_
          rcases lt_trichotomy k i with hk | rfl | hk
          · simp [hk, hk.ne, Nat.lt_succ_of_lt hk]
          · simp
          · simp [hk.ne', hk.not_gt, show ¬ k < i + 1 by omega])
      have hall := forUpTo_invariant (n := cfg.num)
        (s := forUpTo ipaMaxPrivateSubnetEntries (fun i flt =>
          resetToDummyFltRule (x.privateFlRuleHdl i) (r.reset i) flt) flt)
        (f := fun i flt => flt.modify (x.privateFlRuleHdl i) fun p =>
          { p with rule := .toRouting rx.attrib (cfg.subnetAddr i) (cfg.subnetMask i) })
        (P := fun i t => t.entries = R + ∑ k ∈ range ipaMaxPrivateSubnetEntries,
          {(x.privateFlRuleHdl k, ⟨rx.srcPipe,
            if k < i then .toRouting rx.attrib (cfg.subnetAddr k) (cfg.subnetMask k)
            else .dummy⟩)})
        (by
          rw [hdummy]
          refine congrArg (R + ·) (sum_congr rfl fun k hk => ?_)
          rw [if_pos (mem_range.mp hk), if_neg (Nat.not_lt_zero k)])
        (by
          intro i t hi ht
          rw [HandleTable.entries_modify_array ht (hi.trans_le hnum)]
          congr 1
          refine sum_congr rfl fun k _ => ?_
          rcases lt_trichotomy k i with hk | rfl | hk
          · simp [hk, hk.ne, Nat.lt_succ_of_lt hk]
          · simp
          · simp [hk.ne', hk.not_gt, show ¬ k < i + 1 by omega])
      rw [hall]
      congr 1
      refine sum_congr rfl fun k _ => ?_
      simp [wanted, hrx]

variable (flt) in
/-- **The rules are installed** as dummies. -/
lemma addDummyPrivateSubnetFltRule_entries (hr : ra.Ok) (hv4 : x.hasV4 = true) :
    let out := x.addDummyPrivateSubnetFltRule ra flt
    out.1.entries = flt.entries + out.2.rulesWith (fun _ => .dummy) ∧
      out.2 = { x with privateFlRuleHdl := out.2.privateFlRuleHdl } := by
  obtain ⟨-, hadd, hstatus, -⟩ := hr
  rw [addDummyPrivateSubnetFltRule]
  rcases Option.eq_none_or_eq_some x.rxProp with hrx | ⟨rx, hrx⟩
  · simp only [hrx]
    exact ⟨by simp [rulesWith, hrx], by rw [← hrx]⟩
  · have hgo := forUpTo_invariant (n := ipaMaxPrivateSubnetEntries)
      (s := (flt, x.privateFlRuleHdl, true)) (f := dummyPass rx ra)
      (P := fun i t => t.1.entries = flt.entries +
        ∑ k ∈ range i, {(t.2.1 k, ⟨rx.srcPipe, .dummy⟩)} ∧ t.2.2 = true)
      (by simp) (by
        rintro i ⟨t, hdl, ok⟩ hi ⟨ht, hok⟩
        obtain rfl : ok = true := hok
        rw [dummyPass, if_pos (hstatus i hi)]
        refine ⟨?_, rfl⟩
        rw [HandleTable.entries_add, ht, sum_range_succ, add_assoc]
        simp only [if_true, Function.update_self]
        congr 2
        refine sum_congr rfl fun k hk => ?_
        rw [Function.update_of_ne (mem_range.mp hk).ne])
    simp only [hrx, hadd, if_true]
    refine ⟨?_, trivial⟩
    have hv4' : ∀ rp hdl, ({ x with rxProp := rp, privateFlRuleHdl := hdl } : SubnetIface).hasV4 =
        true := fun _ _ => hv4
    simp only [rulesWith, hv4', if_true]
    exact hgo.1

/-- **The rules are deleted.** -/
lemma deletePrivate_entries (hr : rd.Ok) (hv4 : x.hasV4 = true) (hrx : x.rxProp.isSome)
    (h : flt.entries = R + x.rulesWith b) :
    (x.deletePrivate rd flt).1.entries = R ∧ (x.deletePrivate rd flt).2 = true := by
  obtain ⟨rx, hrx⟩ := Option.isSome_iff_exists.mp hrx
  simp only [rulesWith, hrx, hv4, if_true] at h
  have hpos : ∀ k < ipaMaxPrivateSubnetEntries, x.privateFlRuleHdl k ≠ 0 := by
    intro k hk
    refine flt.pos (x.privateFlRuleHdl k, ⟨rx.srcPipe, b k⟩) ?_
    rw [h, HandleTable.sum_split hk]
    simp
  have hgo := forUpTo_invariant (n := ipaMaxPrivateSubnetEntries) (s := (flt, true))
    (f := x.deletePass rd)
    (P := fun i t => t.1.entries = R + ∑ k ∈ Ico i ipaMaxPrivateSubnetEntries,
      {(x.privateFlRuleHdl k, ⟨rx.srcPipe, b k⟩)} ∧ t.2 = true)
    ⟨by rw [h, range_eq_Ico], rfl⟩ (by
      rintro i ⟨t, ok⟩ hi ⟨ht, hok⟩
      obtain rfl : ok = true := hok
      rw [deletePass, if_neg (by simpa using hpos i hi), if_pos (hr.2.1 i hi)]
      refine ⟨HandleTable.entries_del (a := ⟨rx.srcPipe, b i⟩) ?_, rfl⟩
      rw [ht, sum_eq_sum_Ico_succ_bot hi, add_assoc, add_comm ({_} : Multiset _)])
  simpa [deletePrivate] using hgo

end SubnetIface

/-! ## Runs -/

/-- The driver's calls of a step succeed. -/
def SubnetAct.Succeeds : SubnetAct → Prop
  | .addrV4 _ _ r => r.Ok
  | .down _ r => r.Ok
  | .serve r => ∀ i, (r i).Ok
  | _ => True

namespace SubnetSys

/-- The subnets of the interfaces that have an IPv4 address. -/
def inUse (s : SubnetSys) : Finset (BitVec 32) :=
  ((s.ifaces.filter SubnetIface.hasV4).map SubnetIface.ifIpv4Subnet).toFinset

/-- The rules of all interfaces, if those of `x` do `b x`. -/
def rulesWith (xs : List SubnetIface) (b : SubnetIface → ℕ → PrivateRule) :
    Multiset (ℕ × PrivateFlt) :=
  (xs.map fun x => x.rulesWith (b x)).sum

/-- The interface that goes down does not share its subnet. -/
def Alone (s : SubnetSys) (i : ℕ) : Prop :=
  ∀ x ∈ s.ifaces, x.ipaIfNum = i → x.hasV4 → ∀ y ∈ s.ifaces, y.ipaIfNum ≠ i → y.hasV4 →
    y.ifIpv4Subnet ≠ x.ifIpv4Subnet

instance (s : SubnetSys) (i : ℕ) : Decidable (s.Alone i) := by
  unfold Alone
  infer_instance

/-- A step in which the driver's calls succeed, which leaves no more subnets in use than there is
room for, and in which no interface goes down while another one has its subnet. -/
def Step (s : SubnetSys) (a : SubnetAct) (t : SubnetSys) : Prop :=
  t = s.run a ∧ a.Succeeds ∧ t.inUse.card ≤ ipaMaxPrivateSubnetEntries ∧
    ∀ i r, a = .down i r → s.Alone i

/-- **The private subnets follow the interfaces.** -/
structure Follows (s : SubnetSys) : Prop where
  once : s.cfg.subnets.Nodup
  mem : ∀ a, a ∈ s.cfg.subnets ↔ ∃ x ∈ s.ifaces, x.hasV4 ∧ x.ifIpv4Subnet = a
  rules : s.posted = [] → s.flt.entries = rulesWith s.ifaces fun x => x.wanted s.cfg

/-- **What holds between the steps**: the table is right, and an interface whose rules are not those
for the table has an event of another one before it. -/
structure Ok (s : SubnetSys) (b : SubnetIface → ℕ → PrivateRule) : Prop where
  idx : (s.ifaces.map SubnetIface.ipaIfNum).Nodup
  table : s.cfg.Holds s.inUse
  room : s.inUse.card ≤ ipaMaxPrivateSubnetEntries
  entries : s.flt.entries = rulesWith s.ifaces b
  rules : ∀ x ∈ s.ifaces, x.hasV4 → b x = x.wanted s.cfg ∨ ∃ e ∈ s.posted, e ≠ x.ipaIfNum
  zero : ∀ x ∈ s.ifaces, x.hasV4 = false → ∀ k < ipaMaxPrivateSubnetEntries,
    x.privateFlRuleHdl k = 0

section Steps

variable {s t : SubnetSys} {b b' : SubnetIface → ℕ → PrivateRule} {x x' : SubnetIface}
  {A B xs : List SubnetIface} {i : ℕ}

lemma mem_inUse {a : BitVec 32} :
    a ∈ s.inUse ↔ ∃ x ∈ s.ifaces, x.hasV4 ∧ x.ifIpv4Subnet = a := by
  simp [inUse, and_assoc]

@[simp] lemma rulesWith_nil : rulesWith [] b = 0 := rfl

@[simp] lemma rulesWith_cons :
    rulesWith (x :: xs) b = x.rulesWith (b x) + rulesWith xs b := by
  simp [rulesWith]

@[simp] lemma rulesWith_append :
    rulesWith (A ++ B) b = rulesWith A b + rulesWith B b := by
  simp [rulesWith]

lemma rulesWith_congr (h : ∀ x ∈ xs, x.rulesWith (b x) = x.rulesWith (b' x)) :
    rulesWith xs b = rulesWith xs b' := by
  rw [rulesWith, rulesWith, List.map_congr_left h]

lemma rulesWith_of_not (h : x.hasV4 = false) (c : ℕ → PrivateRule) : x.rulesWith c = 0 := by
  rw [SubnetIface.rulesWith]
  cases x.rxProp <;> simp [h]

/-- The interface with an index, and the others. -/
lemma Ok.split (H : s.Ok b) (h : s.iface i = some x) : x.ipaIfNum = i ∧ x ∈ s.ifaces ∧
    ∃ A B, s.ifaces = A ++ x :: B ∧ ∀ y, y ∈ A ∨ y ∈ B → y.ipaIfNum ≠ i := by
  have hi : x.ipaIfNum = i := by simpa using List.find?_some h
  have hmem := List.mem_of_find?_eq_some h
  obtain ⟨A, B, hsplit⟩ := List.append_of_mem hmem
  refine ⟨hi, hmem, A, B, hsplit, fun y hy heq => ?_⟩
  have hnd := H.idx
  rw [hsplit, List.map_append, List.map_cons, List.nodup_middle, List.nodup_cons,
    List.mem_append] at hnd
  refine hnd.1 ?_
  simp only [List.mem_map]
  exact hy.imp (fun hy => ⟨y, hy, heq.trans hi.symm⟩) fun hy => ⟨y, hy, heq.trans hi.symm⟩

/-- An interface is replaced. -/
lemma put_ifaces (hsplit : s.ifaces = A ++ x :: B) (hi : x.ipaIfNum = i)
    (hother : ∀ y, y ∈ A ∨ y ∈ B → y.ipaIfNum ≠ i) : (s.put i x').ifaces = A ++ x' :: B := by
  have hkeep : ∀ ys : List SubnetIface, (∀ y ∈ ys, y.ipaIfNum ≠ i) →
      ys.map (fun y => if y.ipaIfNum = i then x' else y) = ys := by
    intro ys hys
    refine (List.map_congr_left fun y hy => ?_).trans (List.map_id ys)
    rw [if_neg (hys y hy), id]
  rw [put]
  simp only [hsplit, List.map_append, List.map_cons, hi, if_true]
  rw [hkeep A fun y hy => hother y (Or.inl hy), hkeep B fun y hy => hother y (Or.inr hy)]

/-- An interface is closed. -/
lemma filter_ifaces (hsplit : s.ifaces = A ++ x :: B) (hi : x.ipaIfNum = i)
    (hother : ∀ y, y ∈ A ∨ y ∈ B → y.ipaIfNum ≠ i) :
    (s.ifaces.filter fun y => y.ipaIfNum ≠ i) = A ++ B := by
  rw [hsplit, List.filter_append, List.filter_cons_of_neg (by simp [hi]),
    List.filter_eq_self.mpr fun y hy => by simpa using hother y (Or.inl hy),
    List.filter_eq_self.mpr fun y hy => by simpa using hother y (Or.inr hy)]

lemma Ok.init : SubnetSys.init.Ok fun _ _ => .dummy where
  idx := .nil
  table := ⟨.nil, by simp [PrivateSubnetTable.subnets, SubnetSys.init, inUse],
    fun k hk => absurd hk (Nat.not_lt_zero k)⟩
  room := Nat.zero_le _
  entries := rfl
  rules := by simp [SubnetSys.init]
  zero := by simp [SubnetSys.init]

/-- The invariant says what should hold. -/
lemma Ok.follows (H : s.Ok b) : s.Follows where
  once := H.table.nodup
  mem a := by rw [H.table.mem, mem_inUse]
  rules hnone := by
    rw [H.entries]
    refine rulesWith_congr fun x hx => ?_
    cases hv4 : x.hasV4 with
    | false => rw [rulesWith_of_not hv4, rulesWith_of_not hv4]
    | true =>
        rcases H.rules x hx hv4 with h | ⟨e, he, -⟩
        · rw [h]
        · simp [hnone] at he

/-- A new interface. -/
lemma Ok.start (H : s.Ok b) (wlan : Bool) (rx : Option RxProp) :
    ∃ b', (s.run (.start i wlan rx)).Ok b' := by
  refine ⟨b, ?_⟩
  rw [run]
  split_ifs with hnone
  · have hnew : ∀ y ∈ s.ifaces, y.ipaIfNum ≠ i := by
      simpa [iface] using hnone
    set x : SubnetIface := ⟨i, wlan, rx, none, 0, fun _ => 0⟩ with hx
    have hv4 : x.hasV4 = false := rfl
    have huse : ({ s with ifaces := s.ifaces ++ [x] } : SubnetSys).inUse = s.inUse := by
      simp [inUse, List.filter_append, hv4]
    refine ⟨?_, huse ▸ H.table, huse ▸ H.room, ?_, fun y hy hy4 => ?_, fun y hy hy4 => ?_⟩
    · rw [List.map_append]
      refine List.nodup_append.mpr ⟨H.idx, by simp, fun j hj j' hj' => ?_⟩
      obtain ⟨y, hy, rfl⟩ := List.mem_map.mp hj
      obtain rfl : j' = i := by simpa [hx] using hj'
      exact hnew y hy
    · rw [rulesWith_append, ← H.entries, rulesWith_cons, rulesWith_of_not hv4]
      simp
    · rcases List.mem_append.mp hy with hy | hy
      · exact H.rules y hy hy4
      · rw [List.mem_singleton.mp hy, hv4] at hy4
        exact absurd hy4 (by simp)
    · rcases List.mem_append.mp hy with hy | hy
      · exact H.zero y hy hy4
      · rw [List.mem_singleton.mp hy]
        exact fun _ _ => rfl
  · exact H

/-- **The events are served** for all interfaces. -/
lemma foldl_visit {cfg : PrivateSubnetTable} {e : ℕ} {r : ℕ → MdfyReply} {R : Multiset (ℕ × PrivateFlt)}
    {flt : HandleTable PrivateFlt} (hr : ∀ i, (r i).Ok) (hnum : cfg.num ≤ ipaMaxPrivateSubnetEntries)
    (hzero : ∀ x ∈ xs, x.hasV4 = false → ∀ k < ipaMaxPrivateSubnetEntries, x.privateFlRuleHdl k = 0)
    (h : flt.entries = R + rulesWith xs b) :
    (xs.foldl (fun flt x => if x.ipaIfNum = e then flt
        else x.handlePrivateSubnetAndroid cfg (r x.ipaIfNum) flt) flt).entries =
      R + rulesWith xs fun x => if x.ipaIfNum = e then b x else x.wanted cfg := by
  induction xs generalizing flt R with
  | nil => simpa using h
  | cons x xs ih =>
      rw [List.foldl_cons, rulesWith_cons, ← add_assoc]
      refine ih (fun y hy => hzero y (List.mem_cons_of_mem _ hy)) ?_
      rw [rulesWith_cons] at h
      by_cases he : x.ipaIfNum = e
      · rw [if_pos he, if_pos he, h, add_assoc]
      · rw [if_neg he, if_neg he]
        cases hv4 : x.hasV4 with
        | false =>
            rw [x.handlePrivateSubnetAndroid_zero (hzero x (by simp) hv4) hnum, h,
              rulesWith_of_not hv4, rulesWith_of_not hv4, zero_add, add_zero]
        | true =>
            have h' : flt.entries = (R + rulesWith xs b) + x.rulesWith (b x) := by
              rw [h, add_assoc, add_comm (x.rulesWith _)]
            rw [x.handlePrivateSubnetAndroid_entries (hr _) hv4 hnum h', add_right_comm]

/-- **A change event is served.** -/
lemma Ok.serve (H : s.Ok b) {r : ℕ → MdfyReply} (hr : ∀ i, (r i).Ok) :
    ∃ b', (s.run (.serve r)).Ok b' := by
  rw [run]
  cases hposted : s.posted with
  | nil => exact ⟨b, H⟩
  | cons e posted =>
      refine ⟨fun x => if x.ipaIfNum = e then b x else x.wanted s.cfg, H.idx, H.table, H.room, ?_,
        fun x hx hv4 => ?_, H.zero⟩
      · have hnum : s.cfg.num ≤ ipaMaxPrivateSubnetEntries := H.table.num_eq ▸ H.room
        have h0 : s.flt.entries = 0 + rulesWith s.ifaces b := by rw [zero_add, H.entries]
        simp only [privateSubnetChange]
        rw [foldl_visit hr hnum H.zero h0, zero_add]
      · simp only [privateSubnetChange]
        split_ifs with he
        · rcases H.rules x hx hv4 with h | ⟨e', he', hne⟩
          · exact Or.inl h
          · rw [hposted] at he'
            rcases List.mem_cons.mp he' with rfl | he'
            · exact absurd he.symm hne
            · exact Or.inr ⟨e', he', hne⟩
        · exact Or.inl rfl

/-- **One interface changes**, and the table with it. -/
lemma Ok.replace (H : s.Ok b) (hsplit : s.ifaces = A ++ x :: B)
    (hother : ∀ y, y ∈ A ∨ y ∈ B → y.ipaIfNum ≠ x.ipaIfNum) (ht : t.ifaces = A ++ x' :: B)
    (hidx : x'.ipaIfNum = x.ipaIfNum) (htable : t.cfg.Holds t.inUse)
    (hroom : t.inUse.card ≤ ipaMaxPrivateSubnetEntries) (c : ℕ → PrivateRule)
    (hentries : t.flt.entries = rulesWith A b + (x'.rulesWith c + rulesWith B b))
    (hx : x'.hasV4 → c = x'.wanted t.cfg ∨ ∃ e ∈ t.posted, e ≠ x.ipaIfNum)
    (hzero : x'.hasV4 = false → ∀ k < ipaMaxPrivateSubnetEntries, x'.privateFlRuleHdl k = 0)
    (hrules : ∀ y, y ∈ A ∨ y ∈ B → y.hasV4 →
      b y = y.wanted t.cfg ∨ ∃ e ∈ t.posted, e ≠ y.ipaIfNum) : ∃ b', t.Ok b' := by
  have hmem : ∀ y, y ∈ t.ifaces ↔ y = x' ∨ y ∈ A ∨ y ∈ B := by
    intro y
    rw [ht, List.mem_append, List.mem_cons]
    tauto
  refine ⟨fun y => if y.ipaIfNum = x.ipaIfNum then c else b y, ?_, htable, hroom, ?_,
    fun y hy hv4 => ?_, fun y hy hv4 => ?_⟩
  · have := H.idx
    rw [hsplit] at this
    rw [ht]
    simpa [hidx] using this
  · rw [hentries, ht, rulesWith_append, rulesWith_cons, if_pos hidx]
    congr 1
    · exact rulesWith_congr fun y hy => by rw [if_neg (hother y (Or.inl hy))]
    · congr 1
      exact rulesWith_congr fun y hy => by rw [if_neg (hother y (Or.inr hy))]
  · rcases (hmem y).mp hy with rfl | hy
    · rw [if_pos hidx, hidx]
      exact hx hv4
    · rw [if_neg (hother y hy)]
      exact hrules y hy hv4
  · rcases (hmem y).mp hy with rfl | hy
    · exact hzero hv4
    · exact H.zero y (by rw [hsplit]; rcases hy with hy | hy <;> simp [hy]) hv4

/-- An IPv6 address concerns no subnet. -/
lemma Ok.addrV6 (H : s.Ok b) : ∃ b', (s.run (.addrV6 i)).Ok b' := by
  rw [run]
  cases hx : s.iface i with
  | none => exact ⟨b, H⟩
  | some x =>
      obtain ⟨rfl, hmem, A, B, hsplit, hother⟩ := H.split hx
      set x' := x.configIpType .v6 with hx'
      have hkeep : x'.hasV4 = x.hasV4 ∧ x'.ipaIfNum = x.ipaIfNum ∧ x'.rxProp = x.rxProp ∧
          x'.ifIpv4Subnet = x.ifIpv4Subnet ∧ x'.privateFlRuleHdl = x.privateFlRuleHdl := by
        rw [hx', SubnetIface.configIpType]
        · split_ifs with h1 h2
          · simp
          · simp [SubnetIface.hasV4, h2]
          · simp only [not_or] at h1
            simp [SubnetIface.hasV4, h1.2, h2]
        · simp
      obtain ⟨hv4, hidx, hrx, hsub, hhdl⟩ := hkeep
      have hifaces : (s.addrAddV6 x).ifaces = A ++ x' :: B := put_ifaces hsplit rfl hother
      have huse : (s.addrAddV6 x).inUse = s.inUse := by
        rw [inUse, inUse, hifaces, hsplit]
        simp only [List.filter_append, List.filter_cons, hv4]
        split_ifs <;> simp [hsub]
      have hwant : x'.wanted s.cfg = x.wanted s.cfg := by
        funext k
        simp only [SubnetIface.wanted, hrx]
      refine H.replace hsplit hother hifaces hidx (huse ▸ H.table) (huse ▸ H.room) (b x) ?_
        (fun hy => ?_) (fun hy => ?_) fun y hy hy4 => ?_
      · change s.flt.entries = _
        rw [H.entries, hsplit, rulesWith_append, rulesWith_cons]
        simp only [SubnetIface.rulesWith, hrx, hv4, hhdl]
      · change b x = x'.wanted s.cfg ∨ _
        rw [hwant]
        exact H.rules x hmem (hv4 ▸ hy)
      · rw [hhdl]
        exact H.zero x hmem (hv4 ▸ hy)
      · exact H.rules y (by rw [hsplit]; rcases hy with hy | hy <;> simp [hy]) hy4

/-- **An interface gets its IPv4 address.** -/
lemma Ok.addrV4 (H : s.Ok b) {ip : BitVec 32} {r : AddrReply} (hr : r.Ok)
    (hroom : (s.run (.addrV4 i ip r)).inUse.card ≤ ipaMaxPrivateSubnetEntries) :
    ∃ b', (s.run (.addrV4 i ip r)).Ok b' := by
  rw [run] at hroom ⊢
  cases hx : s.iface i with
  | none => exact ⟨b, H⟩
  | some x =>
      rw [hx] at hroom
      simp only at hroom ⊢
      obtain ⟨rfl, hmem, A, B, hsplit, hother⟩ := H.split hx
      rw [addrAddV4] at hroom ⊢
      split_ifs at hroom ⊢ with hip htype haddr
      · exact ⟨b, H⟩
      · set subnet := (ip >>> 8) <<< 8 with hsubnet
        set x' := ({ x with ifIpv4Subnet := subnet } : SubnetIface).configIpType .v4 with hx'
        have hv4 : x.hasV4 = false := by
          simpa [SubnetIface.hasV4, not_or] using htype
        have hkeep : x'.hasV4 = true ∧ x'.ipaIfNum = x.ipaIfNum ∧ x'.rxProp = x.rxProp ∧
            x'.ifIpv4Subnet = subnet := by
          rw [hx', SubnetIface.configIpType, if_neg (by simpa [not_or] using htype)]
          split_ifs <;> simp [SubnetIface.hasV4]
        obtain ⟨hv4', hidx, hrx, hsub⟩ := hkeep
        set c := s.cfg.addPrivateSubnet subnet with hc
        set out := x'.addDummyPrivateSubnetFltRule r s.flt with hout
        obtain ⟨hadd, hshape⟩ := x'.addDummyPrivateSubnetFltRule_entries s.flt hr hv4'
        rw [← hout] at hadd hshape
        have hshape' : out.2.hasV4 = true ∧ out.2.ipaIfNum = x.ipaIfNum ∧
            out.2.ifIpv4Subnet = subnet := by
          rw [hshape]
          exact ⟨hv4', hidx, hsub⟩
        obtain ⟨hv4o, hidxo, hsubo⟩ := hshape'
        set t := ({ s.setTable x.ipaIfNum c with
          flt := out.2.handlePrivateSubnetAndroid (s.setTable x.ipaIfNum c).cfg r.subnets out.1 } :
            SubnetSys).put x.ipaIfNum out.2
        change ∃ b', t.Ok b'
        have hroomt : t.inUse.card ≤ ipaMaxPrivateSubnetEntries := hroom
        have hifaces : t.ifaces = A ++ out.2 :: B := put_ifaces hsplit rfl hother
        have huse : t.inUse = insert subnet s.inUse := by
          ext a
          rw [mem_insert, mem_inUse, mem_inUse, hifaces, hsplit]
          simp only [List.mem_append, List.mem_cons]
          constructor
          · rintro ⟨y, hy | rfl | hy, hy4, rfl⟩
            · exact Or.inr ⟨y, Or.inl hy, hy4, rfl⟩
            · exact Or.inl hsubo
            · exact Or.inr ⟨y, Or.inr (Or.inr hy), hy4, rfl⟩
          · rintro (rfl | ⟨y, hy | rfl | hy, hy4, rfl⟩)
            · exact ⟨out.2, Or.inr (Or.inl rfl), hv4o, hsubo⟩
            · exact ⟨y, Or.inl hy, hy4, rfl⟩
            · rw [hv4] at hy4
              exact absurd hy4 (by simp)
            · exact ⟨y, Or.inr (Or.inr hy), hy4, rfl⟩
        have hfits : subnet ∉ s.inUse → s.inUse.card < ipaMaxPrivateSubnetEntries := by
          intro hnew
          rw [huse, card_insert_of_notMem hnew] at hroomt
          exact hroomt
        obtain ⟨htable, hsame⟩ := H.table.add hfits
        rw [← huse] at htable
        have hnum : c.1.num ≤ ipaMaxPrivateSubnetEntries := htable.num_eq ▸ hroomt
        have hflt : t.flt.entries = s.flt.entries + out.2.rulesWith (out.2.wanted c.1) :=
          out.2.handlePrivateSubnetAndroid_entries hr.2.2.2 hv4o hnum hadd
        refine H.replace hsplit hother hifaces hidxo htable hroomt (out.2.wanted c.1) ?_
          (fun _ => Or.inl rfl) (fun h => absurd hv4o (by simp [h])) fun y hy hy4 => ?_
        · rw [hflt, H.entries, hsplit, rulesWith_append, rulesWith_cons, rulesWith_of_not hv4,
            zero_add, add_assoc, add_comm (rulesWith B b)]
        · have hold := H.rules y (by rw [hsplit]; rcases hy with hy | hy <;> simp [hy]) hy4
          change b y = y.wanted c.1 ∨ ∃ e ∈ (if c.2 then s.posted ++ [x.ipaIfNum] else s.posted), _
          cases hpost : c.2 with
          | false =>
              have hcfg : c.1 = s.cfg := hsame hpost
              rw [hcfg]
              simpa using hold
          | true => exact Or.inr ⟨x.ipaIfNum, by simp, (hother y hy).symm⟩
      · exact absurd hr.1 haddr
      · exact ⟨b, H⟩

/-- **An interface goes down** that does not share its subnet. -/
lemma Ok.down (H : s.Ok b) {r : DownReply} (hr : r.Ok) (halone : s.Alone i) :
    ∃ b', (s.run (.down i r)).Ok b' := by
  rw [run]
  cases hx : s.iface i with
  | none => exact ⟨b, H⟩
  | some x =>
      simp only
      obtain ⟨rfl, hmem, A, B, hsplit, hother⟩ := H.split hx
      have hin : ∀ y, y ∈ A ∨ y ∈ B → y ∈ s.ifaces := by
        intro y hy
        rw [hsplit]
        rcases hy with hy | hy <;> simp [hy]
      have hnum : ¬ s.cfg.num > ipaMaxPrivateSubnetEntries := by
        rw [H.table.num_eq]
        exact H.room.not_gt
      -- whatever becomes of the table and the rules, the other interfaces are left
      have hclose : ∀ t : SubnetSys,
          t.ifaces = (s.ifaces.filter fun y => y.ipaIfNum ≠ x.ipaIfNum) → t.cfg.Holds t.inUse →
          t.flt.entries = rulesWith A b + rulesWith B b →
          (∀ y, y ∈ A ∨ y ∈ B → b y = y.wanted s.cfg ∨ (∃ e ∈ s.posted, e ≠ y.ipaIfNum) →
            b y = y.wanted t.cfg ∨ ∃ e ∈ t.posted, e ≠ y.ipaIfNum) → ∃ b', t.Ok b' := by
        intro t hifaces htable hentries hrules
        have hAB : t.ifaces = A ++ B := hifaces.trans (filter_ifaces hsplit rfl hother)
        have hsub : (A ++ B).Sublist s.ifaces := by
          rw [hsplit]
          exact (List.Sublist.refl A).append (List.sublist_cons_self _ B)
        refine ⟨b, ?_, htable, le_trans (card_le_card ?_) H.room, ?_, fun y hy hy4 => ?_,
          fun y hy hy4 => ?_⟩
        · rw [hAB]
          exact H.idx.sublist (hsub.map _)
        · intro a ha
          rw [mem_inUse, hAB] at ha
          obtain ⟨y, hy, hy4, rfl⟩ := ha
          exact mem_inUse.mpr ⟨y, hsub.subset hy, hy4, rfl⟩
        · rw [hAB, rulesWith_append, hentries]
        · rw [hAB, List.mem_append] at hy
          exact hrules y hy (H.rules y (hin y hy) hy4)
        · rw [hAB, List.mem_append] at hy
          exact H.zero y (hin y hy) hy4
      have huse : ∀ t : SubnetSys,
          t.ifaces = (s.ifaces.filter fun y => y.ipaIfNum ≠ x.ipaIfNum) →
          ∀ a, a ∈ t.inUse ↔ ∃ y, (y ∈ A ∨ y ∈ B) ∧ y.hasV4 ∧ y.ifIpv4Subnet = a := by
        intro t hifaces a
        rw [mem_inUse, hifaces, filter_ifaces hsplit rfl hother]
        simp only [List.mem_append]
      have huse' : ∀ a, a ∈ s.inUse ↔ (x.hasV4 = true ∧ x.ifIpv4Subnet = a) ∨
          ∃ y, (y ∈ A ∨ y ∈ B) ∧ y.hasV4 ∧ y.ifIpv4Subnet = a := by
        intro a
        rw [mem_inUse, hsplit]
        simp only [List.mem_append, List.mem_cons]
        constructor
        · rintro ⟨y, hy | rfl | hy, h⟩
          · exact Or.inr ⟨y, Or.inl hy, h⟩
          · exact Or.inl h
          · exact Or.inr ⟨y, Or.inr hy, h⟩
        · rintro (h | ⟨y, hy | hy, h⟩)
          · exact ⟨x, Or.inr (Or.inl rfl), h⟩
          · exact ⟨y, Or.inl hy, h⟩
          · exact ⟨y, Or.inr (Or.inr hy), h⟩
      have hentries : s.flt.entries = (rulesWith A b + rulesWith B b) + x.rulesWith (b x) := by
        rw [H.entries, hsplit, rulesWith_append, rulesWith_cons, add_assoc,
          add_comm (x.rulesWith _)]
      cases hv4 : x.hasV4 with
      | false =>
          have htype : x.ipType = none ∨ x.ipType = some .v6 := by
            cases h : x.ipType with
            | none => exact Or.inl rfl
            | some v => cases v <;> simp_all [SubnetIface.hasV4]
          have hdone : s.handleDownEvt x r =
              { s with ifaces := s.ifaces.filter fun y => y.ipaIfNum ≠ x.ipaIfNum } := by
            rw [handleDownEvt]
            rcases htype with h | h
            · simp [h]
            · simp [h, hr.1, hr.2.2]
          rw [hdone]
          refine hclose _ rfl ?_ ?_ fun y hy h => h
          · have heq : ({ s with ifaces := s.ifaces.filter fun y => y.ipaIfNum ≠ x.ipaIfNum } :
                SubnetSys).inUse = s.inUse := by
              ext a
              rw [huse _ rfl, huse']
              simp [hv4]
            rw [heq]
            exact H.table
          · change s.flt.entries = _
            rw [hentries, rulesWith_of_not hv4, add_zero]
      | true =>
          have htype : x.ipType ≠ none ∧ x.ipType ≠ some .v6 := by
            constructor <;> rintro h <;> simp [SubnetIface.hasV4, h] at hv4
          have hsubnet : x.ifIpv4Subnet ∈ s.inUse := (huse' _).mpr (Or.inl ⟨hv4, rfl⟩)
          obtain ⟨htable, hpost⟩ := H.table.del hsubnet
          obtain ⟨flt, hflt, hdone⟩ : ∃ flt : HandleTable PrivateFlt,
              flt.entries = rulesWith A b + rulesWith B b ∧ s.handleDownEvt x r =
                { s with
                  ifaces := s.ifaces.filter fun y => y.ipaIfNum ≠ x.ipaIfNum
                  flt := flt }.setTable x.ipaIfNum (s.cfg.delPrivateSubnet x.ifIpv4Subnet) := by
            rw [handleDownEvt]
            cases hrx : x.rxProp with
            | none =>
                refine ⟨s.flt, ?_, by simp [htype, hr.1, hr.2.2]⟩
                rw [hentries]
                simp [SubnetIface.rulesWith, hrx]
            | some rx =>
                obtain ⟨hdel, hok⟩ := x.deletePrivate_entries hr hv4 (by simp [hrx]) hentries
                exact ⟨_, hdel, by simp [htype, hr.1, hr.2.2, hnum, hok]⟩
          rw [hdone]
          refine hclose _ rfl ?_ hflt fun y hy _ => Or.inr ⟨x.ipaIfNum, ?_, (hother y hy).symm⟩
          · have heq : ({ s with
                  ifaces := s.ifaces.filter fun y => y.ipaIfNum ≠ x.ipaIfNum
                  flt := flt }.setTable x.ipaIfNum (s.cfg.delPrivateSubnet x.ifIpv4Subnet)).inUse =
                s.inUse.erase x.ifIpv4Subnet := by
              ext a
              rw [huse _ rfl, mem_erase, huse']
              constructor
              · rintro ⟨y, hy, hy4, rfl⟩
                exact ⟨halone x hmem rfl hv4 y (hin y hy) (hother y hy) hy4,
                  Or.inr ⟨y, hy, hy4, rfl⟩⟩
              · rintro ⟨hne, ⟨-, h⟩ | h⟩
                · exact absurd h.symm hne
                · exact h
            rw [heq]
            exact htable
          · simp [setTable, hpost]

/-- **Every step keeps the invariant.** -/
theorem Ok.step (H : s.Ok b) {a : SubnetAct} (h : s.Step a t) : ∃ b', t.Ok b' := by
  obtain ⟨rfl, hok, hroom, halone⟩ := h
  cases a with
  | start i wlan rx => exact H.start wlan rx
  | addrV4 i ip r => exact H.addrV4 hok hroom
  | addrV6 i => exact H.addrV6
  | down i r => exact H.down hok (halone i r rfl)
  | serve r => exact H.serve hok

end Steps

end SubnetSys

/-- **Private subnets follow the interfaces** in every run in which no interface goes down while another
one has its subnet. -/
theorem private_subnets_follow {acts : List SubnetAct} {s : SubnetSys}
    (hr : Run SubnetSys.Step SubnetSys.init acts s) : s.Follows := by
  obtain ⟨b, H⟩ := hr.invariant (P := fun s => ∃ b, s.Ok b)
    (fun _ _ _ ⟨_, h⟩ hst => h.step hst) ⟨_, SubnetSys.Ok.init⟩
  exact H.follows

/-- All calls succeed. -/
def mdfyOk : MdfyReply := ⟨fun _ => true, true, true⟩

/-- All calls succeed, and the handles are those from `n` on. -/
def addrOk (n : ℕ) : AddrReply := ⟨true, true, fun _ => true, fun i => n + i, mdfyOk⟩

/-- All calls succeed. -/
def downOk : DownReply := ⟨true, fun _ => true, true⟩

lemma mdfyOk_ok : mdfyOk.Ok := ⟨fun _ _ => rfl, rfl, rfl⟩

lemma addrOk_ok (n : ℕ) : (addrOk n).Ok := ⟨rfl, rfl, fun _ _ => rfl, mdfyOk_ok⟩

lemma downOk_ok : downOk.Ok := ⟨rfl, fun _ _ => rfl, rfl⟩

/-- Two interfaces with different subnets; the first one goes down, and its event is served. -/
theorem private_subnets_follow_two : ∃ s, Run SubnetSys.Step SubnetSys.init
    [.start 1 false (some ⟨4, 7⟩), .start 2 true (some ⟨5, 8⟩), .addrV4 1 0xC0A80101 (addrOk 10),
      .addrV4 2 0xC0A80201 (addrOk 20), .down 1 downOk, .serve (fun _ => mdfyOk)] s ∧
      s.cfg.subnets = [0xC0A80200] ∧ s.Follows := by
  have hr : Run SubnetSys.Step SubnetSys.init [.start 1 false (some ⟨4, 7⟩),
      .start 2 true (some ⟨5, 8⟩), .addrV4 1 0xC0A80101 (addrOk 10),
      .addrV4 2 0xC0A80201 (addrOk 20), .down 1 downOk, .serve (fun _ => mdfyOk)] _ :=
    .cons ⟨rfl, trivial, by decide +kernel, by simp⟩
      (.cons ⟨rfl, trivial, by decide +kernel, by simp⟩
        (.cons ⟨rfl, addrOk_ok 10, by decide +kernel, by simp⟩
          (.cons ⟨rfl, addrOk_ok 20, by decide +kernel, by simp⟩
            (.cons ⟨rfl, downOk_ok, by decide +kernel, by
                rintro i r ⟨⟩
                decide +kernel⟩
              (.cons ⟨rfl, fun _ => mdfyOk_ok, by decide +kernel, by simp⟩ (.nil _))))))
  exact ⟨_, hr, by decide +kernel, private_subnets_follow hr⟩

/-- **Two interfaces share a subnet**, and one of them goes down: the other one's subnet is gone. -/
theorem private_subnets_shared : ∃ s, Run (fun s a t => t = SubnetSys.run s a) SubnetSys.init
    [.start 1 false (some ⟨4, 7⟩), .start 2 true (some ⟨5, 8⟩), .addrV4 1 0xC0A80101 (addrOk 10),
      .addrV4 2 0xC0A80102 (addrOk 20), .down 1 downOk, .serve (fun _ => mdfyOk),
      .serve (fun _ => mdfyOk)] s ∧
      s.posted = [] ∧ s.cfg.subnets = [] ∧ ¬ s.Follows := by
  have hr : Run (fun s a t => t = SubnetSys.run s a) SubnetSys.init
      [.start 1 false (some ⟨4, 7⟩), .start 2 true (some ⟨5, 8⟩), .addrV4 1 0xC0A80101 (addrOk 10),
        .addrV4 2 0xC0A80102 (addrOk 20), .down 1 downOk, .serve (fun _ => mdfyOk),
        .serve (fun _ => mdfyOk)] _ :=
    .cons rfl (.cons rfl (.cons rfl (.cons rfl (.cons rfl (.cons rfl (.cons rfl (.nil _)))))))
  refine ⟨_, hr, by decide +kernel, by decide +kernel, fun h => ?_⟩
  have hmem := (h.mem 0xC0A80100).mpr (by decide +kernel)
  exact absurd hmem (by decide +kernel)

end Ipacm
