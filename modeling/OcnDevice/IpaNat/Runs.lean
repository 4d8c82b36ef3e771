import OcnDevice.Core.Run
import OcnDevice.IpaNat.MainTable

/-!
# Runs of adds and deletes

A run starts from a table fresh from its creation and takes steps that are calls of
`ipa_nati_add_ipv4_rule` and `ipa_nati_del_ipv4_rule` in which every `ioctl` succeeds.  A step is
labelled with the call, its arguments and what it returned, so that what a client knows about the
table is a function of the labels.

`Ready` is what a run never changes: the sizes, the addresses, and the lengths of the two arrays.
-/

namespace IpaNat

open IpaNatIp4TableCache

/-- A call with its arguments and results. -/
inductive NatEvent
  | add (tblHdl : ℕ) (clnt : IpaNatIpv4Rule) (ret : ℤ) (ruleHdl : Option ℕ)
  | del (tblHdl ruleHdl : ℕ) (ret : ℤ)
  deriving DecidableEq, Repr

/-- One call that returns, with every `ioctl` succeeding.  0xFF is no protocol of a client. -/
inductive NatStep : IpaNatCache → NatEvent → IpaNatCache → Prop
  | add {c : IpaNatCache} {tblHdl : ℕ} {clnt : IpaNatIpv4Rule} {res : AddResult}
      (hp : clnt.protocol ≠ invalidProtoFieldCmp)
      (h : ipaNatiAddIpv4Rule {} c tblHdl clnt = .ok res) :
      NatStep c (.add tblHdl clnt res.ret res.ruleHdl) res.cache
  | del {c c' : IpaNatCache} {tblHdl ruleHdl : ℕ} {ret : ℤ}
      (h : ipaNatiDelIpv4Rule true c tblHdl ruleHdl = .ok (ret, c')) :
      NatStep c (.del tblHdl ruleHdl ret) c'

/-- The driver holds a table that was just created, and held none before. -/
def Fresh (numberOfEntries : ℕ) (c : IpaNatCache) : Prop :=
  ∃ env c0 publicIpAddr tblHdl, c0.ip4Tbl = {} ∧
    ipaNatiAddIpv4Tbl env c0 publicIpAddr numberOfEntries = .ok ⟨0, tblHdl, c⟩

/-- What a run never changes. -/
structure Ready (c : IpaNatCache) : Prop where
  sizes : c.config.Sizes
  addr : Addressable c.ip4Tbl
  valid : c.ip4Tbl.valid = true
  mapped : c.ip4Tbl.mapped = true
  metaLen : c.ip4Tbl.metaLen = c.ip4Tbl.expnTableEntries
  ruleIdLen : c.ip4Tbl.ruleIdLen = c.ip4Tbl.total

/-- A change of the table that keeps its shape. -/
lemma config_of_shape {c : IpaNatCache} {t : IpaNatIp4TableCache} (hs : t.shape = c.ip4Tbl.shape) :
    IpaNatCache.config { c with ip4Tbl := t } = c.config := by
  obtain ⟨h1, h2⟩ := total_of_shape hs
  simp only [IpaNatCache.config, h1, h2]

lemma Ready.of_shape {c : IpaNatCache} {t : IpaNatIp4TableCache} (h : Ready c)
    (hs : t.shape = c.ip4Tbl.shape) : Ready { c with ip4Tbl := t } := by
  have hcfg := config_of_shape hs
  have haddr := h.addr.of_shape hs
  have htot := (total_of_shape hs).1
  simp only [shape, Prod.mk.injEq] at hs
  obtain ⟨hv, hm, -, hT, hE, hml, hrl⟩ := hs
  exact ⟨hcfg ▸ h.sizes, haddr, hv.trans h.valid, hm.trans h.mapped,
    hml.trans (h.metaLen.trans hE.symm), hrl.trans (h.ruleIdLen.trans htot.symm)⟩

/-! ## Fresh tables -/

/-- The arrays that a creation allocates when there were none. -/
lemma updateCache_eq_ok {env : AddTblEnv} {c c' : IpaNatCache} {ip : UInt32} {mem : AllocMem}
    (h0 : c.ip4Tbl = {}) (h : ipaNatiUpdateCache env c ip mem = .ok (0, c')) :
    c'.ip4Tbl.mapped = false ∨
      c' = { c with ip4Tbl := { ({} : IpaNatIp4TableCache) with
        valid := true
        publicAddr := ip
        size := mem.size
        tblAddrOffset := mem.offset
        tableEntries := mem.tableEntries
        expnTableEntries := mem.expnTableEntries
        mapped := true
        indexExpnTableMeta := some (U16Array.zeroed mem.expnTableEntries)
        ruleIdArray := some (U16Array.zeroed (mem.tableEntries + mem.expnTableEntries)) } } := by
  simp only [ipaNatiUpdateCache, bind_eq_ok] at h
  obtain ⟨t, ht, h⟩ := h
  obtain rfl : t = {} := by
    unfold IpaNatCache.tbl at ht
    split_ifs at ht
    exact (Except.ok.inj ht).symm.trans h0
  simp only [markTable, allocArray] at h
  cases hm : env.mallocMeta with
  | false =>
      simp only [hm, Bool.false_eq_true, if_false, Option.isNone_none, if_true] at h
      obtain ⟨-, rfl⟩ := Prod.mk.inj (Except.ok.inj h)
      exact Or.inl rfl
  | true =>
      simp only [hm, if_true, Option.isNone_some, Bool.false_eq_true, if_false] at h
      cases hr : env.mallocRuleId with
      | false =>
          simp only [hr, Bool.false_eq_true, if_false, Option.isNone_none, if_true] at h
          obtain ⟨-, rfl⟩ := Prod.mk.inj (Except.ok.inj h)
          exact Or.inl rfl
      | true =>
          simp only [hr, if_true, Option.isNone_some, Bool.false_eq_true, if_false] at h
          split_ifs at h
          · simp [pure, Except.pure, eio] at h
          · simp [pure, Except.pure, einval] at h
          · obtain ⟨-, rfl⟩ := Prod.mk.inj (Except.ok.inj h)
            exact Or.inr rfl

/-- What `ipa_nati_alloc_table` hands back fits the geometry of the request. -/
lemma allocTable_eq_some {env : AddTblEnv} {c c' : IpaNatCache} {n : ℕ} {mem : AllocMem}
    (h : ipaNatiAllocTable env c n = (c', some mem)) :
    tableEntriesOf n = some mem.tableEntries ∧ mem.expnTableEntries = expnTableEntriesOf n ∧
      c'.ip4Tbl = c.ip4Tbl ∧ c'.pdns = c.pdns ∧ c'.tableCnt = c.tableCnt := by
  unfold ipaNatiAllocTable at h
  cases hT : tableEntriesOf n with
  | none => rw [hT] at h; simp at h
  | some T =>
      rw [hT] at h
      simp only at h
      by_cases hfd : c.ipaFd = false ∧ env.openIpa = false
      · rw [if_pos hfd] at h; simp at h
      rw [if_neg hfd] at h
      cases hv : env.getHwVersion with
      | none => rw [hv] at h; simp at h
      | some hw =>
          rw [hv] at h
          simp only at h
          cases hm : env.allocNatMem with
          | none => rw [hm] at h; simp at h
          | some off =>
              rw [hm] at h
              simp only [Prod.mk.injEq, Option.some.injEq] at h
              obtain ⟨rfl, rfl⟩ := h
              exact ⟨rfl, rfl, rfl, rfl, rfl⟩

/-- **A fresh table** has the geometry of its request, both arrays, and is cleared. -/
theorem Fresh.table {n : ℕ} {c : IpaNatCache} (h : Fresh n c) :
    tableEntriesOf n = some c.ip4Tbl.tableEntries ∧
      c.ip4Tbl.expnTableEntries = expnTableEntriesOf n ∧
      c.ip4Tbl.valid = true ∧ c.ip4Tbl.mapped = true ∧
      c.ip4Tbl.indexExpnTableMeta = some (U16Array.zeroed c.ip4Tbl.expnTableEntries) ∧
      c.ip4Tbl.ruleIdArray = some (U16Array.zeroed c.ip4Tbl.total) ∧
      (∀ k, c.ip4Tbl.rules k = {}) ∧ ∀ k, c.ip4Tbl.indx k = {} := by
  obtain ⟨env, c0, ip, hdl, h0, h⟩ := h
  unfold ipaNatiAddIpv4Tbl at h
  cases halloc : ipaNatiAllocTable env c0 n with
  | mk c1 o =>
      rw [halloc] at h
      cases o with
      | none => simp [pure, Except.pure, enomem] at h
      | some mem =>
          obtain ⟨hT, hE, ht1, -, -⟩ := allocTable_eq_some halloc
          simp only [bind_eq_ok] at h
          obtain ⟨⟨ret, c2⟩, h2, h⟩ := h
          by_cases hret : ret = 0
          · subst hret
            rw [if_neg (by simp)] at h
            simp only [bind_eq_ok] at h
            obtain ⟨t3, h3, h⟩ := h
            by_cases hinit : env.initNat = false
            · rw [if_pos hinit] at h
              simp [pure, Except.pure, einval] at h
            rw [if_neg hinit] at h
            simp only [bind_eq_ok, IpaNatCache.setPdnPublicIp] at h
            obtain ⟨c4, ⟨e, -, h4⟩, h⟩ := h
            obtain rfl := Except.ok.inj h4
            have hc := (AddTblResult.mk.inj (Except.ok.inj h)).2.2
            subst hc
            unfold ipaNatiResetTbl at h3
            split_ifs at h3 with hmap
            obtain rfl := Except.ok.inj h3
            rcases updateCache_eq_ok (ht1.trans h0) h2 with hm | rfl
            · rw [hm] at hmap; simp at hmap
            · refine ⟨hT, hE, rfl, rfl, rfl, rfl, fun k => ?_, fun k => ?_⟩
              · exact ite_self _
              · exact ite_self _
          · rw [if_pos hret] at h
            simp [pure, Except.pure, einval] at h

/-- `table_entries` has not wrapped to zero. -/
lemma tableEntriesOf_ne_zero {n T : ℕ} (hn : n ≤ 40961) (h : tableEntriesOf n = some T) :
    T ≠ 0 := by
  unfold tableEntriesOf at h
  rcases getNearest2Power_eq (by split_ifs <;> omega) h with ⟨-, hlt⟩ | ⟨k, -, -, rfl, -⟩
  · split_ifs at hlt <;> omega
  · exact (Nat.two_pow_pos k).ne'

section FreshLemmas

variable {n : ℕ} {c : IpaNatCache}

/-- A fresh table is ready for adds and deletes, when its size did not wrap and the kernel put it
at offset zero. -/
theorem Fresh.ready (h : Fresh n c) (hn : n ≤ 40961) (ho : c.ip4Tbl.tblAddrOffset = 0)
    (hp : c.pdns.length ≤ 2 ^ 4) : Ready c := by
  obtain ⟨hT, hE, hv, hm, hmeta, hid, -, -⟩ := h.table
  obtain ⟨h1, h2, h3, h4⟩ := tableEntriesOf_bounds (by omega) hT (tableEntriesOf_ne_zero hn hT)
  have hle : expnTableEntriesOf n ≤ 2 ^ 14 := by
    have := getNearestEven_le (n * 2 / 10)
    unfold expnTableEntriesOf
    omega
  rw [← hE] at h3 h4 hle
  refine ⟨⟨h1, h2, ?_, ?_, h4, hp⟩, ⟨ho, h4⟩, hv, hm, ?_, ?_⟩
  · exact Nat.add_le_add_left h3 _
  · exact Nat.add_le_add_left hle _
  · rw [metaLen, hmeta]; rfl
  · rw [ruleIdLen, hid]; rfl

lemma Fresh.ruleId (h : Fresh n c) (i : ℕ) : c.ip4Tbl.ruleId i = 0 := by
  obtain ⟨-, -, -, -, -, hid, -, -⟩ := h.table
  rw [IpaNatIp4TableCache.ruleId, hid]
  rfl

lemma Fresh.metaVal (h : Fresh n c) (i : ℕ) : c.ip4Tbl.metaVal i = 0 := by
  obtain ⟨-, -, -, -, hmeta, -, -, -⟩ := h.table
  rw [IpaNatIp4TableCache.metaVal, hmeta]
  rfl

lemma Fresh.mainInv (h : Fresh n c) : MainInv c.config c.ip4Tbl.rules fun _ => [] := by
  obtain ⟨-, -, -, -, -, -, hr, -⟩ := h.table
  exact MainInv.empty fun x => by rw [hr x]; rfl

end FreshLemmas

/-! ## Concrete runs -/

/-- A call without its results. -/
inductive NatCall
  | add (clnt : IpaNatIpv4Rule)
  | del (ruleHdl : ℕ)

/-- Make a call on table 1. -/
def NatCall.perform (c : IpaNatCache) : NatCall → Option (NatEvent × IpaNatCache)
  | .add clnt =>
      if clnt.protocol = invalidProtoFieldCmp then none
      else match ipaNatiAddIpv4Rule {} c 1 clnt with
        | .ok res => some (.add 1 clnt res.ret res.ruleHdl, res.cache)
        | .error _ => none
  | .del ruleHdl =>
      match ipaNatiDelIpv4Rule true c 1 ruleHdl with
      | .ok (ret, c') => some (.del 1 ruleHdl ret, c')
      | .error _ => none

/-- Make calls one after another. -/
def performAll (c : IpaNatCache) : List NatCall → Option (List NatEvent × IpaNatCache)
  | [] => some ([], c)
  | call :: calls =>
      match call.perform c with
      | none => none
      | some (e, c') =>
          match performAll c' calls with
          | none => none
          | some (es, c'') => some (e :: es, c'')

lemma NatCall.perform_step {c c' : IpaNatCache} {call : NatCall} {e : NatEvent}
    (h : call.perform c = some (e, c')) : NatStep c e c' := by
  cases call with
  | add clnt =>
      unfold NatCall.perform at h
      by_cases hp : clnt.protocol = invalidProtoFieldCmp
      · simp [hp] at h
      · cases hr : ipaNatiAddIpv4Rule {} c 1 clnt with
        | error _ => simp [hp, hr] at h
        | ok res =>
            simp only [hp, hr, if_false, Option.some.injEq, Prod.mk.injEq] at h
            obtain ⟨rfl, rfl⟩ := h
            exact .add hp hr
  | del hdl =>
      unfold NatCall.perform at h
      cases hr : ipaNatiDelIpv4Rule true c 1 hdl with
      | error _ => simp [hr] at h
      | ok res =>
          simp only [hr, Option.some.injEq, Prod.mk.injEq] at h
          obtain ⟨rfl, rfl⟩ := h
          exact .del hr

lemma performAll_run : ∀ {calls : List NatCall} {c c' : IpaNatCache} {es : List NatEvent},
    performAll c calls = some (es, c') → Run NatStep c es c'
  | [], c, c', es, h => by
      simp only [performAll, Option.some.injEq, Prod.mk.injEq] at h
      obtain ⟨rfl, rfl⟩ := h
      exact .nil c
  | call :: calls, c, c', es, h => by
      unfold performAll at h
      cases h1 : call.perform c with
      | none => simp [h1] at h
      | some r =>
          obtain ⟨e, c1⟩ := r
          cases h2 : performAll c1 calls with
          | none => simp [h1, h2] at h
          | some r =>
              obtain ⟨es', c2⟩ := r
              simp only [h1, h2, Option.some.injEq, Prod.mk.injEq] at h
              obtain ⟨rfl, rfl⟩ := h
              exact Run.cons (NatCall.perform_step h1) (performAll_run h2)

/-- Calls that can be made, and what can be computed of their outcome. -/
theorem exists_run {c : IpaNatCache} (calls : List NatCall) (p : List NatEvent → IpaNatCache → Bool)
    (h : (performAll c calls).any (fun r => p r.1 r.2) = true) :
    ∃ es c', Run NatStep c es c' ∧ p es c' = true := by
  cases hr : performAll c calls with
  | none => simp [hr] at h
  | some r => exact ⟨r.1, r.2, performAll_run hr, by simpa [hr] using h⟩

/-- The state behind a creation for `n` entries in which every call succeeds, with one PDN. -/
def tableOf (n : ℕ) : IpaNatCache :=
  match ipaNatiAddIpv4Tbl {} { pdns := [{}] } 0x0A000001 n with
  | .ok res => res.cache
  | .error _ => { pdns := [] }

/-- A TCP rule of the only PDN, with all but the two ports fixed. -/
def tcpRule (privatePort targetPort : UInt16) : IpaNatIpv4Rule where
  targetIp := 0x08080808
  privateIp := 0xC0A80002
  targetPort := targetPort
  privatePort := privatePort
  publicPort := 4096
  protocol := 6
  pdnIndex := 0

end IpaNat
