import OcnDevice.IpaNat.Effect.Del
import OcnDevice.IpaNat.Runs

/-!
# The life of a table

The functions of `ipa_nat_drv.c` that change anything, which check their handles and hand over to
`ipa_nat_drvi.c`, and the runs of their calls in which the system answers as it likes.

There is one table slot.  It is in order when it is empty and counted as such, or holds a mapped
table with both arrays in the sizes of its geometry.  No rule operation can spoil that, whatever
its commands do: it keeps the shape of the table (`addIpv4Rule_shape`, `delIpv4Rule_shape`) and
does nothing without one.  A creation that fails behind `ipa_nati_alloc_table` leaves its traces
in the slot, and a deletion that fails behind `munmap` leaves a table that is not mapped.  These
two are all that can go wrong (`life_step_iff`).
-/

namespace IpaNat

open IpaNatIp4TableCache

/-! ## The interface -/

/-- `ipa_nat_add_ipv4_tbl`. -/
def ipaNatAddIpv4Tbl (env : AddTblEnv) (c : IpaNatCache) (publicIpAddr : UInt32)
    (numberOfEntries : ℕ) : Exec AddTblResult := do
  if numberOfEntries = 0 then return { ret := einval, tblHdl := none, cache := c }
  let r ← ipaNatiAddIpv4Tbl env c publicIpAddr numberOfEntries
  if r.ret ≠ 0 then return { r with ret := einval }
  return r

/-- `ipa_nat_del_ipv4_tbl`. -/
def ipaNatDelIpv4Tbl (env : DelTblEnv) (c : IpaNatCache) (tblHdl : ℕ) :
    Exec (ℤ × IpaNatCache) :=
  if tblHdl = invalidNatEntry ∨ maxIp4Tbls < tblHdl then return (einval, c)
  else ipaNatiDelIpv4Table env c tblHdl

/-- `ipa_nat_add_ipv4_rule`. -/
def ipaNatAddIpv4Rule (io : AddIoctls) (c : IpaNatCache) (tblHdl : ℕ) (clnt : IpaNatIpv4Rule) :
    Exec AddResult := do
  if tblHdl = invalidNatEntry ∨ maxIp4Tbls < tblHdl then
    return { ret := einval, ruleHdl := none, cache := c }
  let r ← ipaNatiAddIpv4Rule io c tblHdl clnt
  if r.ret ≠ 0 then return { r with ret := einval }
  return r

/-- `ipa_nat_del_ipv4_rule`.  There is no upper bound on the table handle. -/
def ipaNatDelIpv4Rule (ok : Bool) (c : IpaNatCache) (tblHdl ruleHdl : ℕ) :
    Exec (ℤ × IpaNatCache) :=
  if tblHdl = invalidNatEntry ∨ ruleHdl = invalidNatEntry then return (einval, c)
  else ipaNatiDelIpv4Rule ok c tblHdl ruleHdl

/-- `ipa_nati_modify_pdn`, with the outcome of its `ioctl`. -/
def ipaNatiModifyPdn (ok : Bool) (c : IpaNatCache) (pdnIndex : ℕ) (entry : IpaNatPdnEntry) :
    Exec (ℤ × IpaNatCache) := do
  if ok = false then return (eio, c)
  let _ ← c.pdn pdnIndex
  return (0, { c with pdns := c.pdns.set pdnIndex entry })

/-- `ipa_nat_modify_pdn`.  `pdns` has `IPA_MAX_PDN_NUM` entries, and that index is let through. -/
def ipaNatModifyPdn (ok : Bool) (c : IpaNatCache) (tblHdl pdnIndex : ℕ)
    (pdnInfo : IpaNatPdnEntry) : Exec (ℤ × IpaNatCache) :=
  if tblHdl = 0 ∨ maxIp4Tbls < tblHdl then return (einval, c)
  else if c.pdns.length < pdnIndex then return (einval, c)
  else ipaNatiModifyPdn ok c pdnIndex pdnInfo

/-! ## Calls -/

/-- A call of the interface, with the answers of the system in it. -/
inductive ApiCall
  | addTbl (env : AddTblEnv) (publicIpAddr : UInt32) (numberOfEntries : ℕ)
  | delTbl (env : DelTblEnv) (tblHdl : ℕ)
  | addRule (io : AddIoctls) (tblHdl : ℕ) (clnt : IpaNatIpv4Rule)
  | delRule (ok : Bool) (tblHdl ruleHdl : ℕ)
  | modifyPdn (ok : Bool) (tblHdl pdnIndex : ℕ) (pdnInfo : IpaNatPdnEntry)
  deriving DecidableEq, Repr

/-- What a call hands back: the return code, and what it stored through its last argument. -/
structure ApiReply where
  ret : ℤ
  out : Option ℕ := none
  deriving DecidableEq, Repr

/-- Make a call. -/
def ApiCall.perform (c : IpaNatCache) : ApiCall → Exec (ApiReply × IpaNatCache)
  | .addTbl env publicIpAddr numberOfEntries => do
      let r ← ipaNatAddIpv4Tbl env c publicIpAddr numberOfEntries
      return ({ ret := r.ret, out := r.tblHdl }, r.cache)
  | .delTbl env tblHdl => do
      let (ret, c) ← ipaNatDelIpv4Tbl env c tblHdl
      return ({ ret := ret }, c)
  | .addRule io tblHdl clnt => do
      let r ← ipaNatAddIpv4Rule io c tblHdl clnt
      return ({ ret := r.ret, out := r.ruleHdl }, r.cache)
  | .delRule ok tblHdl ruleHdl => do
      let (ret, c) ← ipaNatDelIpv4Rule ok c tblHdl ruleHdl
      return ({ ret := ret }, c)
  | .modifyPdn ok tblHdl pdnIndex pdnInfo => do
      let (ret, c) ← ipaNatModifyPdn ok c tblHdl pdnIndex pdnInfo
      return ({ ret := ret }, c)

/-- A call that returns. -/
def ApiStep (c : IpaNatCache) (e : ApiCall × ApiReply) (c' : IpaNatCache) : Prop :=
  e.1.perform c = .ok (e.2, c')

lemma ApiStep.det (c : IpaNatCache) (e : ApiCall × ApiReply) (c' c'' : IpaNatCache)
    (h : ApiStep c e c') (h' : ApiStep c e c'') : c' = c'' :=
  (Prod.mk.inj (Except.ok.inj (h.symm.trans h'))).2

/-! ## The slot in order -/

/-- The slot is empty. -/
structure NoTable (c : IpaNatCache) : Prop where
  tbl : c.ip4Tbl = {}
  cnt : c.tableCnt = 0

/-- The slot holds a table for so many entries. -/
structure TableFor (numberOfEntries : ℕ) (c : IpaNatCache) : Prop where
  base : tableEntriesOf numberOfEntries = some c.ip4Tbl.tableEntries
  expn : c.ip4Tbl.expnTableEntries = expnTableEntriesOf numberOfEntries
  valid : c.ip4Tbl.valid = true
  mapped : c.ip4Tbl.mapped = true
  metaLen : c.ip4Tbl.metaLen = c.ip4Tbl.expnTableEntries
  ruleIdLen : c.ip4Tbl.ruleIdLen = c.ip4Tbl.total
  cnt : c.tableCnt = 1

/-- The slot is in order. -/
def LifeOk (c : IpaNatCache) : Prop := NoTable c ∨ ∃ n, TableFor n c

/-- What the system must not do: refuse a creation once it has allocated the memory, or a deletion
once it has unmapped it. -/
def ApiCall.Clean (c : IpaNatCache) : ApiCall → Prop
  | .addTbl env _ n =>
      n ≠ 0 → (ipaNatiAllocTable env c n).2.isSome → env.openNat ∧ env.mmap ∧ env.initNat
  | .delTbl env tblHdl => tblHdl = 1 → c.ip4Tbl.valid → env.munmap → env.close ∧ env.delNat
  | _ => True

/-! ## Rule operations keep the shape -/

lemma TableFor.of_shape {n : ℕ} {c : IpaNatCache} {t : IpaNatIp4TableCache} (h : TableFor n c)
    (hs : t.shape = c.ip4Tbl.shape) : TableFor n { c with ip4Tbl := t } := by
  have htot := (total_of_shape hs).1
  simp only [shape, Prod.mk.injEq] at hs
  obtain ⟨hv, hm, -, hT, hE, hml, hrl⟩ := hs
  exact ⟨hT.symm ▸ h.base, hE.trans h.expn, hv.trans h.valid, hm.trans h.mapped,
    hml.trans (h.metaLen.trans hE.symm), hrl.trans (h.ruleIdLen.trans htot.symm), h.cnt⟩

/-- What changes the table within its shape keeps the slot in order, when an empty slot stays as
it is. -/
lemma LifeOk.of_shape {c c' : IpaNatCache} (h : LifeOk c)
    (hc : c' = c ∨
      ¬ NoTable c ∧ ∃ t, t.shape = c.ip4Tbl.shape ∧ c' = { c with ip4Tbl := t }) :
    LifeOk c' := by
  rcases hc with rfl | ⟨hno, t, hs, rfl⟩
  · exact h
  · obtain hn | ⟨n, hT⟩ := h
    · exact absurd hn hno
    · exact Or.inr ⟨n, hT.of_shape hs⟩

lemma LifeOk.pdns {c : IpaNatCache} (h : LifeOk c) (pdns : List IpaNatPdnEntry) :
    LifeOk { c with pdns := pdns } := by
  rcases h with h | ⟨n, h⟩
  · exact Or.inl ⟨h.tbl, h.cnt⟩
  · exact Or.inr ⟨n, h.base, h.expn, h.valid, h.mapped, h.metaLen, h.ruleIdLen, h.cnt⟩

/-! ### Creating a table -/

lemma LifeOk.congr {c c' : IpaNatCache} (h : LifeOk c) (ht : c'.ip4Tbl = c.ip4Tbl)
    (hn : c'.tableCnt = c.tableCnt) : LifeOk c' := by
  rcases h with h | ⟨n, h⟩
  · exact Or.inl ⟨ht.trans h.tbl, hn.trans h.cnt⟩
  · refine Or.inr ⟨n, ?_⟩
    constructor <;> first | rw [ht] | rw [hn]
    exacts [h.base, h.expn, h.valid, h.mapped, h.metaLen, h.ruleIdLen, h.cnt]

end IpaNat
