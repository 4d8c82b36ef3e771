import OcnDevice.IpaNat.DelRule

/-!
# Creating and deleting a table

`ipa_nati_add_ipv4_tbl` with the geometry it computes, and `ipa_nati_del_ipv4_table`.

Creation asks the kernel for memory (`ipa_nati_alloc_table`), fills the slot number `table_cnt` of
the cache and maps the memory (`ipa_nati_update_cache`), clears the four tables, and posts the
dimensions.  Everything it asks of the system is an outcome in `AddTblEnv`.
-/

namespace IpaNat

/-! ## The geometry -/

/-- The loop of `GetNearest2Power`, with the number of rounds left: `num >>= 1; tmp *= 2`, on
`uint16_t`, until `num` is 1. -/
def nearest2PowerLoop (number : ℕ) : ℕ → ℕ → ℕ → ℕ
  | 0, _, tmp => tmp
  | fuel + 1, num, tmp =>
      if num = 1 then if number ≠ tmp then tmp * 2 % 2 ^ 16 else tmp
      else nearest2PowerLoop number fuel (num / 2) (tmp * 2 % 2 ^ 16)

/-- `GetNearest2Power`, `none` for an error.  A `uint16_t` is 1 after at most 15 halvings. -/
def getNearest2Power (num : ℕ) : Option ℕ :=
  if num = 0 then none
  else if num = 1 then some 2
  else some (nearest2PowerLoop num 16 num 1)

/-- `GetNearestEven`. -/
def getNearestEven (num : ℕ) : ℕ :=
  if num < 2 then 2 else if num % 2 ≠ 0 then num + 1 else num

/-- `table_entries` for a number of entries: `IPA_NAT_BASE_TABLE_PERCENTAGE` is .8. -/
def tableEntriesOf (numberOfEntries : ℕ) : Option ℕ :=
  let base := numberOfEntries * 8 / 10
  getNearest2Power (if base = 0 then 1 else base)

/-- `expn_table_entries`: `IPA_NAT_EXPANSION_TABLE_PERCENTAGE` is .2. -/
def expnTableEntriesOf (numberOfEntries : ℕ) : ℕ :=
  getNearestEven (numberOfEntries * 2 / 10)

/-- While `num` halves, `tmp` doubles: with `num` in its `k`-th binade the loop ends at `2 ^ k`
times the `tmp` it started with, doubled once more unless that is the number itself. -/
lemma nearest2PowerLoop_eq (number : ℕ) :
    ∀ (k fuel num j : ℕ), 2 ^ k ≤ num → num < 2 ^ (k + 1) → k < fuel → j + k < 16 →
      nearest2PowerLoop number fuel num (2 ^ j)
        = if number ≠ 2 ^ (j + k) then 2 ^ (j + k + 1) % 2 ^ 16 else 2 ^ (j + k)
  | 0, fuel + 1, num, j, h1, h2, _, _ => by
      obtain rfl : num = 1 := by omega
      simp only [nearest2PowerLoop, if_true, Nat.add_zero, pow_succ]
  | k + 1, fuel + 1, num, j, h1, h2, h3, h4 => by
      have hlo : 2 ^ k ≤ num / 2 := by rw [pow_succ] at h1; omega
      have hhi : num / 2 < 2 ^ (k + 1) := by rw [pow_succ] at h2; omega
      have hpos : 0 < 2 ^ k := Nat.two_pow_pos k
      have hne : num ≠ 1 := by omega
      have hj : 2 ^ j * 2 % 2 ^ 16 = 2 ^ (j + 1) := by
        rw [← pow_succ]
        exact Nat.mod_eq_of_lt (Nat.pow_lt_pow_right (by omega) (by omega))
      rw [nearest2PowerLoop, if_neg hne, hj,
        nearest2PowerLoop_eq number k fuel (num / 2) (j + 1) hlo hhi (by omega) (by omega)]
      rw [show j + 1 + k = j + (k + 1) by omega]

/-- **The base table size** is a power of two from 2 to 32768, unless rounding up leaves 16 bits:
then it is zero. -/
theorem getNearest2Power_eq {num n : ℕ} (hn : num < 2 ^ 16) (h : getNearest2Power num = some n) :
    (n = 0 ∧ 2 ^ 15 < num) ∨ ∃ k, 1 ≤ k ∧ k ≤ 15 ∧ n = 2 ^ k ∧ num ≤ n := by
  unfold getNearest2Power at h
  split at h
  · simp at h
  · rename_i h0
    split at h
    · rename_i h1
      obtain rfl := Option.some.inj h
      exact Or.inr ⟨1, by omega, by omega, rfl, by omega⟩
    · rename_i h1
      obtain rfl := Option.some.inj h
      obtain ⟨hlo, hhi⟩ : 2 ^ num.log2 ≤ num ∧ num < 2 ^ (num.log2 + 1) :=
        ⟨Nat.log2_self_le h0, Nat.lt_log2_self⟩
      have hk : num.log2 < 16 := (Nat.log2_lt h0).mpr hn
      have hk1 : 1 ≤ num.log2 := (Nat.le_log2 h0).mpr (by omega)
      have hloop := nearest2PowerLoop_eq num num.log2 16 num 0 hlo hhi hk (by omega)
      rw [pow_zero, Nat.zero_add] at hloop
      rw [hloop]
      by_cases he : num = 2 ^ num.log2
      · rw [if_neg (not_not_intro he)]
        exact Or.inr ⟨num.log2, hk1, by omega, rfl, by omega⟩
      · rw [if_pos he]
        rcases Nat.lt_or_ge num.log2 15 with hlt | hge
        · rw [Nat.mod_eq_of_lt (Nat.pow_lt_pow_right (by omega) (by omega))]
          exact Or.inr ⟨num.log2 + 1, by omega, by omega, rfl, by omega⟩
        · obtain h15 : num.log2 = 15 := by omega
          rw [h15] at he hlo ⊢
          exact Or.inl ⟨by norm_num, by omega⟩

lemma getNearestEven_le (num : ℕ) : getNearestEven num ≤ num + 2 ∧ 2 ≤ getNearestEven num := by
  unfold getNearestEven
  split_ifs <;> omega

/-- The sizes of a table that the driver can create: the base table has an entry beside the
reserved entry 0, and so has the expansion table, and every position fits in 16 bits. -/
theorem tableEntriesOf_bounds {n T : ℕ} (hn : n < 2 ^ 16) (h : tableEntriesOf n = some T)
    (hT : T ≠ 0) :
    2 ≤ T ∧ T ≤ 2 ^ 15 ∧ 2 ≤ expnTableEntriesOf n ∧ T + expnTableEntriesOf n < 2 ^ 16 := by
  have hE := getNearestEven_le (n * 2 / 10)
  have hE' : expnTableEntriesOf n = getNearestEven (n * 2 / 10) := rfl
  have hb : (if n * 8 / 10 = 0 then 1 else n * 8 / 10) < 2 ^ 16 := by split_ifs <;> omega
  rcases getNearest2Power_eq hb h with ⟨h0, -⟩ | ⟨k, hk1, hk2, rfl, -⟩
  · exact absurd h0 hT
  · have h1 : 2 ^ 1 ≤ 2 ^ k := Nat.pow_le_pow_right (by omega) hk1
    have h2 : 2 ^ k ≤ 2 ^ 15 := Nat.pow_le_pow_right (by omega) hk2
    omega

/-! ## Creation -/

/-- What the system answers during `ipa_nati_add_ipv4_tbl`.  `getHwVersion` is the outcome of
`IPA_IOC_GET_HW_VERSION` with the answer to `ver >= IPA_HW_v4_0`, `allocNatMem` that of
`IPA_IOC_ALLOC_NAT_MEM` with the `offset` the kernel puts into the request. -/
structure AddTblEnv where
  openIpa : Bool := true
  getHwVersion : Option Bool := some false
  allocNatMem : Option ℕ := some 0
  mallocMeta : Bool := true
  mallocRuleId : Bool := true
  openNat : Bool := true
  mmap : Bool := true
  initNat : Bool := true
  deriving DecidableEq, Repr

/-- `struct ipa_ioc_nat_alloc_mem`, with the table sizes that go with it. -/
structure AllocMem where
  size : ℕ
  offset : ℕ
  tableEntries : ℕ
  expnTableEntries : ℕ

/-- `ipa_nati_alloc_table`: the cache with `ipa_fd` and `ver` filled in, and the memory if all
went well. -/
def ipaNatiAllocTable (env : AddTblEnv) (c : IpaNatCache) (numberOfEntries : ℕ) :
    IpaNatCache × Option AllocMem :=
  match tableEntriesOf numberOfEntries with
  | none => (c, none)
  | some tableEntries =>
      let expnTableEntries := expnTableEntriesOf numberOfEntries
      let totalEntries := (tableEntries + expnTableEntries) % 2 ^ 16
      let size := tableEntrySize * totalEntries + indexTableEntrySize * totalEntries
      if c.ipaFd = false ∧ env.openIpa = false then (c, none)
      else
        let c := { c with ipaFd := true }
        match env.getHwVersion with
        | none => (c, none)
        | some hwV4 =>
            let c := { c with hwV4 := hwV4 }
            match env.allocNatMem with
            | none => (c, none)
            | some offset =>
                (c, some
                  { size := size
                    offset := offset % 2 ^ 32
                    tableEntries := tableEntries
                    expnTableEntries := expnTableEntries })

/-- The fields that `ipa_nati_update_cache` stores first.  Addresses left over from an earlier
mapping do not fit the new sizes, so nothing counts as mapped until `mmap` succeeds. -/
def markTable (t : IpaNatIp4TableCache) (publicAddr : UInt32) (mem : AllocMem) :
    IpaNatIp4TableCache :=
  { t with
    valid := true
    publicAddr := publicAddr
    size := mem.size
    tblAddrOffset := mem.offset
    tableEntries := mem.tableEntries
    expnTableEntries := mem.expnTableEntries
    mapped := false }

/-- `malloc` and `memset` of an array, unless it is there already. -/
def allocArray (ok : Bool) (n : ℕ) : Option U16Array → Option U16Array
  | some a => some a
  | none => if ok then some (U16Array.zeroed n) else none

/-- `ipa_nati_update_cache`.  A failing `malloc` ends it early with the return code 0. -/
def ipaNatiUpdateCache (env : AddTblEnv) (c : IpaNatCache) (publicAddr : UInt32)
    (mem : AllocMem) : Exec (ℤ × IpaNatCache) := do
  let t ← c.tbl c.tableCnt
  let t := markTable t publicAddr mem
  let t := { t with
    indexExpnTableMeta := allocArray env.mallocMeta mem.expnTableEntries t.indexExpnTableMeta }
  if t.indexExpnTableMeta.isNone then return (0, { c with ip4Tbl := t })
  let t := { t with
    ruleIdArray :=
      allocArray env.mallocRuleId (mem.tableEntries + mem.expnTableEntries) t.ruleIdArray }
  if t.ruleIdArray.isNone then return (0, { c with ip4Tbl := t })
  if env.openNat = false then return (eio, { c with ip4Tbl := t })
  if env.mmap = false then return (einval, { c with ip4Tbl := t })
  return (0, { c with ip4Tbl := { t with mapped := true } })

/-- `ipa_nati_reset_tbl`: `memset` of the four tables. -/
def ipaNatiResetTbl (t : IpaNatIp4TableCache) : Exec IpaNatIp4TableCache :=
  if t.mapped then
    .ok { t with
      rules := fun k => if k < t.total then {} else t.rules k
      indx := fun k => if k < t.total then {} else t.indx k }
  else .error .outOfBounds

/-- `pdns[i].public_ip = ip` -/
def IpaNatCache.setPdnPublicIp (c : IpaNatCache) (i : ℕ) (ip : UInt32) : Exec IpaNatCache := do
  let e ← c.pdn i
  return { c with pdns := c.pdns.set i { e with publicIp := ip } }

/-- The result of a creation: the return code, what was stored through `tbl_hdl` (if anything),
and the state. -/
structure AddTblResult where
  ret : ℤ
  tblHdl : Option ℕ
  cache : IpaNatCache

/-- `ipa_nati_add_ipv4_tbl`. -/
def ipaNatiAddIpv4Tbl (env : AddTblEnv) (c : IpaNatCache) (publicIpAddr : UInt32)
    (numberOfEntries : ℕ) : Exec AddTblResult := do
  match ipaNatiAllocTable env c numberOfEntries with
  | (c, none) => return { ret := enomem, tblHdl := some 0, cache := c }
  | (c, some mem) =>
      let (ret, c) ← ipaNatiUpdateCache env c publicIpAddr mem
      if ret ≠ 0 then return { ret := einval, tblHdl := some 0, cache := c }
      let t ← ipaNatiResetTbl c.ip4Tbl
      let c := { c with ip4Tbl := t }
      if env.initNat = false then return { ret := einval, tblHdl := some 0, cache := c }
      let c ← c.setPdnPublicIp 0 publicIpAddr
      let c := { c with tableCnt := (c.tableCnt + 1) % 2 ^ 8 }
      return { ret := 0, tblHdl := some c.tableCnt, cache := c }

/-! ## Deletion -/

/-- What the system answers during `ipa_nati_del_ipv4_table`. -/
structure DelTblEnv where
  munmap : Bool := true
  close : Bool := true
  delNat : Bool := true
  deriving DecidableEq, Repr

/-- `ipa_nati_del_ipv4_table`.  The outcome of `munmap` is not looked at. -/
def ipaNatiDelIpv4Table (env : DelTblEnv) (c : IpaNatCache) (tblHdl : ℕ) :
    Exec (ℤ × IpaNatCache) := do
  let t ← c.tbl (tblIndex tblHdl % 2 ^ 8)
  if t.valid = false then return (einval, c)
  let t := if env.munmap then { t with mapped := false } else t
  if env.close = false then return (einval, { c with ip4Tbl := t })
  if env.delNat = false then return (einval, { c with ip4Tbl := t })
  return (0, { c with ip4Tbl := {}, tableCnt := (c.tableCnt + 2 ^ 8 - 1) % 2 ^ 8 })

end IpaNat
