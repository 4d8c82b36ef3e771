import OcnDevice.Core.HashChain

/-!
# The NAT table in shared memory

The data of `ipa_nat_drvi.h`: the entries of the four tables, the table cache, and the one-word
writes that the driver posts through `IPA_IOC_NAT_DMA`.

**Layout.**  `ipa_nati_update_cache` places the four tables one behind the other in the mapped
memory: base rules, expansion rules, index, index expansion.  The first two have the same entry
size and so have the last two, so one function `rules` and one function `indx` hold them, with
expansion entry `i` at position `tableEntries + i`.  That is also the number the driver stores in
its link fields, so a link is a position.

**Accesses.**  Every read and write the driver makes itself is checked against the mapped tables
(and the two heap arrays against their allocated length); one that falls outside ends the call
with `Fault.outOfBounds`.  A loop that would never end ends it with `Fault.diverges`.  What the
kernel writes on behalf of a DMA command is not an access of the driver: a command that addresses
nothing in the tables changes nothing in them.
-/

namespace IpaNat

/-- How a call can go wrong without returning. -/
inductive Fault
  | outOfBounds
  | diverges
  deriving DecidableEq, Repr

/-- The result of code that may fault. -/
abbrev Exec := Except Fault

/-! ## Entries -/

/-- `struct ipa_nat_rule`, with the fields of `struct ipa_nat_sw_rule`: the two describe the same
32 bytes.  `prevIndex` and `indxTblEntry` are the two halves of `sw_spec_params`. -/
structure IpaNatRule where
  privateIp : UInt32 := 0
  targetIp : UInt32 := 0
  nextIndex : ℕ := 0
  publicPort : UInt16 := 0
  privatePort : UInt16 := 0
  targetPort : UInt16 := 0
  ipChksum : UInt16 := 0
  rsvd1 : ℕ := 0
  redirect : Bool := false
  enable : Bool := false
  timeStamp : ℕ := 0
  protocol : UInt8 := 0
  prevIndex : ℕ := 0
  indxTblEntry : ℕ := 0
  rsvd2 : ℕ := 0
  rsvd3 : ℕ := 0
  pdnIndex : ℕ := 0
  tcpUdpChksum : UInt16 := 0
  deriving DecidableEq, Repr

/-- `struct ipa_nat_indx_tbl_rule`: the two halves of `tbl_entry_nxt_indx`. -/
structure IpaNatIndxTblRule where
  tblEntry : ℕ := 0
  nextIndex : ℕ := 0
  deriving DecidableEq, Repr

/-- `ipa_nat_ipv4_rule`, the rule as the client gives it. -/
structure IpaNatIpv4Rule where
  targetIp : UInt32
  privateIp : UInt32
  targetPort : UInt16
  privatePort : UInt16
  publicPort : UInt16
  protocol : UInt8
  pdnIndex : UInt8
  deriving DecidableEq, Repr

/-- An entry of the static array `pdns`. -/
structure IpaNatPdnEntry where
  publicIp : UInt32 := 0
  srcMetadata : UInt32 := 0
  dstMetadata : UInt32 := 0
  deriving DecidableEq, Repr

/-- `nat_table_type`. -/
inductive NatTableType
  | baseTbl
  | expnTbl
  | indxTbl
  | indexExpnTbl
  deriving DecidableEq, Repr

/-! ## Constants of `ipa_nat_drvi.h` -/

/-- `IPA_NAT_MAX_IP4_TBLS`. -/
def maxIp4Tbls : ℕ := 1
/-- `IPA_NAT_TABLE_ENTRY_SIZE`. -/
def tableEntrySize : ℕ := 32
/-- `IPA_NAT_INDEX_TABLE_ENTRY_SIZE`. -/
def indexTableEntrySize : ℕ := 4
/-- `IPA_NAT_RULE_FLAG_FIELD_OFFSET`. -/
def ruleFlagFieldOffset : ℕ := 18
/-- `IPA_NAT_RULE_NEXT_FIELD_OFFSET`. -/
def ruleNextFieldOffset : ℕ := 8
/-- `IPA_NAT_RULE_PROTO_FIELD_OFFSET`. -/
def ruleProtoFieldOffset : ℕ := 22
/-- `IPA_NAT_INDEX_RULE_NEXT_FIELD_OFFSET`. -/
def indexRuleNextFieldOffset : ℕ := 2
/-- `IPA_NAT_INDEX_RULE_NAT_INDEX_FIELD_OFFSET`. -/
def indexRuleNatIndexFieldOffset : ℕ := 0
/-- `IPA_NAT_FLAG_ENABLE_BIT_MASK`. -/
def flagEnableBitMask : ℕ := 0x8000
/-- `IPA_NAT_FLAG_DISABLE_BIT_MASK`. -/
def flagDisableBitMask : ℕ := 0x0000
/-- `IPA_NAT_INVALID_PROTO_FIELD_VALUE`. -/
def invalidProtoFieldValue : ℕ := 0xFF00
/-- `IPA_NAT_INVALID_PROTO_FIELD_CMP`. -/
def invalidProtoFieldCmp : UInt8 := 0xFF
/-- `IPA_NAT_INVALID_NAT_ENTRY`. -/
abbrev invalidNatEntry : ℕ := 0

/-! ## The table cache -/

/-- A `malloc`ed array of `uint16_t`. -/
structure U16Array where
  length : ℕ
  val : ℕ → ℕ

/-- An array fresh from `malloc` and `memset`. -/
def U16Array.zeroed (n : ℕ) : U16Array := ⟨n, fun _ => 0⟩

/-- `a[i] = v` -/
def U16Array.set (a : U16Array) (i v : ℕ) : U16Array :=
  { a with val := fun k => if k = i then v else a.val k }

/-- `struct ipa_nat_ip4_table_cache`, together with the memory its four table addresses point
to.  `mapped` says that they point into a live mapping. -/
structure IpaNatIp4TableCache where
  valid : Bool := false
  publicAddr : UInt32 := 0
  size : ℕ := 0
  tblAddrOffset : ℕ := 0
  tableEntries : ℕ := 0
  expnTableEntries : ℕ := 0
  indexExpnTableMeta : Option U16Array := none
  ruleIdArray : Option U16Array := none
  curTblCnt : ℕ := 0
  curExpnTblCnt : ℕ := 0
  mapped : Bool := false
  rules : ℕ → IpaNatRule := fun _ => {}
  indx : ℕ → IpaNatIndxTblRule := fun _ => {}

/-- The driver's global state: `ipv4_nat_cache` and `pdns`.  `IPA_NAT_MAX_IP4_TBLS` is 1, so
`ip4_tbl` is one table; `hwV4` is the outcome of `ver >= IPA_HW_v4_0`; the length of `pdns` is
`IPA_MAX_PDN_NUM`. -/
structure IpaNatCache where
  ip4Tbl : IpaNatIp4TableCache := {}
  ipaFd : Bool := false
  tableCnt : ℕ := 0
  hwV4 : Bool := false
  pdns : List IpaNatPdnEntry

/-- `&ipv4_nat_cache.ip4_tbl[i]` -/
def IpaNatCache.tbl (c : IpaNatCache) (i : ℕ) : Exec IpaNatIp4TableCache :=
  if i < maxIp4Tbls then .ok c.ip4Tbl else .error .outOfBounds

/-- `pdns[i]` -/
def IpaNatCache.pdn (c : IpaNatCache) (i : ℕ) : Exec IpaNatPdnEntry :=
  match c.pdns[i]? with
  | some e => .ok e
  | none => .error .outOfBounds

/-- `tbl_hdl - 1` on `uint32_t`. -/
def tblIndex (tblHdl : ℕ) : ℕ := (tblHdl + 2 ^ 32 - 1) % 2 ^ 32

/-- `a - b` on `uint16_t`. -/
def sub16 (a b : ℕ) : ℕ := (a + 2 ^ 16 - b) % 2 ^ 16

namespace IpaNatIp4TableCache

variable (t : IpaNatIp4TableCache)

/-- The number of rule entries, and of index entries, in the mapped memory. -/
def total : ℕ := t.tableEntries + t.expnTableEntries

/-- Read the rule at a position of the base and expansion tables. -/
def readRule (k : ℕ) : Exec IpaNatRule :=
  if t.mapped ∧ k < t.total then .ok (t.rules k) else .error .outOfBounds

/-- Overwrite the rule at a position. -/
def setRule (k : ℕ) (r : IpaNatRule) : IpaNatIp4TableCache :=
  { t with rules := fun j => if j = k then r else t.rules j }

/-- Overwrite the rule at a position, checked. -/
def writeRule (k : ℕ) (r : IpaNatRule) : Exec IpaNatIp4TableCache :=
  if t.mapped ∧ k < t.total then .ok (t.setRule k r) else .error .outOfBounds

/-- Read the index entry at a position of the index and index expansion tables. -/
def readIndx (k : ℕ) : Exec IpaNatIndxTblRule :=
  if t.mapped ∧ k < t.total then .ok (t.indx k) else .error .outOfBounds

/-- Overwrite the index entry at a position. -/
def setIndx (k : ℕ) (r : IpaNatIndxTblRule) : IpaNatIp4TableCache :=
  { t with indx := fun j => if j = k then r else t.indx j }

/-- Overwrite the index entry at a position, checked. -/
def writeIndx (k : ℕ) (r : IpaNatIndxTblRule) : Exec IpaNatIp4TableCache :=
  if t.mapped ∧ k < t.total then .ok (t.setIndx k r) else .error .outOfBounds

/-- The position of `expn_tbl[i]`, and of `indx_expn_tbl[i]`. -/
def expnPos (i : ℕ) : ℕ := t.tableEntries + i

/-- The position of the expansion entry that a link names, after `link -= table_entries`. -/
def linkPos (link : ℕ) : ℕ := t.expnPos (sub16 link t.tableEntries)

/-- The position that an entry number stands for: `tbl[k]` below `table_entries`, and
`expn_tbl[k - table_entries]` from there on. -/
def entryPos (k : ℕ) : ℕ :=
  if t.tableEntries ≤ k then t.expnPos (k - t.tableEntries) else k

/-- The allocated length of `index_expn_table_meta`; nothing is in bounds of a null pointer. -/
def metaLen : ℕ := (t.indexExpnTableMeta.map U16Array.length).getD 0

/-- The contents of `index_expn_table_meta`. -/
def metaVal (i : ℕ) : ℕ := (t.indexExpnTableMeta.map fun a => a.val i).getD 0

/-- Overwrite an element of `index_expn_table_meta`. -/
def setMeta (i v : ℕ) : IpaNatIp4TableCache :=
  { t with indexExpnTableMeta := t.indexExpnTableMeta.map fun a => a.set i v }

/-- `index_expn_table_meta[i].prev_index` -/
def readMeta (i : ℕ) : Exec ℕ :=
  if i < t.metaLen then .ok (t.metaVal i) else .error .outOfBounds

/-- `index_expn_table_meta[i].prev_index = v` -/
def writeMeta (i v : ℕ) : Exec IpaNatIp4TableCache :=
  if i < t.metaLen then .ok (t.setMeta i v) else .error .outOfBounds

/-- The allocated length of `rule_id_array`. -/
def ruleIdLen : ℕ := (t.ruleIdArray.map U16Array.length).getD 0

/-- The contents of `rule_id_array`. -/
def ruleId (i : ℕ) : ℕ := (t.ruleIdArray.map fun a => a.val i).getD 0

/-- Overwrite an element of `rule_id_array`. -/
def setRuleId (i v : ℕ) : IpaNatIp4TableCache :=
  { t with ruleIdArray := t.ruleIdArray.map fun a => a.set i v }

/-- `rule_id_array[i]` -/
def readRuleId (i : ℕ) : Exec ℕ :=
  if i < t.ruleIdLen then .ok (t.ruleId i) else .error .outOfBounds

/-- `rule_id_array[i] = v` -/
def writeRuleId (i v : ℕ) : Exec IpaNatIp4TableCache :=
  if i < t.ruleIdLen then .ok (t.setRuleId i v) else .error .outOfBounds

/-- What no rule operation changes: the sizes and the addresses. -/
def shape : Bool × Bool × ℕ × ℕ × ℕ × ℕ × ℕ :=
  (t.valid, t.mapped, t.tblAddrOffset, t.tableEntries, t.expnTableEntries, t.metaLen, t.ruleIdLen)

/-! ### What the accesses do -/

variable {t} {k i v : ℕ} {r : IpaNatRule} {x : IpaNatIndxTblRule} {t' : IpaNatIp4TableCache}

lemma readRule_eq_ok : t.readRule k = .ok r ↔ (t.mapped ∧ k < t.total) ∧ t.rules k = r := by
  unfold readRule; split_ifs with h <;> simp [h]

lemma readIndx_eq_ok : t.readIndx k = .ok x ↔ (t.mapped ∧ k < t.total) ∧ t.indx k = x := by
  unfold readIndx; split_ifs with h <;> simp [h]

lemma readMeta_eq_ok : t.readMeta i = .ok v ↔ i < t.metaLen ∧ t.metaVal i = v := by
  unfold readMeta; split_ifs with h <;> simp [h]

lemma readRuleId_eq_ok : t.readRuleId i = .ok v ↔ i < t.ruleIdLen ∧ t.ruleId i = v := by
  unfold readRuleId; split_ifs with h <;> simp [h]

lemma writeRule_eq_ok :
    t.writeRule k r = .ok t' ↔ (t.mapped ∧ k < t.total) ∧ t.setRule k r = t' := by
  unfold writeRule; split_ifs with h <;> simp [h]

lemma writeIndx_eq_ok :
    t.writeIndx k x = .ok t' ↔ (t.mapped ∧ k < t.total) ∧ t.setIndx k x = t' := by
  unfold writeIndx; split_ifs with h <;> simp [h]

lemma writeMeta_eq_ok : t.writeMeta i v = .ok t' ↔ i < t.metaLen ∧ t.setMeta i v = t' := by
  unfold writeMeta; split_ifs with h <;> simp [h]

lemma writeRuleId_eq_ok : t.writeRuleId i v = .ok t' ↔ i < t.ruleIdLen ∧ t.setRuleId i v = t' := by
  unfold writeRuleId; split_ifs with h <;> simp [h]

@[simp] lemma entryPos_eq : t.entryPos k = k := by
  unfold entryPos expnPos
  split_ifs <;> omega

lemma linkPos_eq (h : t.tableEntries ≤ k) (hk : k < 2 ^ 16) : t.linkPos k = k := by
  unfold linkPos expnPos sub16
  omega

@[simp] lemma setRule_rules (j : ℕ) :
    (t.setRule k r).rules j = if j = k then r else t.rules j := rfl
@[simp] lemma setRule_indx : (t.setRule k r).indx = t.indx := rfl
@[simp] lemma setRule_metaVal : (t.setRule k r).metaVal = t.metaVal := rfl
@[simp] lemma setRule_ruleId : (t.setRule k r).ruleId = t.ruleId := rfl
@[simp] lemma setRule_shape : (t.setRule k r).shape = t.shape := rfl

@[simp] lemma setIndx_indx (j : ℕ) :
    (t.setIndx k x).indx j = if j = k then x else t.indx j := rfl
@[simp] lemma setIndx_rules : (t.setIndx k x).rules = t.rules := rfl
@[simp] lemma setIndx_metaVal : (t.setIndx k x).metaVal = t.metaVal := rfl
@[simp] lemma setIndx_ruleId : (t.setIndx k x).ruleId = t.ruleId := rfl
@[simp] lemma setIndx_shape : (t.setIndx k x).shape = t.shape := rfl

lemma setMeta_metaVal (h : i < t.metaLen) (j : ℕ) :
    (t.setMeta i v).metaVal j = if j = i then v else t.metaVal j := by
  unfold setMeta metaVal metaLen at *
  cases hm : t.indexExpnTableMeta with
  | none => simp [hm] at h
  | some a => simp [U16Array.set]
@[simp] lemma setMeta_rules : (t.setMeta i v).rules = t.rules := rfl
@[simp] lemma setMeta_indx : (t.setMeta i v).indx = t.indx := rfl
@[simp] lemma setMeta_ruleId : (t.setMeta i v).ruleId = t.ruleId := rfl
@[simp] lemma setMeta_metaLen : (t.setMeta i v).metaLen = t.metaLen := by
  simp [setMeta, metaLen, Function.comp_def, U16Array.set]
@[simp] lemma setMeta_shape : (t.setMeta i v).shape = t.shape := by
  simp only [shape, setMeta_metaLen]; rfl

lemma setRuleId_ruleId (h : i < t.ruleIdLen) (j : ℕ) :
    (t.setRuleId i v).ruleId j = if j = i then v else t.ruleId j := by
  unfold setRuleId ruleId ruleIdLen at *
  cases hm : t.ruleIdArray with
  | none => simp [hm] at h
  | some a => simp [U16Array.set]
@[simp] lemma setRuleId_rules : (t.setRuleId i v).rules = t.rules := rfl
@[simp] lemma setRuleId_indx : (t.setRuleId i v).indx = t.indx := rfl
@[simp] lemma setRuleId_metaVal : (t.setRuleId i v).metaVal = t.metaVal := rfl
@[simp] lemma setRuleId_ruleIdLen : (t.setRuleId i v).ruleIdLen = t.ruleIdLen := by
  simp [setRuleId, ruleIdLen, Function.comp_def, U16Array.set]
@[simp] lemma setRuleId_shape : (t.setRuleId i v).shape = t.shape := by
  simp only [shape, setRuleId_ruleIdLen]; rfl

end IpaNatIp4TableCache

/-- A computation succeeds when its parts do. -/
lemma bind_eq_ok {α β : Type} {x : Exec α} {f : α → Exec β} {b : β} :
    x >>= f = .ok b ↔ ∃ a, x = .ok a ∧ f a = .ok b := by
  cases x <;> simp [bind, Except.bind]

/-! ## DMA commands -/

/-- `struct ipa_ioc_nat_dma_one`, less the table index: there is one table. -/
structure IpaIocNatDmaOne where
  baseAddr : NatTableType
  offset : ℕ
  data : ℕ
  deriving DecidableEq, Repr

/-- Write the 16-bit word number `w` of a rule. -/
def IpaNatRule.setWord (r : IpaNatRule) (w data : ℕ) : IpaNatRule :=
  match w with
  | 0 => { r with privateIp := UInt32.ofNat (r.privateIp.toNat / 2 ^ 16 * 2 ^ 16 + data) }
  | 1 => { r with privateIp := UInt32.ofNat (data * 2 ^ 16 + r.privateIp.toNat % 2 ^ 16) }
  | 2 => { r with targetIp := UInt32.ofNat (r.targetIp.toNat / 2 ^ 16 * 2 ^ 16 + data) }
  | 3 => { r with targetIp := UInt32.ofNat (data * 2 ^ 16 + r.targetIp.toNat % 2 ^ 16) }
  | 4 => { r with nextIndex := data }
  | 5 => { r with publicPort := UInt16.ofNat data }
  | 6 => { r with privatePort := UInt16.ofNat data }
  | 7 => { r with targetPort := UInt16.ofNat data }
  | 8 => { r with ipChksum := UInt16.ofNat data }
  | 9 => { r with rsvd1 := data % 2 ^ 14, redirect := data.testBit 14, enable := data.testBit 15 }
  | 10 => { r with timeStamp := r.timeStamp / 2 ^ 16 * 2 ^ 16 + data }
  | 11 => { r with timeStamp := data % 2 ^ 8 * 2 ^ 16 + r.timeStamp % 2 ^ 16,
                   protocol := UInt8.ofNat (data / 2 ^ 8) }
  | 12 => { r with prevIndex := data }
  | 13 => { r with indxTblEntry := data }
  | 14 => { r with rsvd2 := data % 2 ^ 8, rsvd3 := data / 2 ^ 8 % 2 ^ 4, pdnIndex := data / 2 ^ 12 }
  | _ => { r with tcpUdpChksum := UInt16.ofNat data }

/-- Write the 16-bit word number `w` of an index entry. -/
def IpaNatIndxTblRule.setWord (r : IpaNatIndxTblRule) (w data : ℕ) : IpaNatIndxTblRule :=
  match w with
  | 0 => { r with tblEntry := data }
  | _ => { r with nextIndex := data }

namespace IpaNatIp4TableCache

variable (t : IpaNatIp4TableCache)

/-- Where a table starts in the mapped memory, in bytes: the address arithmetic of
`ipa_nati_update_cache`. -/
def tblStart : NatTableType → ℕ
  | .baseTbl => 0
  | .expnTbl => tableEntrySize * t.tableEntries
  | .indxTbl => tableEntrySize * t.total
  | .indexExpnTbl => tableEntrySize * t.total + indexTableEntrySize * t.tableEntries

/-- The byte of the mapped memory that a command addresses.  Both offset helpers of the driver
count from the start of the table and add `tbl_addr_offset`. -/
def dmaByte (d : IpaIocNatDmaOne) : ℕ :=
  t.tblStart d.baseAddr + (d.offset + 2 ^ 32 - t.tblAddrOffset) % 2 ^ 32

/-- **`ioctl(IPA_IOC_NAT_DMA)` for one command**: the addressed 16-bit word gets the data. -/
def dma (d : IpaIocNatDmaOne) : IpaNatIp4TableCache :=
  let a := t.dmaByte d
  if a < tableEntrySize * t.total then
    let k := a / tableEntrySize
    t.setRule k ((t.rules k).setWord (a % tableEntrySize / 2) d.data)
  else
    let a' := a - tableEntrySize * t.total
    if a' < indexTableEntrySize * t.total then
      let k := a' / indexTableEntrySize
      t.setIndx k ((t.indx k).setWord (a' % indexTableEntrySize / 2) d.data)
    else t

/-- `ipa_nati_get_entry_offset`: the entry's distance from the start of its table, plus
`tbl_addr_offset`, on `uint32_t`.  Both rule tables have the same entry size. -/
def ipaNatiGetEntryOffset (tblEntry : ℕ) : ℕ :=
  (tableEntrySize * tblEntry + t.tblAddrOffset) % 2 ^ 32

/-- `ipa_nati_get_index_entry_offset`. -/
def ipaNatiGetIndexEntryOffset (indxTblEntry : ℕ) : ℕ :=
  (indexTableEntrySize * indxTblEntry + t.tblAddrOffset) % 2 ^ 32

end IpaNatIp4TableCache

end IpaNat
