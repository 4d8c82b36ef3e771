import OcnDevice.IpaNat.Hash

/-!
# Adding a rule

`ipa_nati_add_ipv4_rule` and everything it calls, in the order of the source.

An add first *generates* the rule: it hashes the client's fields into the base table, and on a
collision walks to the end of the chain and picks the first free expansion entry; then it does the
same in the index table.  So far nothing but `index_expn_table_meta` is written.  Then the rule is
copied to the chosen entry, the entry before it is made to point to it by a DMA command, the same
happens for the index entry, and a last DMA command sets the enable bit.  Only this last command's
outcome is looked at.  A free slot of `rule_id_array` becomes the rule's handle.

`AddIoctls` are the outcomes of the three commands.  A failing `malloc` of a command buffer has
the effect of a failing `ioctl`: the command is not posted.
-/

namespace IpaNat

/-- `-EINVAL`, `-EIO` and `-ENOMEM`. -/
def einval : ℤ := -22
def eio : ℤ := -5
def enomem : ℤ := -12

/-- `IPPROTO_TCP` and `IPPROTO_UDP`. -/
def ipprotoTcp : UInt8 := 6
def ipprotoUdp : UInt8 := 17

/-! ## Walking to the end of a chain -/

/-- The `while (nxt_indx != IPA_NAT_INVALID_NAT_ENTRY)` loop of both generators, entered with
`nxt ≠ 0`: follow the links, give up with `none` when an entry points to itself, and stop at the
entry whose link is zero.  The walk stays inside an expansion table, so if it is still going after
one step for each of its entries and one more, it has been somewhere twice and never ends. -/
def walkLinks (next : ℕ → Exec ℕ) : ℕ → ℕ → Exec (Option ℕ)
  | 0, _ => .error .diverges
  | fuel + 1, nxt => do
      let nxt' ← next nxt
      if nxt' = nxt then return none
      else if nxt' = invalidNatEntry then return some nxt
      else walkLinks next fuel nxt'

/-- The entry to link a colliding rule behind: the head itself when its link is zero (the "first
collision"), and the last entry of the chain otherwise. -/
def chainEnd (next : ℕ → Exec ℕ) (fuel head nxt : ℕ) : Exec (Option ℕ) :=
  if nxt = invalidNatEntry then return some head else walkLinks next fuel nxt

/-- `for (cnt = 1; cnt < size; cnt++) if (!busy(cnt)) return cnt; return 0;`, written with the
number of rounds left. -/
def firstFree (busy : ℕ → Bool) : ℕ → ℕ → ℕ
  | _, 0 => invalidNatEntry
  | cnt, n + 1 => if busy cnt then firstFree busy (cnt + 1) n else cnt

section Generate

variable (t : IpaNatIp4TableCache)

/-- The link read in the walk of `ipa_nati_generate_tbl_rule`. -/
def ruleLink (nxt : ℕ) : Exec ℕ := do
  return (← t.readRule (t.linkPos nxt)).nextIndex

/-- The link read in the walk of `ipa_nati_generate_index_rule`. -/
def indxLink (nxt : ℕ) : Exec ℕ := do
  return (← t.readIndx (t.linkPos nxt)).nextIndex

/-- `ipa_nati_expn_tbl_free_entry`. -/
def ipaNatiExpnTblFreeEntry : ℕ :=
  firstFree (fun cnt => (t.rules (t.expnPos cnt)).enable) 1 (t.expnTableEntries - 1)

/-- `ipa_nati_index_expn_get_free_entry`. -/
def ipaNatiIndexExpnGetFreeEntry : ℕ :=
  firstFree (fun cnt => (t.indx (t.expnPos cnt)).tblEntry ≠ 0) 1 (t.expnTableEntries - 1)

end Generate

/-! ## Generating the rule -/

/-- The fields of `sw_rule` that come from the client and the PDN; everything else is zero. -/
def swRuleOf (pubIpAddr : UInt32) (clnt : IpaNatIpv4Rule) : IpaNatRule where
  privateIp := clnt.privateIp
  privatePort := clnt.privatePort
  protocol := clnt.protocol
  publicPort := clnt.publicPort
  targetIp := clnt.targetIp
  targetPort := clnt.targetPort
  -- `pdn_index` is a 4-bit field
  pdnIndex := clnt.pdnIndex.toNat % 2 ^ 4
  ipChksum := ipaNatiCalcIpCksum pubIpAddr clnt.privateIp
  tcpUdpChksum :=
    if clnt.protocol = ipprotoTcp ∨ clnt.protocol = ipprotoUdp then
      ipaNatiCalcTcpUdpCksum pubIpAddr clnt.publicPort clnt.privateIp clnt.privatePort
    else 0

/-- The base slot of a client rule. -/
def dstSlot (c : IpaNatCache) (pubIpAddr : UInt32) (clnt : IpaNatIpv4Rule) : ℕ :=
  (dstHash c.hwV4 pubIpAddr clnt.targetIp clnt.targetPort clnt.publicPort clnt.protocol
    (hashSize c.ip4Tbl.tableEntries)).toNat

/-- The index slot of a client rule. -/
def srcSlot (c : IpaNatCache) (clnt : IpaNatIpv4Rule) : ℕ :=
  (srcHash clnt.privateIp clnt.privatePort clnt.targetIp clnt.targetPort clnt.protocol
    (hashSize c.ip4Tbl.tableEntries)).toNat

/-- `ipa_nati_generate_tbl_rule`: the entry for the rule and the entry to link it behind (zero
when there is no collision), or `none` for `IPA_NAT_INVALID_NAT_ENTRY`. -/
def ipaNatiGenerateTblRule (c : IpaNatCache) (pubIpAddr : UInt32) (clnt : IpaNatIpv4Rule) :
    Exec (Option (ℕ × ℕ)) := do
  let t := c.ip4Tbl
  let newEntry := dstSlot c pubIpAddr clnt
  let head ← t.readRule newEntry
  if head.enable = false then return some (newEntry, 0)
  match ← chainEnd (ruleLink t) (t.expnTableEntries + 1) newEntry head.nextIndex with
  | none => return none
  | some prev =>
      let free := ipaNatiExpnTblFreeEntry t
      if free = invalidNatEntry then return none
      else return some (t.expnPos free, prev)

/-- `ipa_nati_generate_index_rule`, likewise.  It also refuses to link an entry behind itself. -/
def ipaNatiGenerateIndexRule (c : IpaNatCache) (clnt : IpaNatIpv4Rule) :
    Exec (Option (ℕ × ℕ)) := do
  let t := c.ip4Tbl
  let newEntry := srcSlot c clnt
  let head ← t.readIndx newEntry
  if head.tblEntry = 0 then return some (newEntry, 0)
  match ← chainEnd (indxLink t) (t.expnTableEntries + 1) newEntry head.nextIndex with
  | none => return none
  | some prev =>
      let free := ipaNatiIndexExpnGetFreeEntry t
      if free = invalidNatEntry then return none
      else if prev = t.expnPos free then return none
      else return some (t.expnPos free, prev)

/-- What `ipa_nati_generate_rule` hands back: `sw_rule` and `new_entry`, `index_sw_rule` (whose
`next_index` stays zero) and `new_index_tbl_entry`. -/
structure GeneratedRule where
  rule : IpaNatRule
  entry : ℕ
  indxPrevIndex : ℕ
  indxEntry : ℕ

/-- The two generators of `ipa_nati_generate_rule`. -/
def ipaNatiGenerateRule (c : IpaNatCache) (pubIpAddr : UInt32) (clnt : IpaNatIpv4Rule) :
    Exec (Option GeneratedRule) := do
  match ← ipaNatiGenerateTblRule c pubIpAddr clnt with
  | none => return none
  | some (entry, prev) =>
      match ← ipaNatiGenerateIndexRule c clnt with
      | none => return none
      | some (indxEntry, indxPrev) =>
          return some
            { rule := { swRuleOf pubIpAddr clnt with prevIndex := prev, indxTblEntry := indxEntry }
              entry := entry
              indxPrevIndex := indxPrev
              indxEntry := indxEntry }

/-- The end of `ipa_nati_generate_rule`: remember the predecessor of an index expansion entry. -/
def recordIndxPrev (t : IpaNatIp4TableCache) (g : GeneratedRule) : Exec IpaNatIp4TableCache :=
  if t.tableEntries ≤ g.indxEntry then
    t.writeMeta (g.indxEntry - t.tableEntries) g.indxPrevIndex
  else return t

/-! ## Writing the rule -/

section Commands

variable (t : IpaNatIp4TableCache)

/-- The table of a rule position, and the entry number inside that table. -/
def ruleTbl (k : ℕ) : NatTableType × ℕ :=
  if k < t.tableEntries then (.baseTbl, k) else (.expnTbl, k - t.tableEntries)

/-- The table of an index position, and the entry number inside that table. -/
def indxTblOf (k : ℕ) : NatTableType × ℕ :=
  if k < t.tableEntries then (.indxTbl, k) else (.indexExpnTbl, k - t.tableEntries)

/-- The command of `ipa_nati_copy_ipv4_rule_to_hw`: `prev_entry.next_index = entry`. -/
def ruleLinkCmd (prev entry : ℕ) : IpaIocNatDmaOne where
  baseAddr := (ruleTbl t prev).1
  offset := (t.ipaNatiGetEntryOffset (ruleTbl t prev).2 + ruleNextFieldOffset) % 2 ^ 32
  data := entry

/-- The command of `ipa_nati_copy_ipv4_index_rule_to_hw`.  Its `offset` is a `uint16_t`. -/
def indxLinkCmd (prev entry : ℕ) : IpaIocNatDmaOne where
  baseAddr := (indxTblOf t prev).1
  offset := (t.ipaNatiGetIndexEntryOffset (indxTblOf t prev).2 % 2 ^ 16
    + indexRuleNextFieldOffset) % 2 ^ 16
  data := entry

/-- The command of `ipa_nati_post_ipv4_dma_cmd`.  `tbl_addr_offset` is only added for the
expansion table. -/
def enableCmd (entry : ℕ) : IpaIocNatDmaOne :=
  if entry < t.tableEntries then
    { baseAddr := .baseTbl
      offset := (tableEntrySize * entry + ruleFlagFieldOffset) % 2 ^ 32
      data := flagEnableBitMask }
  else
    { baseAddr := .expnTbl
      offset := (tableEntrySize * (entry - t.tableEntries) + ruleFlagFieldOffset
        + t.tblAddrOffset) % 2 ^ 32
      data := flagEnableBitMask }

/-- A command whose outcome the driver does not look at. -/
def post (ok : Bool) (d : IpaIocNatDmaOne) : IpaNatIp4TableCache :=
  if ok then t.dma d else t

/-- `ipa_nati_copy_ipv4_rule_to_hw`. -/
def ipaNatiCopyIpv4RuleToHw (ok : Bool) (rule : IpaNatRule) (entry : ℕ) :
    Exec IpaNatIp4TableCache := do
  let t ← t.writeRule (t.entryPos entry) rule
  if rule.prevIndex = invalidNatEntry then return t
  else return post t ok (ruleLinkCmd t rule.prevIndex entry)

/-- `ipa_nati_copy_ipv4_index_rule_to_hw`. -/
def ipaNatiCopyIpv4IndexRuleToHw (ok : Bool) (tblEntry prevIndex entry : ℕ) :
    Exec IpaNatIp4TableCache := do
  let t ← t.writeIndx (t.entryPos entry) { tblEntry := tblEntry, nextIndex := 0 }
  if prevIndex = invalidNatEntry then return t
  else return post t ok (indxLinkCmd t prevIndex entry)

end Commands

/-! ## The handle -/

/-- The search loop of `ipa_nati_make_rule_hdl`, with the number of rounds left. -/
def findRuleId (t : IpaNatIp4TableCache) : ℕ → ℕ → Exec (Option ℕ)
  | _, 0 => return none
  | cnt, n + 1 => do
      if (← t.readRuleId cnt) = invalidNatEntry then return some cnt
      else findRuleId t (cnt + 1) n

/-- The rule id of a position: the entry number in its own table, and the table in bit 0. -/
def ruleIdOf (t : IpaNatIp4TableCache) (tblEntry : ℕ) : ℕ :=
  if t.tableEntries ≤ tblEntry then (tblEntry - t.tableEntries) * 2 % 2 ^ 16 + 1
  else tblEntry * 2 % 2 ^ 16

/-- The counter that `ipa_nati_make_rule_hdl` increments first. -/
def countEntry (t : IpaNatIp4TableCache) (tblEntry : ℕ) : IpaNatIp4TableCache :=
  if t.tableEntries ≤ tblEntry then { t with curExpnTblCnt := (t.curExpnTblCnt + 1) % 2 ^ 16 }
  else { t with curTblCnt := (t.curTblCnt + 1) % 2 ^ 16 }

/-- `ipa_nati_make_rule_hdl`: zero when `rule_id_array` is full. -/
def ipaNatiMakeRuleHdl (t : IpaNatIp4TableCache) (tblEntry : ℕ) :
    Exec (ℕ × IpaNatIp4TableCache) := do
  let t := countEntry t tblEntry
  match ← findRuleId t 0 t.total with
  | none => return (0, t)
  | some cnt => return (cnt + 1, ← t.writeRuleId cnt (ruleIdOf t tblEntry))

/-! ## The whole operation -/

/-- The outcomes of the commands of an add: linking the rule, linking the index entry, enabling
the rule. -/
structure AddIoctls where
  linkRule : Bool := true
  linkIndx : Bool := true
  enable : Bool := true
  deriving DecidableEq, Repr

/-- The result of an add: the return code, what was stored through `rule_hdl` (if anything), and
the state. -/
structure AddResult where
  ret : ℤ
  ruleHdl : Option ℕ
  cache : IpaNatCache

/-- The part of `ipa_nati_add_ipv4_rule` behind the generators: write, enable, make a handle. -/
def installRule (io : AddIoctls) (c : IpaNatCache) (g : GeneratedRule) : Exec AddResult := do
  let t ← recordIndxPrev c.ip4Tbl g
  let t ← ipaNatiCopyIpv4RuleToHw t io.linkRule g.rule g.entry
  let t ← ipaNatiCopyIpv4IndexRuleToHw t io.linkIndx g.entry g.indxPrevIndex g.indxEntry
  if io.enable = false then return { ret := eio, ruleHdl := none, cache := { c with ip4Tbl := t } }
  let t := t.dma (enableCmd t g.entry)
  let (hdl, t) ← ipaNatiMakeRuleHdl t g.entry
  if hdl = 0 then return { ret := einval, ruleHdl := some hdl, cache := { c with ip4Tbl := t } }
  return { ret := 0, ruleHdl := some hdl, cache := { c with ip4Tbl := t } }

/-- `ipa_nati_add_ipv4_rule`.  The message of the PDN check prints `pdns[pdn_index].public_ip`
also when the index is what is wrong. -/
def ipaNatiAddIpv4Rule (io : AddIoctls) (c : IpaNatCache) (tblHdl : ℕ) (clnt : IpaNatIpv4Rule) :
    Exec AddResult := do
  let pdn ← c.pdn clnt.pdnIndex.toNat
  if pdn.publicIp = 0 then return { ret := einval, ruleHdl := none, cache := c }
  let _ ← c.tbl (tblIndex tblHdl)
  match ← ipaNatiGenerateRule c pdn.publicIp clnt with
  | none => return { ret := einval, ruleHdl := none, cache := c }
  | some g => installRule io c g

end IpaNat
