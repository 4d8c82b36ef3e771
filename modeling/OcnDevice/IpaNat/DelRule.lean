import OcnDevice.IpaNat.AddRule

/-!
# Deleting a rule

`ipa_nati_del_ipv4_rule` and everything it calls, in the order of the source.

The handle is decoded into a table and an entry, the entry's position in its chain is classified
(`DelType`), and so is the position of its index entry.  The position of the rule decides the
first DMA command, the position of the index entry the one or two behind it; they are posted
together, index commands first.  When the `ioctl` has succeeded the driver repairs by hand what
the commands do not touch: the back link of the rule behind, the index entry's own links, and,
after the deletion of an index head, the back pointer of the rule whose index entry moved into the
head.

The head of a chain with rules behind it is not unlinked.  It becomes a *dead head*, enabled but
with protocol 0xFF, and `ipa_nati_del_dead_ipv4_head_nodes` clears it once nothing is behind it.
-/

namespace IpaNat

/-- `del_type`. -/
inductive DelType
  | onlyOne
  | head
  | middle
  | last
  deriving DecidableEq, Repr

section Decode

variable (t : IpaNatIp4TableCache)

/-- `ipa_nati_parse_ipv4_rule_hdl`: the table bit and the entry, entry zero for a handle out of
range.  The argument is a `uint16_t`, and for zero the array is read at -1. -/
def ipaNatiParseIpv4RuleHdl (ruleHdl : ℕ) : Exec (Bool × ℕ) := do
  if t.total ≤ ruleHdl then return (false, invalidNatEntry)
  if ruleHdl = 0 then .error .outOfBounds
  let ruleId ← t.readRuleId (ruleHdl - 1)
  return (decide (ruleId % 2 = 1), ruleId / 2)

/-- The position of entry `tbl_entry` of the base or the expansion table. -/
def rulePos (expnTbl : Bool) (tblEntry : ℕ) : ℕ :=
  if expnTbl then t.expnPos tblEntry else tblEntry

/-- `ipa_nati_find_rule_pos`. -/
def ipaNatiFindRulePos (expnTbl : Bool) (tblEntry : ℕ) : Exec DelType := do
  let r ← t.readRule (rulePos t expnTbl tblEntry)
  if expnTbl then return if r.nextIndex = invalidNatEntry then .last else .middle
  else return if r.nextIndex = invalidNatEntry then .onlyOne else .head

/-- `ipa_nati_find_index_rule_pos`. -/
def ipaNatiFindIndexRulePos (indxTblEntry : ℕ) : Exec DelType := do
  let r ← t.readIndx (t.entryPos indxTblEntry)
  if t.tableEntries ≤ indxTblEntry then
    return if r.nextIndex = invalidNatEntry then .last else .middle
  else return if r.nextIndex = invalidNatEntry then .onlyOne else .head

end Decode

/-! ## The commands -/

section Commands

variable (t : IpaNatIp4TableCache)

/-- A command on a field of a rule entry. -/
def ruleCmd (tbl : NatTableType) (entry fieldOffset data : ℕ) : IpaIocNatDmaOne where
  baseAddr := tbl
  offset := (t.ipaNatiGetEntryOffset entry + fieldOffset) % 2 ^ 32
  data := data

/-- A command on a field of an index entry. -/
def indxCmd (tbl : NatTableType) (entry fieldOffset data : ℕ) : IpaIocNatDmaOne where
  baseAddr := tbl
  offset := (t.ipaNatiGetIndexEntryOffset entry + fieldOffset) % 2 ^ 32
  data := data

/-- "Base Table rule Deletion": the command for the rule `r` at `cur_tbl_entry`. -/
def delRuleCmd (rulePos : DelType) (curTblEntry : ℕ) (r : IpaNatRule) : IpaIocNatDmaOne :=
  match rulePos with
  | .onlyOne => ruleCmd t .baseTbl curTblEntry ruleFlagFieldOffset flagDisableBitMask
  | .head => ruleCmd t .baseTbl curTblEntry ruleProtoFieldOffset invalidProtoFieldValue
  | .middle =>
      ruleCmd t (ruleTbl t r.prevIndex).1 (ruleTbl t r.prevIndex).2 ruleNextFieldOffset r.nextIndex
  | .last =>
      ruleCmd t (ruleTbl t r.prevIndex).1 (ruleTbl t r.prevIndex).2 ruleNextFieldOffset
        invalidNatEntry

/-- "Index Table rule Deletion": the commands for the index entry `x`, which the rule names as
`indx_tbl_entry`. -/
def delIndxCmds (indxRulePos : DelType) (indxTblEntry : ℕ) (x : IpaNatIndxTblRule) :
    Exec (List IpaIocNatDmaOne) := do
  match indxRulePos with
  | .onlyOne =>
      return [indxCmd t .indxTbl indxTblEntry indexRuleNatIndexFieldOffset invalidNatEntry]
  | .head =>
      let next ← t.readIndx (t.linkPos x.nextIndex)
      return [indxCmd t .indxTbl indxTblEntry indexRuleNatIndexFieldOffset next.tblEntry,
        indxCmd t .indxTbl indxTblEntry indexRuleNextFieldOffset next.nextIndex]
  | .middle =>
      let prev ← t.readMeta (indxTblEntry - t.tableEntries)
      return [indxCmd t (indxTblOf t prev).1 (indxTblOf t prev).2 indexRuleNextFieldOffset
        x.nextIndex]
  | .last =>
      let prev ← t.readMeta (indxTblEntry - t.tableEntries)
      return [indxCmd t (indxTblOf t prev).1 (indxTblOf t prev).2 indexRuleNextFieldOffset
        invalidNatEntry]

/-- The command is one on an index table. -/
def isIndxCmd (d : IpaIocNatDmaOne) : Bool :=
  d.baseAddr = .indxTbl ∨ d.baseAddr = .indexExpnTbl

/-- `ReorderCmds`: move everything from the first index command on to the front, unless that is
the very first command or there is none. -/
def reorderCmds (cmds : List IpaIocNatDmaOne) : List IpaIocNatDmaOne :=
  let start := cmds.findIdx isIndxCmd
  if start = cmds.length then cmds else cmds.drop start ++ cmds.take start

/-- `ioctl(IPA_IOC_NAT_DMA)` for a list of commands. -/
def dmaAll (cmds : List IpaIocNatDmaOne) : IpaNatIp4TableCache :=
  cmds.foldl IpaNatIp4TableCache.dma t

end Commands

/-! ## The repairs behind the `ioctl` -/

section Repairs

variable (t : IpaNatIp4TableCache)

/-- A rule in the middle of its chain: the rule behind it gets its back link. -/
def repairBackLink (cur : ℕ) : Exec IpaNatIp4TableCache := do
  let r ← t.readRule cur
  let next ← t.readRule (t.linkPos r.nextIndex)
  t.writeRule (t.linkPos r.nextIndex) { next with prevIndex := r.prevIndex }

/-- The repairs in the rule tables: the back link behind a rule in the middle, and every deleted
rule but a head is cleared. -/
def repairRules (rulePos : DelType) (cur : ℕ) : Exec IpaNatIp4TableCache := do
  let t ← (if rulePos = .middle then repairBackLink t cur else pure t)
  if rulePos = .head then return t else t.writeRule cur {}

/-- The entry behind the successor `x` of a deleted index head has the head as its
predecessor now. -/
def repairHeadMeta (indxTblEntry : ℕ) (x : IpaNatIndxTblRule) : Exec IpaNatIp4TableCache :=
  if x.nextIndex ≠ 0 ∧ t.tableEntries ≤ x.nextIndex then
    t.writeMeta (x.nextIndex - t.tableEntries) indxTblEntry
  else return t

/-- The repairs behind the deletion of an index head, whose successor was at `next_entry`: besides
`repairHeadMeta`, the successor is cleared, and the rule that the head now stands for gets the head
as its index entry. -/
def repairIndxHead (indxTblEntry next : ℕ) : Exec IpaNatIp4TableCache := do
  let x ← t.readIndx next
  let t ← repairHeadMeta t indxTblEntry x
  let t ← t.writeIndx next {}
  let head ← t.readIndx indxTblEntry
  let pos := t.entryPos head.tblEntry
  let r ← t.readRule pos
  t.writeRule pos { r with indxTblEntry := indxTblEntry }

/-- An index entry in the middle of its chain: the entry behind it gets its predecessor. -/
def repairMiddleMeta (indxTblEntry : ℕ) : Exec IpaNatIp4TableCache := do
  let x ← t.readIndx (t.entryPos indxTblEntry)
  let next := if t.tableEntries ≤ x.nextIndex then x.nextIndex - t.tableEntries else x.nextIndex
  let prev ← t.readMeta (indxTblEntry - t.tableEntries)
  let t ← t.writeMeta next prev
  t.writeMeta (indxTblEntry - t.tableEntries) invalidNatEntry

/-- The repairs behind the deletion of any other index entry. -/
def repairIndx (indxRulePos : DelType) (indxTblEntry : ℕ) : Exec IpaNatIp4TableCache := do
  let t ← (if indxRulePos = .middle then repairMiddleMeta t indxTblEntry else pure t)
  t.writeIndx (t.entryPos indxTblEntry) {}

end Repairs

/-- `ipa_nati_post_del_dma_cmd`, `none` when it returns an error. -/
def ipaNatiPostDelDmaCmd (ok : Bool) (t : IpaNatIp4TableCache) (curTblEntry : ℕ) (expnTbl : Bool)
    (rulePos : DelType) : Exec (Option IpaNatIp4TableCache) := do
  let cur := IpaNat.rulePos t expnTbl curTblEntry
  let r ← t.readRule cur
  if r.enable = false then return none
  let indxRulePos ← ipaNatiFindIndexRulePos t r.indxTblEntry
  let x ← t.readIndx (t.entryPos r.indxTblEntry)
  let indxCmds ← delIndxCmds t indxRulePos r.indxTblEntry x
  let cmds := reorderCmds (delRuleCmd t rulePos curTblEntry r :: indxCmds)
  if ok = false then return none
  let t ← repairRules (dmaAll t cmds) rulePos cur
  if indxRulePos = .head then
    return some (← repairIndxHead t r.indxTblEntry (t.linkPos x.nextIndex))
  else return some (← repairIndx t indxRulePos r.indxTblEntry)

/-- `ipa_nati_del_dead_ipv4_head_nodes`.  Every round of the loop only looks at its own entry, so
the loop is the same change of every base entry. -/
def ipaNatiDelDeadIpv4HeadNodes (t : IpaNatIp4TableCache) : IpaNatIp4TableCache :=
  { t with rules := fun k =>
      if k < t.tableEntries ∧ (t.rules k).protocol = invalidProtoFieldCmp
          ∧ (t.rules k).nextIndex = invalidNatEntry then {} else t.rules k }

/-- `ipa_nati_del_ipv4_rule`, with the outcome of its one `ioctl`.  The handle is cut to 16 bits
for decoding and used in full width to reset its slot. -/
def ipaNatiDelIpv4Rule (ok : Bool) (c : IpaNatCache) (tblHdl ruleHdl : ℕ) :
    Exec (ℤ × IpaNatCache) := do
  let t ← c.tbl (tblIndex tblHdl % 2 ^ 8)
  let (expnTbl, tblEntry) ← ipaNatiParseIpv4RuleHdl t (ruleHdl % 2 ^ 16)
  if tblEntry = invalidNatEntry then return (einval, c)
  if t.valid = false then return (einval, c)
  let rulePos ← ipaNatiFindRulePos t expnTbl tblEntry
  match ← ipaNatiPostDelDmaCmd ok t tblEntry expnTbl rulePos with
  | none => return (einval, c)
  | some t =>
      let t ← (ipaNatiDelDeadIpv4HeadNodes t).writeRuleId (ruleHdl - 1) invalidNatEntry
      return (0, { c with ip4Tbl := t })

end IpaNat
