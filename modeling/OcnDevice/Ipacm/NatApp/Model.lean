import OcnDevice.Core.Loop
import OcnDevice.Core.Run
import OcnDevice.Ipacm.NatApp.Driver

/-!
# NatApp

`NatApp` keeps a cache of NAT connections, with one slot for each rule that the NAT table has room
for.  A slot that is *enabled* has its rule in the table; the others are remembered for later.
Beside the cache there are `temp`, the connections whose client is not known yet, and `PwrSaveIfs`,
the clients that are in power save.

The functions below are the member functions of the class, on a state that consists of the object
and the driver.  `UpdateCTUdpTs` is the one of the `FEATURE_IPACM_HAL` build.
-/

namespace Ipacm

open IpaNat (IpaNatIpv4Rule)

/-- `MAX_TEMP_ENTRIES`. -/
def maxTempEntries : ℕ := 25

/-- `IPA_MAX_NUM_WIFI_CLIENTS`. -/
def ipaMaxNumWifiClients : ℕ := 32

/-! ## Data -/

/-- The five fields that tell connections apart. -/
structure Conn where
  privateIp : UInt32 := 0
  privatePort : UInt16 := 0
  targetIp : UInt32 := 0
  targetPort : UInt16 := 0
  protocol : UInt8 := 0
  deriving DecidableEq, Repr

/-- A `nat_table_entry`. -/
structure NatTableEntry where
  privateIp : UInt32 := 0
  privatePort : UInt16 := 0
  targetIp : UInt32 := 0
  targetPort : UInt16 := 0
  publicIp : UInt32 := 0
  publicPort : UInt16 := 0
  protocol : UInt8 := 0
  timestamp : UInt32 := 0
  dstNat : Bool := false
  enabled : Bool := false
  ruleHdl : ℕ := 0
  deriving DecidableEq, Repr

/-- The fields by which entries are compared. -/
def NatTableEntry.conn (e : NatTableEntry) : Conn where
  privateIp := e.privateIp
  privatePort := e.privatePort
  targetIp := e.targetIp
  targetPort := e.targetPort
  protocol := e.protocol

/-- The rule that is given to the driver for an entry. -/
def NatTableEntry.natRule (e : NatTableEntry) : IpaNatIpv4Rule where
  targetIp := e.targetIp
  privateIp := e.privateIp
  targetPort := e.targetPort
  privatePort := e.privatePort
  publicPort := e.publicPort
  protocol := e.protocol
  pdnIndex := 0

/-- None of the five fields is zero. -/
def Conn.Full (c : Conn) : Prop :=
  c.privateIp ≠ 0 ∧ c.targetIp ≠ 0 ∧ c.privatePort ≠ 0 ∧ c.targetPort ≠ 0 ∧ c.protocol ≠ 0

instance (c : Conn) : Decidable c.Full := by unfold Conn.Full; infer_instance

/-- An `ipacm_alg`. -/
structure IpacmAlg where
  protocol : UInt8
  port : UInt16
  deriving DecidableEq, Repr

/-- The members of `NatApp`. -/
structure NatApp where
  cache : ℕ → NatTableEntry
  temp : ℕ → NatTableEntry
  pubIpAddr : UInt32
  pubIpAddrPre : UInt32
  natTableHdl : ℕ
  curCnt : ℤ
  maxEntries : ℕ
  pALGPorts : List IpacmAlg
  pwrSaveIfs : ℕ → UInt32

/-- NatApp and the driver that it calls. -/
structure NatSys where
  app : NatApp
  ipa : IpaDrv

namespace NatApp

/-- Write a cache slot. -/
def setSlot (a : NatApp) (k : ℕ) (e : NatTableEntry) : NatApp :=
  { a with cache := Function.update a.cache k e }

/-- Clear a cache slot, and count one less. -/
def wipe (a : NatApp) (k : ℕ) : NatApp := { a.setSlot k {} with curCnt := a.curCnt - 1 }

/-- Write a slot that was free, and count one more. -/
def fill (a : NatApp) (k : ℕ) (e : NatTableEntry) : NatApp :=
  { a.setSlot k e with curCnt := a.curCnt + 1 }

/-- Write an entry of `temp`. -/
def setTemp (a : NatApp) (k : ℕ) (e : NatTableEntry) : NatApp :=
  { a with temp := Function.update a.temp k e }

/-- Write an entry of `PwrSaveIfs`. -/
def setPwrSaveIf (a : NatApp) (k : ℕ) (ip : UInt32) : NatApp :=
  { a with pwrSaveIfs := Function.update a.pwrSaveIfs k ip }

/-! ## Searches -/

/-- `ChkForDup`. -/
def chkForDup (a : NatApp) (rule : NatTableEntry) : Bool :=
  (List.range a.maxEntries).any fun cnt => (a.cache cnt).conn = rule.conn

/-- `isAlgPort`. -/
def isAlgPort (a : NatApp) (proto : UInt8) (port : UInt16) : Bool :=
  a.pALGPorts.any fun alg => proto = alg.protocol ∧ port = alg.port

/-- `isPwrSaveIf`. -/
def isPwrSaveIf (a : NatApp) (ipAddr : UInt32) : Bool :=
  (List.range ipaMaxNumWifiClients).any fun cnt =>
    a.pwrSaveIfs cnt ≠ 0 ∧ ipAddr = a.pwrSaveIfs cnt

/-- The first slot whose five fields are zero. -/
def freeSlot (a : NatApp) : Option ℕ :=
  firstIdx a.maxEntries fun cnt => (a.cache cnt).conn = {}

/-- Where a client is in `PwrSaveIfs`. -/
def pwrSaveIdx (a : NatApp) (ip : UInt32) : Option ℕ :=
  firstIdx ipaMaxNumWifiClients fun cnt => a.pwrSaveIfs cnt = ip

/-- `Reset`. -/
def reset (a : NatApp) : NatApp :=
  { a with
    natTableHdl := 0
    pubIpAddr := 0
    cache := fun cnt =>
      if cnt < a.maxEntries then { a.cache cnt with enabled := false } else a.cache cnt }

end NatApp

namespace NatSys

/-! ## Tables -/

/-- Give the rule of slot `cnt` to the driver.  If this fails the slot is cleared. -/
def reinstall (s : NatSys) (cnt : ℕ) : NatSys :=
  match s.ipa.ipaNatAddIpv4Rule s.app.natTableHdl (s.app.cache cnt).natRule with
  | (none, ipa) => { app := s.app.wipe cnt, ipa }
  | (some hdl, ipa) =>
      { app := s.app.setSlot cnt { s.app.cache cnt with ruleHdl := hdl, enabled := true }, ipa }

/-- One pass of the loop of `AddTable`. -/
def restoreEntry (cnt : ℕ) (s : NatSys) : NatSys :=
  if (s.app.cache cnt).privateIp ≠ 0 then s.reinstall cnt else s

/-- `AddTable`. -/
def addTable (s : NatSys) (pubIp : UInt32) : ℤ × NatSys :=
  match s.ipa.ipaNatAddIpv4Tbl pubIp s.app.maxEntries with
  | (ret, hdl, ipa) =>
      let s : NatSys := { app := { s.app with natTableHdl := hdl.getD s.app.natTableHdl }, ipa }
      if ret ≠ 0 then (ret, s)
      else
        let s := if pubIp = s.app.pubIpAddrPre then forUpTo s.app.maxEntries restoreEntry s else s
        (0, { s with app := { s.app with pubIpAddr := pubIp } })

/-- `DeleteTable`. -/
def deleteTable (s : NatSys) (pubIp : UInt32) : ℤ × NatSys :=
  if s.app.natTableHdl = 0 then (-1, s)
  else if s.app.pubIpAddr ≠ pubIp then (-1, s)
  else
    match s.ipa.ipaNatDelIpv4Tbl s.app.natTableHdl with
    | (ret, ipa) =>
        if ret ≠ 0 then (ret, { s with ipa })
        else (0, { app := NatApp.reset { s.app with pubIpAddrPre := s.app.pubIpAddr }, ipa })

/-! ## Entries -/

/-- `DeleteEntry`. -/
def deleteEntry (s : NatSys) (rule : NatTableEntry) : ℤ × NatSys :=
  match firstIdx s.app.maxEntries fun cnt => (s.app.cache cnt).conn = rule.conn with
  | none => (0, s)
  | some cnt =>
      if (s.app.cache cnt).enabled then
        -- whether the driver deleted the rule is only logged
        (0, { app := s.app.wipe cnt,
              ipa := (s.ipa.ipaNatDelIpv4Rule s.app.natTableHdl (s.app.cache cnt).ruleHdl).2 })
      else (0, { s with app := s.app.wipe cnt })

/-- What a slot holds for a rule that was given to `AddEntry`; `public_ip` stays as it was. -/
def entryOf (rule : NatTableEntry) (old : NatTableEntry) (enabled : Bool) (ruleHdl : ℕ) :
    NatTableEntry where
  privateIp := rule.privateIp
  privatePort := rule.privatePort
  targetIp := rule.targetIp
  targetPort := rule.targetPort
  publicIp := old.publicIp
  publicPort := rule.publicPort
  protocol := rule.protocol
  timestamp := 0
  dstNat := rule.dstNat
  enabled := enabled
  ruleHdl := ruleHdl

/-- `AddEntry`. -/
def addEntry (s : NatSys) (rule : NatTableEntry) : ℤ × NatSys :=
  if s.app.natTableHdl = 0 then (-1, s)
  else if s.app.isAlgPort rule.protocol rule.privatePort ∨
      s.app.isAlgPort rule.protocol rule.targetPort then (-1, s)
  else if ¬ rule.conn.Full then (0, s)
  else if s.app.chkForDup rule then (-1, s)
  else
    match s.app.freeSlot with
    | none => (-1, s)
    | some cnt =>
        if s.app.isPwrSaveIf rule.privateIp ∨ s.app.isPwrSaveIf rule.targetIp then
          (0, { s with app := s.app.fill cnt (entryOf rule (s.app.cache cnt) false 0) })
        else
          match s.ipa.ipaNatAddIpv4Rule s.app.natTableHdl rule.natRule with
          | (none, ipa) => (-1, { s with ipa })
          | (some hdl, ipa) =>
              (0, { app := s.app.fill cnt (entryOf rule (s.app.cache cnt) true hdl), ipa })

/-- `CacheEntry`. -/
def cacheEntry (s : NatSys) (rule : NatTableEntry) : NatSys :=
  if ¬ rule.conn.Full then s
  else if s.app.chkForDup rule then s
  else
    match s.app.freeSlot with
    | none => s
    | some cnt =>
        let e := entryOf rule (s.app.cache cnt) false 0
        { s with app := s.app.fill cnt { e with publicIp := rule.publicIp } }

/-- One pass of the loop of `UpdateUDPTimeStamp`, with the part of `UpdateCTUdpTs` that changes the
entry; `touInstance` says whether there is a `ConntrackTimeoutUpdater`. -/
def updateTimeStamp (touInstance : Bool) (cnt : ℕ) (s : NatSys) : NatSys :=
  if (s.app.cache cnt).enabled ∧ (s.app.cache cnt).privateIp ≠ (s.app.cache cnt).publicIp then
    match s.ipa.ipaNatQueryTimestamp s.app.natTableHdl (s.app.cache cnt).ruleHdl with
    | (none, ipa) => { s with ipa }
    | (some ts, ipa) =>
        if (s.app.cache cnt).timestamp = ts then { s with ipa }
        else if touInstance then
          { app := s.app.setSlot cnt { s.app.cache cnt with timestamp := ts }, ipa }
        else { s with ipa }
  else s

/-- `UpdateUDPTimeStamp`. -/
def updateUDPTimeStamp (s : NatSys) (touInstance : Bool) : NatSys :=
  forUpTo s.app.maxEntries (updateTimeStamp touInstance) s

/-! ## Power save -/

/-- Take the rule of an enabled slot out of the table and keep the connection.  `hdl` is what the
caller leaves in `rule_hdl`. -/
def disableEntry (s : NatSys) (cnt hdl : ℕ) : NatSys :=
  match s.ipa.ipaNatDelIpv4Rule s.app.natTableHdl (s.app.cache cnt).ruleHdl with
  | (false, ipa) => { s with ipa }
  | (true, ipa) =>
      { app := s.app.setSlot cnt { s.app.cache cnt with enabled := false, ruleHdl := hdl }, ipa }

/-- One pass of the second loop of `UpdatePwrSaveIf`. -/
def pwrSaveEntry (ip : UInt32) (cnt : ℕ) (s : NatSys) : NatSys :=
  if (s.app.cache cnt).privateIp = ip ∧ (s.app.cache cnt).enabled then s.disableEntry cnt 0 else s

/-- `UpdatePwrSaveIf`. -/
def updatePwrSaveIf (s : NatSys) (ip : UInt32) : ℤ × NatSys :=
  if ip = 0 then (-1, s)
  else if (s.app.pwrSaveIdx ip).isSome then (0, s)
  else
    let s := match s.app.pwrSaveIdx 0 with
      | none => s
      | some cnt => { s with app := s.app.setPwrSaveIf cnt ip }
    (0, forUpTo s.app.maxEntries (pwrSaveEntry ip) s)

/-- Take a client out of `PwrSaveIfs`. -/
def clearPwrSaveIf (s : NatSys) (ip : UInt32) : NatSys :=
  match s.app.pwrSaveIdx ip with
  | none => s
  | some cnt => { s with app := s.app.setPwrSaveIf cnt 0 }

/-- One pass of the second loop of `ResetPwrSaveIf`. -/
def pwrResetEntry (ip : UInt32) (cnt : ℕ) (s : NatSys) : NatSys :=
  if (s.app.cache cnt).privateIp = ip ∧ (s.app.cache cnt).enabled = false then s.reinstall cnt
  else s

/-- `ResetPwrSaveIf`. -/
def resetPwrSaveIf (s : NatSys) (ip : UInt32) : ℤ × NatSys :=
  if ip = 0 then (-1, s)
  else
    let s := s.clearPwrSaveIf ip
    (-1, forUpTo s.app.maxEntries (pwrResetEntry ip) s)

/-! ## Clients that disconnect -/

/-- One pass of the second loop of `DelEntriesOnClntDiscon`. -/
def clntDisconEntry (ip : UInt32) (cnt : ℕ) (s : NatSys) : NatSys :=
  if (s.app.cache cnt).privateIp = ip ∧ (s.app.cache cnt).enabled then
    s.disableEntry cnt (s.app.cache cnt).ruleHdl
  else s

/-- `DelEntriesOnClntDiscon`. -/
def delEntriesOnClntDiscon (s : NatSys) (ip : UInt32) : ℤ × NatSys :=
  if ip = 0 then (-1, s)
  else
    let s := s.clearPwrSaveIf ip
    (0, forUpTo s.app.maxEntries (clntDisconEntry ip) s)

/-- One pass of the loop of `DelEntriesOnSTAClntDiscon`. -/
def staDisconEntry (ip : UInt32) (cnt : ℕ) (s : NatSys) : NatSys :=
  if (s.app.cache cnt).targetIp = ip then
    if (s.app.cache cnt).enabled then
      match s.ipa.ipaNatDelIpv4Rule s.app.natTableHdl (s.app.cache cnt).ruleHdl with
      | (false, ipa) => { s with ipa }
      | (true, ipa) => { app := s.app.wipe cnt, ipa }
    else { s with app := s.app.wipe cnt }
  else s

/-- `DelEntriesOnSTAClntDiscon`. -/
def delEntriesOnSTAClntDiscon (s : NatSys) (ip : UInt32) : ℤ × NatSys :=
  if ip = 0 then (-1, s) else (0, forUpTo s.app.maxEntries (staDisconEntry ip) s)

/-! ## Temporary entries -/

/-- `AddTempEntry`. -/
def addTempEntry (s : NatSys) (newEntry : NatTableEntry) : NatSys :=
  if s.app.isAlgPort newEntry.protocol newEntry.privatePort ∨
      s.app.isAlgPort newEntry.protocol newEntry.targetPort then s
  else if s.app.chkForDup newEntry then s
  else if ((List.range maxTempEntries).any fun cnt => (s.app.temp cnt).conn = newEntry.conn) then s
  else
    match firstIdx maxTempEntries fun cnt =>
        (s.app.temp cnt).privateIp = 0 ∧ (s.app.temp cnt).targetIp = 0 with
    | none => s
    | some cnt => { s with app := s.app.setTemp cnt newEntry }

/-- `DeleteTempEntry`. -/
def deleteTempEntry (s : NatSys) (entry : NatTableEntry) : NatSys :=
  match firstIdx maxTempEntries fun cnt => (s.app.temp cnt).conn = entry.conn with
  | none => s
  | some cnt => { s with app := s.app.setTemp cnt {} }

/-- The dummy rule of a temporary entry: the public address and port take the place of the private
ones. -/
def dummyOf (e : NatTableEntry) : NatTableEntry :=
  { e with privateIp := e.publicIp, privatePort := e.publicPort }

/-- One pass of the loop of `FlushTempEntries`. -/
def flushEntry (ip : UInt32) (isAdd isDummy : Bool) (cnt : ℕ) (s : NatSys) : NatSys :=
  if (s.app.temp cnt).privateIp = ip ∨ (s.app.temp cnt).targetIp = ip then
    if isAdd ∧ (s.app.temp cnt).publicIp = s.app.pubIpAddr then
      let s : NatSys :=
        if isDummy then { s with app := s.app.setTemp cnt (dummyOf (s.app.temp cnt)) } else s
      match s.addEntry (s.app.temp cnt) with
      | (ret, s) => if ret ≠ 0 then s else { s with app := s.app.setTemp cnt {} }
    else { s with app := s.app.setTemp cnt {} }
  else s

/-- `FlushTempEntries`. -/
def flushTempEntries (s : NatSys) (ip : UInt32) (isAdd isDummy : Bool) : NatSys :=
  forUpTo maxTempEntries (flushEntry ip isAdd isDummy) s

end NatSys

/-! ## Runs -/

/-- A call of a public member function. -/
inductive NatOp
  | addTable (pubIp : UInt32)
  | deleteTable (pubIp : UInt32)
  | addEntry (rule : NatTableEntry)
  | deleteEntry (rule : NatTableEntry)
  | cacheEntry (rule : NatTableEntry)
  | updateUDPTimeStamp (touInstance : Bool)
  | updatePwrSaveIf (ip : UInt32)
  | resetPwrSaveIf (ip : UInt32)
  | delEntriesOnClntDiscon (ip : UInt32)
  | delEntriesOnSTAClntDiscon (ip : UInt32)
  | addTempEntry (rule : NatTableEntry)
  | deleteTempEntry (rule : NatTableEntry)
  | flushTempEntries (ip : UInt32) (isAdd isDummy : Bool)
  deriving DecidableEq, Repr

/-- What a call returns, with zero for a function that returns nothing, and the state behind it. -/
def NatOp.call (s : NatSys) : NatOp → ℤ × NatSys
  | .addTable pubIp => s.addTable pubIp
  | .deleteTable pubIp => s.deleteTable pubIp
  | .addEntry rule => s.addEntry rule
  | .deleteEntry rule => s.deleteEntry rule
  | .cacheEntry rule => (0, s.cacheEntry rule)
  | .updateUDPTimeStamp touInstance => (0, s.updateUDPTimeStamp touInstance)
  | .updatePwrSaveIf ip => s.updatePwrSaveIf ip
  | .resetPwrSaveIf ip => s.resetPwrSaveIf ip
  | .delEntriesOnClntDiscon ip => s.delEntriesOnClntDiscon ip
  | .delEntriesOnSTAClntDiscon ip => s.delEntriesOnSTAClntDiscon ip
  | .addTempEntry rule => (0, s.addTempEntry rule)
  | .deleteTempEntry rule => (0, s.deleteTempEntry rule)
  | .flushTempEntries ip isAdd isDummy => (0, s.flushTempEntries ip isAdd isDummy)

/-- One call. -/
def NatOp.Step (s : NatSys) (op : NatOp) (s' : NatSys) : Prop := (op.call s).2 = s'

/-- The state behind `Init`, with no table and an empty cache.  The constructor leaves
`pub_ip_addr_pre` and `PwrSaveIfs` as it finds them, and the replies of the driver are any. -/
def NatSys.init (maxEntries : ℕ) (pALGPorts : List IpacmAlg) (pubIpAddrPre : UInt32)
    (pwrSaveIfs : ℕ → UInt32) (replies : ℕ → Reply) : NatSys where
  app :=
    { cache := fun _ => {}
      temp := fun _ => {}
      pubIpAddr := 0
      pubIpAddrPre
      natTableHdl := 0
      curCnt := 0
      maxEntries
      pALGPorts
      pwrSaveIfs }
  ipa := { tblHdl := 0, publicIp := 0, rules := [], replies }

/-- A state that NatApp starts from. -/
def NatSys.Init (s : NatSys) : Prop :=
  ∃ maxEntries pALGPorts pubIpAddrPre pwrSaveIfs replies,
    s = NatSys.init maxEntries pALGPorts pubIpAddrPre pwrSaveIfs replies

/-- The state behind calls made one after another. -/
def NatSys.callAll (s : NatSys) (ops : List NatOp) : NatSys :=
  ops.foldl (fun s op => (op.call s).2) s

lemma NatSys.run_callAll (s : NatSys) (ops : List NatOp) : Run NatOp.Step s ops (s.callAll ops) := by
  induction ops generalizing s with
  | nil => exact .nil s
  | cons op ops ih => exact .cons rfl (ih _)

end Ipacm
