import OcnDevice.Core.Bytes
import OcnDevice.Gps.Tracking.Model

/-!
# The response to an update of the configuration

`gnssUpdateConfigCommand` takes an id for every bit that is set in the flags, and posts a message.
When it is processed, ten blocks look at one flag each, from the low bits to the high ones; a block
whose flag is set does its part and writes an error into the next place of the response.  All of
them share one variable for the error.

A block that does not set the variable reports the error of the block before it.  That is so for the
address of a SUPL server which is known already, and only there (`proc_err`).  Apart from that the
blocks do not see each other (`proc_frame`), as each keeps its own part of the configuration.

* `errors_rest` — the errors of the blocks that set the variable, by induction on them.
* `countBits_eq` — the loop that counts the flags.
-/

namespace Gps.Gnss

/-- `LocationError`. -/
inductive LocationError
  | success
  | generalFailure
  | callbackMissing
  | invalidParameter
  | idExists
  | idUnknown
  | alreadyStarted
  | geofencesAtMax
  | notSupported
  deriving DecidableEq, Repr

/-! ## The configuration -/

/-- `GnssConfigSetAssistanceServer`; without a host name the pointer is null. -/
structure GnssConfigSetAssistanceServer where
  type : ℕ
  hostName : Option (List Char)
  port : ℕ
  deriving DecidableEq, Repr

/-- `GnssConfig`. -/
structure GnssConfig where
  flags : BitVec 32
  gpsLock : ℕ
  suplVersion : ℕ
  assistanceServer : GnssConfigSetAssistanceServer
  lppProfile : ℕ
  lppeControlPlaneMask : BitVec 16
  lppeUserPlaneMask : BitVec 16
  aGlonassPositionProtocolMask : BitVec 16
  emergencyPdnForEmergencySupl : ℕ
  suplEmergencyServices : ℕ
  suplModeMask : BitVec 16
  deriving DecidableEq, Repr

/-- What the calls of the engine report, and what the system resolves a host name to. -/
structure LocApiBase where
  setGpsLock : ℕ → LocationError
  setSUPLVersion : ℕ → LocationError
  setServerUrl : List Char → ℕ → LocationError
  setServerIp : BitVec 32 → ℕ → LocationError
  setLPPConfig : ℕ → LocationError
  setLPPeProtocolCp : BitVec 16 → LocationError
  setLPPeProtocolUp : BitVec 16 → LocationError
  setAGLONASSProtocol : BitVec 16 → LocationError
  resolveInAddress : Option (List Char) → Option (BitVec 32)

/-- `GnssAdapter` and `ContextBase::mGps_conf`, as far as the message uses them. -/
structure GnssAdapter where
  gpsLock : ℕ
  suplVer : ℕ
  lppProfile : ℕ
  lppeCpTechnology : ℕ
  lppeUpTechnology : ℕ
  aGlonassPosProtocolSelect : ℕ
  useEmergencyPdnForEmergencySupl : ℕ
  suplEs : ℕ
  suplMode : ℕ
  agpsConfigInject : Bool
  /-- `mPowerVoteId`. -/
  powerVoteId : ℕ
  /-- `mServerUrl`. -/
  serverUrl : List Char
  deriving DecidableEq, Repr

/-! ### Conversions -/

/-- `convertGpsLock`. -/
def convertGpsLock : ℕ → ℕ
  | 1 => 1
  | 2 => 2
  | 3 => 3
  | _ => 0

/-- `convertSuplVersion`. -/
def convertSuplVersion : ℕ → ℕ
  | 2 => 0x00020000
  | 3 => 0x00020002
  | _ => 0x00010000

/-- `convertLppProfile`. -/
def convertLppProfile : ℕ → ℕ
  | 1 => 1
  | 2 => 2
  | 3 => 3
  | _ => 0

/-- The first bits of a mask, one after another. -/
def convertMask (n : ℕ) (mask : BitVec 16) : ℕ :=
  (List.range n).foldl (fun out i => if mask.getLsbD i then out ||| 1 <<< i else out) 0

/-- `convertLppeCp`. -/
def convertLppeCp : BitVec 16 → ℕ := convertMask 4

/-- `convertLppeUp`. -/
def convertLppeUp : BitVec 16 → ℕ := convertMask 4

/-- `convertAGloProt`. -/
def convertAGloProt : BitVec 16 → ℕ := convertMask 4

/-- `convertSuplMode`. -/
def convertSuplMode : BitVec 16 → ℕ := convertMask 2

/-- `convertEP4ES`. -/
def convertEP4ES (yes : ℕ) : ℕ := if yes = 1 then 1 else 0

/-- `convertSuplEs`. -/
def convertSuplEs (yes : ℕ) : ℕ := if yes = 1 then 1 else 0

/-- `strncasecmp` finds no difference. -/
def strncasecmpEq (n : ℕ) (a b : List Char) : Bool :=
  (a.take n).map Char.toLower = (b.take n).map Char.toLower

/-- `MAX_URL_LEN`. -/
def maxUrlLen : ℕ := 256

/-- What `snprintf` prints for the server, and how long it would be. -/
def printUrl (hostName : List Char) (port : ℕ) : List Char × ℕ :=
  let text := hostName ++ ':' :: Nat.toDigits 10 port
  (text.take (maxUrlLen - 1), text.length)

/-! ## The blocks -/

/-- What a flag stands for, from the low bits to the high ones. -/
inductive ConfigItem
  | gpsLock
  | suplVersion
  | assistanceData
  | lppProfile
  | lppeControlPlane
  | lppeUserPlane
  | aGlonassPositionProtocol
  | emPdnForEmSupl
  | suplEmServices
  | suplMode
  deriving DecidableEq, Repr

/-- The items in the order of the blocks. -/
def ConfigItem.all : List ConfigItem :=
  [.gpsLock, .suplVersion, .assistanceData, .lppProfile, .lppeControlPlane, .lppeUserPlane,
    .aGlonassPositionProtocol, .emPdnForEmSupl, .suplEmServices, .suplMode]

/-- The bit of the flags. -/
def ConfigItem.bit : ConfigItem → ℕ
  | .gpsLock => 0
  | .suplVersion => 1
  | .assistanceData => 2
  | .lppProfile => 3
  | .lppeControlPlane => 4
  | .lppeUserPlane => 5
  | .aGlonassPositionProtocol => 6
  | .emPdnForEmSupl => 7
  | .suplEmServices => 8
  | .suplMode => 9

/-- The flag of an item is set. -/
def GnssConfig.flagged (c : GnssConfig) (i : ConfigItem) : Bool := c.flags.getLsbD i.bit

section Blocks

variable (api : LocApiBase) (c : GnssConfig) (err : LocationError) (a : GnssAdapter)

/-- A value is stored and given to the engine if it is new and may be given. -/
def update (old new : ℕ) (inject : Bool) (result : LocationError) : LocationError × ℕ :=
  if new ≠ old ∧ inject then (result, new) else (.success, old)

/-- `GNSS_CONFIG_FLAGS_GPS_LOCK_VALID_BIT`. -/
def procGpsLock : LocationError × GnssAdapter :=
  (if a.powerVoteId = 0 then api.setGpsLock c.gpsLock else err,
    { a with gpsLock := convertGpsLock c.gpsLock })

/-- `GNSS_CONFIG_FLAGS_SUPL_VERSION_VALID_BIT`. -/
def procSuplVersion : LocationError × GnssAdapter :=
  let r := update a.suplVer (convertSuplVersion c.suplVersion) a.agpsConfigInject
    (api.setSUPLVersion c.suplVersion)
  (r.1, { a with suplVer := r.2 })

/-- The host is missing, or named `NONE`. -/
def noHost (hostName : Option (List Char)) : Bool :=
  hostName.all fun host => strncasecmpEq 5 "NONE".toList host

/-- `GNSS_ASSISTANCE_TYPE_SUPL`, when it may be given to the engine. -/
def procSuplServer : LocationError × GnssAdapter :=
  let host := c.assistanceServer.hostName
  let r : LocationError × List Char × ℕ :=
    if noHost host then (.invalidParameter, [], 0)
    else (err, printUrl (host.getD []) c.assistanceServer.port)
  if 0 < r.2.2 ∧ !strncasecmpEq maxUrlLen a.serverUrl r.2.1 then
    (api.setServerUrl r.2.1 r.2.2, { a with serverUrl := r.2.1 })
  else (r.1, a)

/-- `GNSS_CONFIG_FLAGS_SET_ASSISTANCE_DATA_VALID_BIT`. -/
def procAssistanceData : LocationError × GnssAdapter :=
  match c.assistanceServer.type with
  | 0 => if a.agpsConfigInject then procSuplServer api c err a else (.success, a)
  | 1 =>
      if a.agpsConfigInject then
        match api.resolveInAddress c.assistanceServer.hostName with
        | none => (.invalidParameter, a)
        | some addr => (api.setServerIp (Bytes.htonl addr) c.assistanceServer.port, a)
      else (.success, a)
  | _ => (.invalidParameter, a)

/-- `GNSS_CONFIG_FLAGS_LPP_PROFILE_VALID_BIT`. -/
def procLppProfile : LocationError × GnssAdapter :=
  let r := update a.lppProfile (convertLppProfile c.lppProfile) a.agpsConfigInject
    (api.setLPPConfig c.lppProfile)
  (r.1, { a with lppProfile := r.2 })

/-- `GNSS_CONFIG_FLAGS_LPPE_CONTROL_PLANE_VALID_BIT`. -/
def procLppeControlPlane : LocationError × GnssAdapter :=
  let r := update a.lppeCpTechnology (convertLppeCp c.lppeControlPlaneMask) true
    (api.setLPPeProtocolCp c.lppeControlPlaneMask)
  (r.1, { a with lppeCpTechnology := r.2 })

/-- `GNSS_CONFIG_FLAGS_LPPE_USER_PLANE_VALID_BIT`. -/
def procLppeUserPlane : LocationError × GnssAdapter :=
  let r := update a.lppeUpTechnology (convertLppeUp c.lppeUserPlaneMask) true
    (api.setLPPeProtocolUp c.lppeUserPlaneMask)
  (r.1, { a with lppeUpTechnology := r.2 })

/-- `GNSS_CONFIG_FLAGS_AGLONASS_POSITION_PROTOCOL_VALID_BIT`. -/
def procAGlonassPositionProtocol : LocationError × GnssAdapter :=
  let r := update a.aGlonassPosProtocolSelect (convertAGloProt c.aGlonassPositionProtocolMask)
    a.agpsConfigInject (api.setAGLONASSProtocol c.aGlonassPositionProtocolMask)
  (r.1, { a with aGlonassPosProtocolSelect := r.2 })

/-- `GNSS_CONFIG_FLAGS_EM_PDN_FOR_EM_SUPL_VALID_BIT`: nothing is given to the engine. -/
def procEmPdnForEmSupl : LocationError × GnssAdapter :=
  let r := update a.useEmergencyPdnForEmergencySupl (convertEP4ES c.emergencyPdnForEmergencySupl)
    true .success
  (r.1, { a with useEmergencyPdnForEmergencySupl := r.2 })

/-- `GNSS_CONFIG_FLAGS_SUPL_EM_SERVICES_BIT`. -/
def procSuplEmServices : LocationError × GnssAdapter :=
  let r := update a.suplEs (convertSuplEs c.suplEmergencyServices) true .success
  (r.1, { a with suplEs := r.2 })

/-- `GNSS_CONFIG_FLAGS_SUPL_MODE_BIT`, without the broadcast of the capabilities. -/
def procSuplMode : LocationError × GnssAdapter :=
  let r := update a.suplMode (convertSuplMode c.suplModeMask) true .success
  (r.1, { a with suplMode := r.2 })

/-- The block of an item: the error variable and the adapter before and after. -/
def ConfigItem.proc : ConfigItem → LocationError × GnssAdapter
  | .gpsLock => procGpsLock api c err a
  | .suplVersion => procSuplVersion api c a
  | .assistanceData => procAssistanceData api c err a
  | .lppProfile => procLppProfile api c a
  | .lppeControlPlane => procLppeControlPlane api c a
  | .lppeUserPlane => procLppeUserPlane api c a
  | .aGlonassPositionProtocol => procAGlonassPositionProtocol api c a
  | .emPdnForEmSupl => procEmPdnForEmSupl c a
  | .suplEmServices => procSuplEmServices c a
  | .suplMode => procSuplMode c a

end Blocks

/-! ## The command and its message -/

/-- The loop that counts the bits of the flags. -/
def countBits (flags : ℕ) : ℕ :=
  if flags = 0 then 0 else (if flags % 2 = 1 then 1 else 0) + countBits (flags / 2)
  termination_by flags

/-- `mCount`. -/
def GnssConfig.count (c : GnssConfig) : ℕ := countBits c.flags.toNat

/-- So many ids from the counter. -/
def generateSessionIds (counter : ℕ) : ℕ → List ℕ
  | 0 => []
  | n + 1 =>
      let id := Tracking.generateSessionId counter
      id :: generateSessionIds id n

/-- `gnssUpdateConfigCommand`: the ids that are returned and given to the message, if any. -/
def gnssUpdateConfigCommand (counter : ℕ) (c : GnssConfig) : Option (List ℕ) :=
  if 0 < c.count then some (generateSessionIds counter c.count) else none

/-- The variables of the message while it is processed. -/
structure Reply where
  err : LocationError
  adapter : GnssAdapter
  /-- The places of `errs` that have been written. -/
  errs : List LocationError

section Message

variable (api : LocApiBase) (c : GnssConfig)

/-- One block. -/
def block (r : Reply) (i : ConfigItem) : Reply :=
  if c.flagged i then
    let p := i.proc api c r.err r.adapter
    ⟨p.1, p.2, if r.errs.length < c.count then r.errs ++ [p.1] else r.errs⟩
  else r

/-- `MsgGnssUpdateConfig::proc`, up to the response. -/
def procBlocks (a : GnssAdapter) : Reply := ConfigItem.all.foldl (block api c) ⟨.success, a, []⟩

/-- The errors of the response. -/
def errors (a : GnssAdapter) : List LocationError := (procBlocks api c a).errs

/-- `reportResponse`: the pairs that the collective response holds. -/
def response (a : GnssAdapter) (ids : List ℕ) : List (ℕ × LocationError) :=
  (ids.take (errors api c a).length).zip (errors api c a)

end Message

/-! ## The count of the flags -/

/-- **The loop counts the bits that are set.**  By induction on the number of places. -/
lemma countBits_eq {n k : ℕ} (h : n < 2 ^ k) :
    countBits n = ((List.range k).filter n.testBit).length := by
  induction k generalizing n with
  | zero =>
      have hn : n = 0 := by omega
      rw [hn, countBits, if_pos rfl]
      rfl
  | succ k ih =>
      have hhalf : ((List.range k).filter (n.testBit ∘ Nat.succ)).length = countBits (n / 2) := by
        rw [ih (by omega)]
        exact congrArg List.length (List.filter_congr fun i _ => Nat.testBit_succ n i)
      rw [List.range_succ_eq_map, List.filter_cons, List.filter_map, countBits]
      by_cases hn : n = 0
      · subst hn
        simp [Function.comp_def]
      · rw [if_neg hn, ← hhalf, Nat.testBit_zero]
        by_cases hodd : n % 2 = 1
        · simp [hodd, Nat.add_comm]
        · simp [hodd]

/-- The items that are flagged, in the order of the bits. -/
def GnssConfig.items (c : GnssConfig) : List ConfigItem := ConfigItem.all.filter c.flagged

/-- The flagged items are the bits that are set among the first ten. -/
lemma length_items (c : GnssConfig) :
    c.items.length = ((List.range 10).filter c.flags.toNat.testBit).length := by
  have hbits : List.range 10 = ConfigItem.all.map ConfigItem.bit := rfl
  rw [hbits, List.filter_map, List.length_map]
  rfl

lemma count_of_lt {c : GnssConfig} (h : c.flags.toNat < 2 ^ 10) : c.count = c.items.length := by
  rw [GnssConfig.count, countBits_eq h, length_items]

/-- A bit that stands for nothing is counted all the same. -/
lemma items_lt_count {c : GnssConfig} (h : ¬c.flags.toNat < 2 ^ 10) : c.items.length < c.count := by
  obtain ⟨i, hi, hbit⟩ := Nat.exists_ge_and_testBit_of_ge_two_pow (not_lt.mp h)
  have hi32 : i < 32 := by
    by_contra hge
    have hlt : c.flags.toNat < 2 ^ i :=
      c.flags.isLt.trans_le (Nat.pow_le_pow_right (by omega) (by omega))
    rw [Nat.testBit_lt_two_pow hlt] at hbit
    cases hbit
  have hsplit : List.range 32 = List.range 10 ++ List.range' 10 22 := by decide
  have hpos : 0 < ((List.range' 10 22).filter c.flags.toNat.testBit).length := by
    refine List.length_pos_of_mem (a := i) (List.mem_filter.mpr ⟨?_, hbit⟩)
    rw [List.mem_range'_1]
    omega
  rw [GnssConfig.count, countBits_eq c.flags.isLt, length_items, hsplit, List.filter_append,
    List.length_append]
  omega

lemma items_le_count (c : GnssConfig) : c.items.length ≤ c.count := by
  by_cases h : c.flags.toNat < 2 ^ 10
  · exact (count_of_lt h).ge
  · exact (items_lt_count h).le

lemma length_generateSessionIds (counter n : ℕ) : (generateSessionIds counter n).length = n := by
  induction n generalizing counter with
  | zero => rfl
  | succ n ih => rw [generateSessionIds, List.length_cons, ih]

/-! ## What the blocks see of each other -/

section Message

variable {api : LocApiBase} {c : GnssConfig} {a : GnssAdapter} {i j : ConfigItem}
  {err err' : LocationError} {is : List ConfigItem}

/-- The address of the SUPL server is the one that is known already. -/
def GnssConfig.UnchangedUrl (c : GnssConfig) (a : GnssAdapter) : Prop :=
  c.assistanceServer.type = 0 ∧ a.agpsConfigInject = true ∧
    noHost c.assistanceServer.hostName = false ∧
    strncasecmpEq maxUrlLen a.serverUrl
      (printUrl (c.assistanceServer.hostName.getD []) c.assistanceServer.port).1 = true

lemma procAssistanceData_unchanged (h : c.UnchangedUrl a) :
    (procAssistanceData api c err a).1 = err := by
  obtain ⟨htype, hinject, hhost, hurl⟩ := h
  simp [procAssistanceData, procSuplServer, htype, hinject, hhost, hurl]

/-- Any other server sets the error variable. -/
lemma procAssistanceData_err (h : ¬c.UnchangedUrl a) :
    (procAssistanceData api c err a).1 = (procAssistanceData api c err' a).1 := by
  rw [procAssistanceData, procAssistanceData]
  split
  · rename_i htype
    by_cases hinject : a.agpsConfigInject = true
    · rw [if_pos hinject, if_pos hinject, procSuplServer, procSuplServer]
      cases hhost : noHost c.assistanceServer.hostName with
      | true => simp
      | false =>
          have hurl : strncasecmpEq maxUrlLen a.serverUrl (printUrl
              (c.assistanceServer.hostName.getD []) c.assistanceServer.port).1 = false :=
            Bool.eq_false_iff.mpr fun hurl => h ⟨htype, hinject, hhost, hurl⟩
          have hlength : 0 < (printUrl (c.assistanceServer.hostName.getD [])
              c.assistanceServer.port).2 := by
            simp [printUrl]
          simp [hurl, hlength]
    · rw [if_neg hinject, if_neg hinject]
  · rfl
  · rfl

/-- The server block looks at two parts of the adapter. -/
lemma procAssistanceData_congr {b : GnssAdapter} (hinject : b.agpsConfigInject = a.agpsConfigInject)
    (hurl : b.serverUrl = a.serverUrl) :
    (procAssistanceData api c err b).1 = (procAssistanceData api c err a).1 := by
  simp only [procAssistanceData, procSuplServer, hinject, hurl]
  repeat' split
  all_goals rfl

/-- Only the server address is changed. -/
lemma procAssistanceData_adapter (api : LocApiBase) (c : GnssConfig) (err : LocationError)
    (a : GnssAdapter) :
    ∃ url, (procAssistanceData api c err a).2 = { a with serverUrl := url } := by
  simp only [procAssistanceData, procSuplServer]
  repeat' split
  all_goals exact ⟨_, rfl⟩

/-- **Which error is reported does not depend on the variable**, the first block and the server that
is known already apart. -/
lemma proc_err (hlock : i ≠ .gpsLock) (hurl : i = .assistanceData → ¬c.UnchangedUrl a) :
    (i.proc api c err a).1 = (i.proc api c err' a).1 := by
  cases i with
  | gpsLock => exact absurd rfl hlock
  | assistanceData => exact procAssistanceData_err (hurl rfl)
  | _ => rfl

/-- **A block does not see what another has done to the adapter.** -/
lemma proc_frame (h : i ≠ j) :
    (j.proc api c err (i.proc api c err' a).2).1 = (j.proc api c err a).1 := by
  cases i with
  | assistanceData =>
      obtain ⟨url, hurl⟩ := procAssistanceData_adapter api c err' a
      rw [ConfigItem.proc, hurl]
      cases j <;> first | exact absurd rfl h | rfl
  | _ =>
      cases j with
      | assistanceData => exact procAssistanceData_congr rfl rfl
      | _ => first | exact absurd rfl h | rfl

/-! ## The errors of the blocks -/

/-- The errors that a list of blocks reports, each with the variable as the one before left it. -/
def errorsFrom (api : LocApiBase) (c : GnssConfig) (a : GnssAdapter) (err : LocationError) :
    List ConfigItem → List LocationError
  | [] => []
  | i :: is =>
      if c.flagged i then
        (i.proc api c err a).1 :: errorsFrom api c a (i.proc api c err a).1 is
      else errorsFrom api c a err is

lemma errorsFrom_frame (hi : i ∉ is) :
    errorsFrom api c (i.proc api c err' a).2 err is = errorsFrom api c a err is := by
  induction is generalizing err with
  | nil => rfl
  | cons j is ih =>
      rw [List.mem_cons, not_or] at hi
      simp only [errorsFrom, proc_frame hi.1, ih hi.2]

lemma block_flagged {r : Reply} (hi : c.flagged i = true) (hroom : r.errs.length < c.count) :
    block api c r i = ⟨(i.proc api c r.err r.adapter).1, (i.proc api c r.err r.adapter).2,
      r.errs ++ [(i.proc api c r.err r.adapter).1]⟩ := by
  simp only [block, if_pos hi, if_pos hroom]

/-- The places that are written, while there are enough of them. -/
lemma errs_foldl {r : Reply} (hnodup : is.Nodup)
    (hroom : r.errs.length + (is.filter c.flagged).length ≤ c.count) :
    (is.foldl (block api c) r).errs = r.errs ++ errorsFrom api c r.adapter r.err is := by
  induction is generalizing r with
  | nil => simp [errorsFrom]
  | cons i is ih =>
      rw [List.foldl_cons, errorsFrom]
      rw [List.filter_cons] at hroom
      by_cases hi : c.flagged i = true
      · rw [if_pos hi, List.length_cons] at hroom
        rw [block_flagged hi (by omega), if_pos hi, ih hnodup.of_cons, List.append_assoc]
        · exact congrArg _ (congrArg _ (errorsFrom_frame (List.nodup_cons.mp hnodup).1))
        · rw [List.length_append, List.length_singleton]
          omega
      · rw [if_neg hi] at hroom
        rw [block, if_neg hi, if_neg hi, ih hnodup.of_cons hroom]

lemma errors_eq : errors api c a = errorsFrom api c a .success ConfigItem.all := by
  have hroom : ([] : List LocationError).length + (ConfigItem.all.filter c.flagged).length ≤
      c.count := by
    rw [List.length_nil, Nat.zero_add]
    exact items_le_count c
  exact errs_foldl (r := ⟨.success, a, []⟩) (by decide) hroom

/-- Blocks that set the variable. -/
lemma errorsFrom_rest (hrest : ∀ i ∈ is, i ≠ .gpsLock ∧ i ≠ .assistanceData) :
    errorsFrom api c a err is =
      (is.filter c.flagged).map fun i => (i.proc api c .success a).1 := by
  induction is generalizing err with
  | nil => rfl
  | cons i is ih =>
      have hi := hrest i (by simp)
      rw [errorsFrom, List.filter_cons]
      split_ifs
      · rw [List.map_cons, ih fun j hj => hrest j (List.mem_cons_of_mem _ hj),
          proc_err hi.1 fun h => absurd h hi.2]
      · exact ih fun j hj => hrest j (List.mem_cons_of_mem _ hj)

/-- The items behind the server. -/
def ConfigItem.rest : List ConfigItem :=
  [.lppProfile, .lppeControlPlane, .lppeUserPlane, .aGlonassPositionProtocol, .emPdnForEmSupl,
    .suplEmServices, .suplMode]

/-- The error variable in front of the third block. -/
def GnssConfig.precedingError (c : GnssConfig) (api : LocApiBase) (a : GnssAdapter) :
    LocationError :=
  if c.flagged .suplVersion then
    (update a.suplVer (convertSuplVersion c.suplVersion) a.agpsConfigInject
      (api.setSUPLVersion c.suplVersion)).1
  else if c.flagged .gpsLock ∧ a.powerVoteId = 0 then api.setGpsLock c.gpsLock
  else .success

/-- What every item reports when the variable is in order. -/
def itemErrors (api : LocApiBase) (c : GnssConfig) (a : GnssAdapter) : List LocationError :=
  c.items.map fun i => (i.proc api c .success a).1

/-- **The errors are those of the items**, unless a server that is known already takes over an error
of the block before it. -/
lemma errors_eq_itemErrors_iff : errors api c a = itemErrors api c a ↔
    (c.flagged .assistanceData = true → c.UnchangedUrl a → c.precedingError api a = .success) := by
  have hrest : ∀ e, errorsFrom api c a e ConfigItem.rest =
      (ConfigItem.rest.filter c.flagged).map fun i => (i.proc api c .success a).1 :=
    fun e => errorsFrom_rest (by decide)
  have hall : ConfigItem.all =
      [ConfigItem.gpsLock, .suplVersion] ++ .assistanceData :: ConfigItem.rest := rfl
  have hchain : errors api c a =
      (([.gpsLock, .suplVersion] : List ConfigItem).filter c.flagged).map
        (fun i => (i.proc api c .success a).1) ++
      errorsFrom api c a (c.precedingError api a) (.assistanceData :: ConfigItem.rest) := by
    rw [errors_eq, hall, GnssConfig.precedingError]
    cases hlock : c.flagged .gpsLock <;> cases hsupl : c.flagged .suplVersion <;>
      simp [errorsFrom, hlock, hsupl, ConfigItem.proc, procGpsLock, procSuplVersion]
  rw [hchain, itemErrors, GnssConfig.items, hall, List.filter_append, List.map_append,
    List.append_right_inj, errorsFrom, hrest, hrest, List.filter_cons]
  by_cases hflag : c.flagged .assistanceData = true
  · rw [if_pos hflag, if_pos hflag, List.map_cons, List.cons.injEq, and_iff_left rfl]
    change (procAssistanceData api c (c.precedingError api a) a).1 =
      (procAssistanceData api c .success a).1 ↔ _
    by_cases hurl : c.UnchangedUrl a
    · rw [procAssistanceData_unchanged hurl, procAssistanceData_unchanged hurl]
      exact ⟨fun h _ _ => h, fun h => h hflag hurl⟩
    · exact iff_of_true (procAssistanceData_err hurl) fun _ h => absurd h hurl
  · rw [if_neg hflag, if_neg hflag]
    exact iff_of_true rfl fun h => absurd h hflag

/-! ## Each item alone -/

/-- The same configuration with the flag of one item only. -/
def GnssConfig.alone (c : GnssConfig) (i : ConfigItem) : GnssConfig :=
  { c with flags := 1#32 <<< i.bit }

lemma flagged_alone : (c.alone i).flagged j = decide (i = j) := by
  change (1#32 <<< i.bit).getLsbD j.bit = _
  cases i <;> cases j <;> decide

/-- An item that is alone reports what it reports when the variable is in order. -/
lemma errors_alone : errors api (c.alone i) a = [(i.proc api c .success a).1] := by
  rw [errors_eq]
  cases i <;> simp [errorsFrom, ConfigItem.all, flagged_alone] <;> rfl

end Message

/-! ## The response -/

/-- The response has one pair for every id that was returned, in their order, and its errors are
those that each flagged item reports when it is given alone. -/
structure Answered (api : LocApiBase) (c : GnssConfig) (a : GnssAdapter) (ids : List ℕ) : Prop where
  ids_eq : (response api c a ids).map Prod.fst = ids
  errors_eq : (response api c a ids).map Prod.snd =
    c.items.flatMap fun i => errors api (c.alone i) a

section Response

variable {api : LocApiBase} {c : GnssConfig} {a : GnssAdapter} {ids : List ℕ}

lemma length_errors : (errors api c a).length = c.items.length := by
  have hlength : ∀ (is : List ConfigItem) (err : LocationError),
      (errorsFrom api c a err is).length = (is.filter c.flagged).length := by
    intro is
    induction is with
    | nil => exact fun _ => rfl
    | cons i is ih =>
        intro err
        rw [errorsFrom, List.filter_cons]
        split_ifs <;> simp [ih]
  rw [errors_eq, hlength]
  rfl

/-- The ids of a response go with the items that were processed. -/
lemma response_fst (h : ids.length = c.count) :
    (response api c a ids).map Prod.fst = ids.take c.items.length := by
  have hle := items_le_count c
  rw [response, List.map_fst_zip, length_errors]
  rw [List.length_take]
  omega

lemma response_snd (api : LocApiBase) (a : GnssAdapter) (h : ids.length = c.count) :
    (response api c a ids).map Prod.snd = errors api c a := by
  have hle := items_le_count c
  rw [response, List.map_snd_zip]
  rw [List.length_take, length_errors]
  omega

/-- A response for as many ids as there are flags. -/
lemma answered_of_length (h : ids.length = c.count) : Answered api c a ids ↔
    c.flags.toNat < 2 ^ 10 ∧ (c.flagged .assistanceData = true → c.UnchangedUrl a →
      c.precedingError api a = .success) := by
  have halone : (c.items.flatMap fun i => errors api (c.alone i) a) = itemErrors api c a := by
    rw [itemErrors, ← List.flatMap_singleton' (List.map _ _), List.flatMap_map]
    exact congrArg (List.flatMap · c.items) (funext fun i => errors_alone)
  have hids : (response api c a ids).map Prod.fst = ids ↔ c.flags.toNat < 2 ^ 10 := by
    rw [response_fst h, List.take_eq_self_iff, h]
    constructor
    · intro hle
      by_contra hge
      exact absurd hle (not_le.mpr (items_lt_count hge))
    · intro hlt
      exact (count_of_lt hlt).le
  rw [← hids, ← errors_eq_itemErrors_iff, ← halone, ← response_snd api a h]
  exact ⟨fun hans => ⟨hans.ids_eq, hans.errors_eq⟩, fun hans => ⟨hans.1, hans.2⟩⟩

end Response

/-- **The response is in order exactly if** no bit is set that stands for nothing, and a SUPL server
whose address is known already is not preceded by an error: for every configuration, all results of
the engine and every state of the adapter, whatever ids are returned. -/
theorem answered_iff (api : LocApiBase) (counter : ℕ) (c : GnssConfig) (a : GnssAdapter) :
    (∀ ids ∈ gnssUpdateConfigCommand counter c, Answered api c a ids) ↔
      c.flags.toNat < 2 ^ 10 ∧ (c.flagged .assistanceData = true → c.UnchangedUrl a →
        c.precedingError api a = .success) := by
  rw [gnssUpdateConfigCommand]
  by_cases hpos : 0 < c.count
  · rw [if_pos hpos]
    have hlength := length_generateSessionIds counter c.count
    simp only [Option.mem_def, Option.some.injEq, forall_eq']
    exact answered_of_length hlength
  · rw [if_neg hpos]
    have hlt : c.flags.toNat < 2 ^ 10 := by
      by_contra hge
      exact hpos ((Nat.zero_le _).trans_lt (items_lt_count hge))
    have hitems : c.items = [] := by
      rw [← List.length_eq_zero_iff, ← count_of_lt hlt]
      omega
    refine iff_of_true (fun ids h => by cases h) ⟨hlt, fun hflag => ?_⟩
    have hmem : ConfigItem.assistanceData ∈ c.items :=
      List.mem_filter.mpr ⟨by decide, hflag⟩
    rw [hitems] at hmem
    cases hmem

/-- A lock that the engine refuses, with the server that is known already. -/
def lockAndServer : GnssConfig where
  flags := 5#32
  gpsLock := 1
  suplVersion := 1
  assistanceServer := ⟨0, some "supl.example.com".toList, 7275⟩
  lppProfile := 0
  lppeControlPlaneMask := 0
  lppeUserPlaneMask := 0
  aGlonassPositionProtocolMask := 0
  emergencyPdnForEmergencySupl := 0
  suplEmergencyServices := 0
  suplModeMask := 0

/-- An engine that refuses to set the lock. -/
def refusesLock : LocApiBase where
  setGpsLock _ := .generalFailure
  setSUPLVersion _ := .success
  setServerUrl _ _ := .success
  setServerIp _ _ := .success
  setLPPConfig _ := .success
  setLPPeProtocolCp _ := .success
  setLPPeProtocolUp _ := .success
  setAGLONASSProtocol _ := .success
  resolveInAddress _ := none

/-- An adapter that has the server. -/
def hasServer : GnssAdapter where
  gpsLock := 0
  suplVer := 0x00010000
  lppProfile := 0
  lppeCpTechnology := 0
  lppeUpTechnology := 0
  aGlonassPosProtocolSelect := 0
  useEmergencyPdnForEmergencySupl := 0
  suplEs := 0
  suplMode := 0
  agpsConfigInject := true
  powerVoteId := 0
  serverUrl := "supl.example.com:7275".toList

/-- The server, which alone is answered with success, takes over the failure of the lock. -/
theorem lock_failure_reported_for_server :
    gnssUpdateConfigCommand 1 lockAndServer = some [2, 3] ∧
      response refusesLock lockAndServer hasServer [2, 3] =
        [(2, .generalFailure), (3, .generalFailure)] ∧
      errors refusesLock (lockAndServer.alone .assistanceData) hasServer = [.success] ∧
      ¬Answered refusesLock lockAndServer hasServer [2, 3] := by
  have hcount : lockAndServer.count = 2 := by
    simp [GnssConfig.count, lockAndServer, countBits]
  have halone :
      errors refusesLock (lockAndServer.alone .assistanceData) hasServer = [.success] := by
    rw [errors_alone]
    decide +kernel
  have hall : errors refusesLock lockAndServer hasServer = [.generalFailure, .generalFailure] := by
    rw [errors_eq]
    decide +kernel
  refine ⟨?_, ?_, halone, fun h => ?_⟩
  · rw [gnssUpdateConfigCommand, hcount]
    rfl
  · rw [response, hall]
    rfl
  · rw [answered_of_length (by rw [hcount]; rfl)] at h
    have hpre := h.2 (by decide) ⟨rfl, rfl, by decide +kernel, by decide +kernel⟩
    exact absurd hpre (by decide)

end Gps.Gnss
