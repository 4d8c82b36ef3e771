import OcnDevice.Ipacm.ConntrackListener.Model
import OcnDevice.Ipacm.OffloadManager.Model

/-!
# The uplink filter rules of the modem

`handle_uplink_filter_rule` installs the rules that the modem asks for on the pipe of a downstream
interface.  Each rule is a set of equations, and the `FEATURE_IPACM_HAL` build adds one more, so that
only the traffic of the tethered prefix is offloaded: a 32-bit equation on the source address for
IPv4, a 128-bit one for IPv6.  The arrays of equations have fixed lengths.

The test of the family and the test for a free equation are one chain of conditions, so an IPv4 rule
whose 32-bit equations are exactly used up comes out at the IPv6 equations.  What the rules of a
family match is therefore right if and only if each has an equation of that family left
(`restricts_iff`).
-/

namespace Ipacm.UplinkFilter

open Ipacm (IpaIpType Prefix)

/-- `MAX_WAN_UL_FILTER_RULES`. -/
def maxWanUlFilterRules : ℕ := 25

/-! ## Data -/

/-- The build: `FEATURE_IPA_V3`, and the lengths of the arrays of equations,
`IPA_IPFLTR_NUM_MEQ_32_EQNS` and `IPA_IPFLTR_NUM_MEQ_128_EQNS`. -/
structure Build where
  v3 : Bool
  numMeq32Eqns : ℕ
  numMeq128Eqns : ℕ
  pos32 : 0 < numMeq32Eqns
  pos128 : 0 < numMeq128Eqns

/-- The bit of `rule_eq_bitmap` for the 32-bit equation with this index. -/
def Build.meq32Bit (b : Build) (eqIndex : ℕ) : ℕ :=
  if b.v3 then (if eqIndex = 0 then 5 else 6) else if eqIndex = 0 then 2 else 3

/-- The bit of `rule_eq_bitmap` for the 128-bit equation with this index. -/
def Build.meq128Bit (b : Build) (eqIndex : ℕ) : ℕ :=
  if b.v3 then (if eqIndex = 0 then 3 else 4) else if eqIndex = 0 then 9 else 10

/-- The bit of the meta-data equation on V3. -/
def metaDataBit : ℕ := 9

/-- Four words of 32 bits. -/
abbrev Words := UInt32 × UInt32 × UInt32 × UInt32

/-- The words that are left when those of the mask are applied. -/
def maskWords (w mask : Words) : Words :=
  (w.1 &&& mask.1, w.2.1 &&& mask.2.1, w.2.2.1 &&& mask.2.2.1, w.2.2.2 &&& mask.2.2.2)

/-- The order in which a 128-bit equation has the words of an address: V3 begins with the last. -/
def Build.inMemory (b : Build) (w : Words) : Words :=
  if b.v3 then (w.2.2.2, w.2.2.1, w.2.1, w.1) else w

/-- A masked 32-bit equation. -/
structure MaskEq32 where
  offset : ℕ
  mask : UInt32
  value : UInt32
  deriving DecidableEq, Repr

/-- A masked 128-bit equation, with its words in the order of the memory. -/
structure MaskEq128 where
  offset : ℕ
  mask : Words
  value : Words
  deriving DecidableEq, Repr

/-- A packet: its words of 32 bits at each offset behind the start of the IP header, and its
meta-data. -/
structure Packet where
  word : ℕ → UInt32
  metaData : UInt32

/-- An `eq_attrib`.  The arrays of equations have the length that the build says.  The equations
that the function below does not touch are one test. -/
structure EqAttrib (b : Build) where
  ruleEqBitmap : ℕ
  numOffsetMeq32 : ℕ
  offsetMeq32 : Fin b.numMeq32Eqns → MaskEq32
  numOffsetMeq128 : ℕ
  offsetMeq128 : Fin b.numMeq128Eqns → MaskEq128
  metadataMeq32Present : Bool
  metadataMeq32 : MaskEq32
  others : Packet → Bool

/-- An `ipa_ioc_ext_intf_prop`, a rule that the modem asks for. -/
structure ExtProp (b : Build) where
  eqAttrib : EqAttrib b
  rtTblIdx : ℕ
  isXlatRule : Bool
  filterHdl : ℕ
  ruleId : ℕ
  isRuleHashable : Bool

/-- The first `rx` property of the interface; `metaDataSet` is the bit `IPA_FLT_META_DATA` of its
`attrib_mask`. -/
structure RxProp where
  srcPipe : ℕ
  metaDataSet : Bool
  metaData : UInt32
  metaDataMask : UInt32
  deriving DecidableEq, Repr

/-- An `ipa_flt_action`. -/
inductive FltAction
  | passToRouting
  | passToSrcNat
  deriving DecidableEq, Repr

/-- An `ipa_flt_rule_add`; what only V3 sets is `none` in other builds. -/
structure FltRule (b : Build) where
  atRear : Bool := true
  eqAttribType : Bool := true
  action : FltAction
  rtTblIdx : ℕ
  hashable : Option Bool
  ruleId : Option ℕ
  eqAttrib : EqAttrib b

/-- What tells the modem of a rule: its index and handle, or its number on V3. -/
inductive FltIndex
  | index (filterIndex filterHandle : ℕ)
  | ruleId (ruleId : ℕ)
  deriving DecidableEq, Repr

/-- The members of an `IPACM_Lan` and of the configuration that the function reads and writes. -/
structure Lan where
  rxProp : Option RxProp
  oduIf : Bool
  wanBridgeMode : Bool
  qmapId : UInt8
  pfx : IpaIpType → Prefix
  fltRuleCount : IpaIpType → ℕ
  wanUlFlRuleHdl : IpaIpType → List ℕ
  muxId : IpaIpType → UInt8

/-- What the system answers: whether the device is opened, the pipe numbers, whether memory is
there, whether the modem and the driver take what they are given, and the handles of the rules. -/
structure Answers where
  opened : Bool
  sourcePipeIndex : Option ℕ
  embeddedPipeIndex : Option ℕ
  allocated : Bool
  indexSent : Bool
  ruleAdded : Bool
  fltRuleHdl : ℕ → ℕ

/-! ## The equations of a rule -/

section Rules

variable {b : Build}

/-- The equation for the IPv4 source address, in a free place. -/
def EqAttrib.addPrefixV4 (a : EqAttrib b) (h : a.numOffsetMeq32 < b.numMeq32Eqns) (p : Prefix) :
    EqAttrib b :=
  { a with
    numOffsetMeq32 := a.numOffsetMeq32 + 1
    ruleEqBitmap := a.ruleEqBitmap ||| 1 <<< b.meq32Bit a.numOffsetMeq32
    offsetMeq32 := Function.update a.offsetMeq32 ⟨a.numOffsetMeq32, h⟩
      { offset := 12, mask := p.v4Mask, value := p.v4Addr } }

/-- The equation for the IPv6 source address, in a free place. -/
def EqAttrib.addPrefixV6 (a : EqAttrib b) (h : a.numOffsetMeq128 < b.numMeq128Eqns) (p : Prefix) :
    EqAttrib b :=
  { a with
    numOffsetMeq128 := a.numOffsetMeq128 + 1
    ruleEqBitmap := a.ruleEqBitmap ||| 1 <<< b.meq128Bit a.numOffsetMeq128
    offsetMeq128 := Function.update a.offsetMeq128 ⟨a.numOffsetMeq128, h⟩
      { offset := 8, mask := b.inMemory p.v6Mask, value := b.inMemory p.v6Addr } }

/-- The part of `FEATURE_IPACM_HAL`. -/
def EqAttrib.addPrefix (a : EqAttrib b) (iptype : IpaIpType) (pfx : IpaIpType → Prefix) :
    EqAttrib b :=
  if h : iptype = .v4 ∧ a.numOffsetMeq32 < b.numMeq32Eqns then a.addPrefixV4 h.2 (pfx .v4)
  else if a.numOffsetMeq32 > b.numMeq32Eqns then { a with numOffsetMeq32 := a.numOffsetMeq32 - 1 }
  else if h : a.numOffsetMeq128 < b.numMeq128Eqns then a.addPrefixV6 h (pfx .v6)
  else { a with numOffsetMeq128 := a.numOffsetMeq128 - 1 }

/-- The XLAT configuration. -/
def EqAttrib.setXlat (a : EqAttrib b) (iptype : IpaIpType) (isXlatRule : Bool) (xlatMuxId : UInt8) :
    EqAttrib b :=
  if iptype = .v4 ∧ isXlatRule ∧ xlatMuxId ≠ 0 then
    { a with
      metadataMeq32Present := true
      metadataMeq32 :=
        { offset := 0, mask := 0x00FF0000, value := (xlatMuxId.toUInt32 &&& 0xFF) <<< 16 } }
  else a

/-- The meta-data of the `rx` property, on V3. -/
def EqAttrib.addMetaData (a : EqAttrib b) (rx : RxProp) : EqAttrib b :=
  if b.v3 ∧ rx.metaDataSet then
    { a with
      ruleEqBitmap := a.ruleEqBitmap ||| 1 <<< metaDataBit
      metadataMeq32Present := true
      metadataMeq32 :=
        { offset := 0
          mask := a.metadataMeq32.mask ||| rx.metaDataMask
          value := a.metadataMeq32.value ||| rx.metaData } }
  else a

/-- One pass of the loop: the rule for a property. -/
def fltRuleEntry (action : FltAction) (rx : RxProp) (iptype : IpaIpType) (xlatMuxId : UInt8)
    (pfx : IpaIpType → Prefix) (prop : ExtProp b) : FltRule b where
  action
  rtTblIdx := prop.rtTblIdx
  hashable := if b.v3 then some prop.isRuleHashable else none
  ruleId := if b.v3 then some prop.ruleId else none
  eqAttrib := ((prop.eqAttrib.setXlat iptype prop.isXlatRule xlatMuxId).addPrefix iptype
    pfx).addMetaData rx

/-- What tells the modem of the rules, where the first has this index. -/
def fltIndexes (index : ℕ) : List (ExtProp b) → List FltIndex
  | [] => []
  | prop :: props =>
      (if b.v3 then .ruleId prop.ruleId else .index index prop.filterHdl) ::
        fltIndexes (index + 1) props

/-- The action of the rules of a family, if there is one. -/
def Lan.action (l : Lan) : IpaIpType → Option FltAction
  | .v4 => if l.oduIf ∧ l.wanBridgeMode then some .passToRouting else some .passToSrcNat
  | .v6 => some .passToRouting
  | .max => none

/-- What `handle_uplink_filter_rule` returns and does: whether it succeeds, the indexes for the
modem and the table for the driver, if it gets there, and the members behind it. -/
structure UlResult (b : Build) where
  success : Bool
  fltIndex : Option (List FltIndex)
  table : Option (List (FltRule b))
  lan : Lan

/-- The members behind rules that the driver has taken. -/
def Lan.installed (l : Lan) (iptype : IpaIpType) (hdls : List ℕ) : Lan :=
  { l with
    wanUlFlRuleHdl := Function.update l.wanUlFlRuleHdl iptype (l.wanUlFlRuleHdl iptype ++ hdls)
    fltRuleCount :=
      Function.update l.fltRuleCount iptype (l.fltRuleCount iptype + hdls.length)
    muxId := Function.update l.muxId iptype l.qmapId }

/-- `handle_uplink_filter_rule`. -/
def handleUplinkFilterRule (l : Lan) (ans : Answers) (props : List (ExtProp b))
    (iptype : IpaIpType) (xlatMuxId : UInt8) : UlResult b :=
  match l.rxProp with
  | none => ⟨true, none, none, l⟩
  | some rx =>
      if props = [] then ⟨true, none, none, l⟩
      else if ans.opened = false then ⟨false, none, none, l⟩
      else if props.length > maxWanUlFilterRules then ⟨false, none, none, l⟩
      else if ans.sourcePipeIndex = none then ⟨false, none, none, l⟩
      else if ans.embeddedPipeIndex = none then ⟨false, none, none, l⟩
      else if ans.allocated = false then ⟨false, none, none, l⟩
      else
        match l.action iptype with
        | none => ⟨false, none, none, l⟩
        | some action =>
            let rules := props.map (fltRuleEntry action rx iptype xlatMuxId l.pfx)
            let indexes := fltIndexes (l.fltRuleCount iptype) props
            if ans.indexSent = false then ⟨false, some indexes, none, l⟩
            else if ans.ruleAdded = false then ⟨false, some indexes, some rules, l⟩
            else
              ⟨true, some indexes, some rules,
                l.installed iptype ((List.range props.length).map ans.fltRuleHdl)⟩

end Rules

/-! ## What a rule matches -/

/-- The packet satisfies the equation. -/
def MaskEq32.Holds (e : MaskEq32) (p : Packet) : Prop := p.word e.offset &&& e.mask = e.value

/-- The four words of the packet behind an offset. -/
def Packet.words (p : Packet) (offset : ℕ) : Words :=
  (p.word offset, p.word (offset + 4), p.word (offset + 8), p.word (offset + 12))

/-- The packet satisfies the equation, whose words are in the order of the build. -/
def MaskEq128.Holds (b : Build) (e : MaskEq128) (p : Packet) : Prop :=
  maskWords (p.words e.offset) (b.inMemory e.mask) = b.inMemory e.value

/-- **A rule is the conjunction of its equations**: the equations of each array that it counts, the
meta-data equation if there is one, and the others. -/
structure EqAttrib.Matches {b : Build} (a : EqAttrib b) (p : Packet) : Prop where
  others : a.others p = true
  meq32 : ∀ i : Fin b.numMeq32Eqns, i < a.numOffsetMeq32 → (a.offsetMeq32 i).Holds p
  meq128 : ∀ i : Fin b.numMeq128Eqns, i < a.numOffsetMeq128 → (a.offsetMeq128 i).Holds b p
  metaData : a.metadataMeq32Present = true → p.metaData &&& a.metadataMeq32.mask = a.metadataMeq32.value

/-- **A well-formed set of equations**: the counts are within the arrays, and the bitmap agrees with
them.  The equations behind the first of an array share one bit. -/
structure EqAttrib.WellFormed {b : Build} (a : EqAttrib b) : Prop where
  le32 : a.numOffsetMeq32 ≤ b.numMeq32Eqns
  le128 : a.numOffsetMeq128 ≤ b.numMeq128Eqns
  bit32 : ∀ i < 2, a.ruleEqBitmap.testBit (b.meq32Bit i) = decide (i < a.numOffsetMeq32)
  bit128 : ∀ i < 2, a.ruleEqBitmap.testBit (b.meq128Bit i) = decide (i < a.numOffsetMeq128)

/-- The source address of the packet lies in the prefix of the family. -/
def LiesIn (pfx : IpaIpType → Prefix) (p : Packet) : IpaIpType → Prop
  | .v4 => p.word 12 &&& (pfx .v4).v4Mask = (pfx .v4).v4Addr &&& (pfx .v4).v4Mask
  | .v6 => maskWords (p.words 8) (pfx .v6).v6Mask =
      maskWords (pfx .v6).v6Addr (pfx .v6).v6Mask
  | .max => False

/-- The address of the prefix has no bits outside of its mask. -/
def Masked (pfx : IpaIpType → Prefix) : IpaIpType → Prop
  | .v4 => (pfx .v4).v4Addr &&& (pfx .v4).v4Mask = (pfx .v4).v4Addr
  | .v6 => maskWords (pfx .v6).v6Addr (pfx .v6).v6Mask = (pfx .v6).v6Addr
  | .max => False

instance (pfx : IpaIpType → Prefix) (iptype : IpaIpType) : Decidable (Masked pfx iptype) :=
  match iptype with
  | .v4 => inferInstanceAs (Decidable ((pfx .v4).v4Addr &&& (pfx .v4).v4Mask = (pfx .v4).v4Addr))
  | .v6 => inferInstanceAs
      (Decidable (maskWords (pfx .v6).v6Addr (pfx .v6).v6Mask = (pfx .v6).v6Addr))
  | .max => inferInstanceAs (Decidable False)

section Restriction

variable {b : Build}

/-- A property with the meta-data that the function is to add. -/
def ExtProp.refined (prop : ExtProp b) (rx : RxProp) (iptype : IpaIpType) (xlatMuxId : UInt8) :
    EqAttrib b :=
  (prop.eqAttrib.setXlat iptype prop.isXlatRule xlatMuxId).addMetaData rx

/-- **The rule is the property for the tethered prefix**: it has one equation more, of the family, it
is well formed, and it matches the packets of the property that come from the prefix. -/
structure Restricts (rx : RxProp) (iptype : IpaIpType) (xlatMuxId : UInt8)
    (pfx : IpaIpType → Prefix) (prop : ExtProp b) (rule : FltRule b) : Prop where
  wellFormed : rule.eqAttrib.WellFormed
  num32 : rule.eqAttrib.numOffsetMeq32 =
    prop.eqAttrib.numOffsetMeq32 + if iptype = .v4 then 1 else 0
  num128 : rule.eqAttrib.numOffsetMeq128 =
    prop.eqAttrib.numOffsetMeq128 + if iptype = .v6 then 1 else 0
  iff_liesIn : ∀ p, rule.eqAttrib.Matches p ↔
    (prop.refined rx iptype xlatMuxId).Matches p ∧ LiesIn pfx p iptype

/-- There is an equation of the family left. -/
def EqAttrib.HasRoom (a : EqAttrib b) : IpaIpType → Prop
  | .v4 => a.numOffsetMeq32 < b.numMeq32Eqns
  | .v6 => a.numOffsetMeq128 < b.numMeq128Eqns
  | .max => False

/-! ## The steps -/

variable {a : EqAttrib b} {p : Packet} {rx : RxProp} {iptype : IpaIpType} {isXlatRule : Bool}
  {xlatMuxId : UInt8} {pfx : IpaIpType → Prefix} {pf : Prefix} {prop : ExtProp b}

lemma inMemory_inMemory (w : Words) : b.inMemory (b.inMemory w) = w := by
  unfold Build.inMemory
  split_ifs <;> rfl

/-- The two bits of a kind of equations, when the one for the next equation is set. -/
lemma testBit_next {bitmap n : ℕ} {bit : ℕ → ℕ} (hbit : ∀ i, i ≠ 0 → bit i = bit 1)
    (hne : bit 0 ≠ bit 1) (h : ∀ i < 2, bitmap.testBit (bit i) = decide (i < n)) :
    ∀ i < 2, (bitmap ||| 1 <<< bit n).testBit (bit i) = decide (i < n + 1) := by
  intro i hi
  rw [Nat.testBit_or, h i hi, Nat.one_shiftLeft, Nat.testBit_two_pow]
  by_cases hn : n = 0
  · subst hn
    interval_cases i
    · simp
    · simp [hne]
  · rw [hbit n hn]
    interval_cases i
    · simp [hne.symm, Nat.pos_of_ne_zero hn]
    · simp only [decide_true, Bool.or_true]
      exact (decide_eq_true (by omega)).symm

/-- A bit that is set leaves the others. -/
lemma testBit_other {bitmap j k : ℕ} (h : k ≠ j) :
    (bitmap ||| 1 <<< k).testBit j = bitmap.testBit j := by
  rw [Nat.testBit_or, Nat.one_shiftLeft, Nat.testBit_two_pow, decide_eq_false h, Bool.or_false]

lemma meq32Bit_of_ne {i : ℕ} (h : i ≠ 0) : b.meq32Bit i = b.meq32Bit 1 := by
  simp [Build.meq32Bit, h]

lemma meq128Bit_of_ne {i : ℕ} (h : i ≠ 0) : b.meq128Bit i = b.meq128Bit 1 := by
  simp [Build.meq128Bit, h]

lemma meq32Bit_zero_ne_one : b.meq32Bit 0 ≠ b.meq32Bit 1 := by
  cases h : b.v3 <;> simp [Build.meq32Bit, h]

lemma meq128Bit_zero_ne_one : b.meq128Bit 0 ≠ b.meq128Bit 1 := by
  cases h : b.v3 <;> simp [Build.meq128Bit, h]

/-- The two kinds have different bits. -/
lemma meq32Bit_ne_meq128Bit (i j : ℕ) : b.meq32Bit i ≠ b.meq128Bit j := by
  unfold Build.meq32Bit Build.meq128Bit
  split_ifs <;> omega

/-- The bit of the meta-data equation is none of theirs. -/
lemma metaDataBit_ne (h : b.v3 = true) (i : ℕ) :
    metaDataBit ≠ b.meq32Bit i ∧ metaDataBit ≠ b.meq128Bit i := by
  unfold Build.meq32Bit Build.meq128Bit metaDataBit
  rw [if_pos h, if_pos h]
  split_ifs <;> omega

/-- What holds of the equations of an array when one is added. -/
lemma forall_update {α : Type*} {n k : ℕ} (h : k < n) (f : Fin n → α) (e : α) (Q : α → Prop) :
    (∀ i : Fin n, (i : ℕ) < k + 1 → Q (Function.update f ⟨k, h⟩ e i)) ↔
      (∀ i : Fin n, (i : ℕ) < k → Q (f i)) ∧ Q e := by
  constructor
  · intro hall
    constructor
    · intro i hi
      have hne : i ≠ ⟨k, h⟩ := fun heq => absurd (congrArg Fin.val heq) (by simp; omega)
      have hq := hall i (by omega)
      rwa [Function.update_of_ne hne] at hq
    · have hq := hall ⟨k, h⟩ (Nat.lt_succ_self k)
      rwa [Function.update_self] at hq
  · rintro ⟨hold, hnew⟩ i hi
    by_cases heq : i = ⟨k, h⟩
    · rw [heq, Function.update_self]
      exact hnew
    · rw [Function.update_of_ne heq]
      have hne : (i : ℕ) ≠ k := fun hk => heq (Fin.ext hk)
      exact hold i (by omega)

/-- A masked comparison with an address: the source lies in the prefix, and the prefix is masked. -/
lemma and_eq_iff (w m v : UInt32) : w &&& m = v ↔ w &&& m = v &&& m ∧ v &&& m = v := by
  constructor
  · rintro rfl
    rw [UInt32.and_assoc, UInt32.and_self]
    exact ⟨rfl, rfl⟩
  · rintro ⟨h, hv⟩
    rw [h, hv]

lemma maskWords_eq_iff (w m v : Words) :
    maskWords w m = v ↔ maskWords w m = maskWords v m ∧ maskWords v m = v := by
  constructor
  · rintro rfl
    simp [maskWords, UInt32.and_assoc]
  · rintro ⟨h, hv⟩
    rw [h, hv]

/-- The meta-data of the interface may be added before the prefix. -/
lemma addPrefix_addMetaData (a : EqAttrib b) (rx : RxProp) (iptype : IpaIpType)
    (pfx : IpaIpType → Prefix) :
    (a.addPrefix iptype pfx).addMetaData rx = (a.addMetaData rx).addPrefix iptype pfx := by
  by_cases hmeta : b.v3 = true ∧ rx.metaDataSet = true
  · simp only [EqAttrib.addMetaData, if_pos hmeta, EqAttrib.addPrefix]
    split_ifs
    · simp [EqAttrib.addPrefixV4, Nat.or_right_comm]
    · rfl
    · simp [EqAttrib.addPrefixV6, Nat.or_right_comm]
    · rfl
  · simp only [EqAttrib.addMetaData, if_neg hmeta]

/-! ## The prefix -/

/-- An equation for the IPv4 source address keeps a rule well formed. -/
lemma EqAttrib.WellFormed.addPrefixV4 (H : a.WellFormed) (h : a.numOffsetMeq32 < b.numMeq32Eqns) :
    (a.addPrefixV4 h pf).WellFormed where
  le32 := h
  le128 := H.le128
  bit32 := testBit_next (fun _ => meq32Bit_of_ne) meq32Bit_zero_ne_one H.bit32
  bit128 i hi := (testBit_other (meq32Bit_ne_meq128Bit _ _)).trans (H.bit128 i hi)

lemma EqAttrib.WellFormed.addPrefixV6 (H : a.WellFormed)
    (h : a.numOffsetMeq128 < b.numMeq128Eqns) : (a.addPrefixV6 h pf).WellFormed where
  le32 := H.le32
  le128 := h
  bit32 i hi := (testBit_other (meq32Bit_ne_meq128Bit _ _).symm).trans (H.bit32 i hi)
  bit128 := testBit_next (fun _ => meq128Bit_of_ne) meq128Bit_zero_ne_one H.bit128

lemma EqAttrib.WellFormed.setXlat (H : a.WellFormed) :
    (a.setXlat iptype isXlatRule xlatMuxId).WellFormed := by
  unfold EqAttrib.setXlat
  split_ifs
  · exact ⟨H.le32, H.le128, H.bit32, H.bit128⟩
  · exact H

lemma EqAttrib.WellFormed.addMetaData (H : a.WellFormed) : (a.addMetaData rx).WellFormed := by
  unfold EqAttrib.addMetaData
  split_ifs with h
  · exact ⟨H.le32, H.le128,
      fun i hi => (testBit_other (metaDataBit_ne h.1 i).1).trans (H.bit32 i hi),
      fun i hi => (testBit_other (metaDataBit_ne h.1 i).2).trans (H.bit128 i hi)⟩
  · exact H

/-- The meta-data leaves the counts alone. -/
lemma ExtProp.refined_counts (prop : ExtProp b) (rx : RxProp) (iptype : IpaIpType)
    (xlatMuxId : UInt8) :
    (prop.refined rx iptype xlatMuxId).numOffsetMeq32 = prop.eqAttrib.numOffsetMeq32 ∧
      (prop.refined rx iptype xlatMuxId).numOffsetMeq128 = prop.eqAttrib.numOffsetMeq128 := by
  unfold ExtProp.refined EqAttrib.addMetaData EqAttrib.setXlat
  split_ifs <;> exact ⟨rfl, rfl⟩

/-- A rule with the equation for the IPv4 source address. -/
lemma EqAttrib.addPrefixV4_matches (h : a.numOffsetMeq32 < b.numMeq32Eqns) :
    (a.addPrefixV4 h pf).Matches p ↔ a.Matches p ∧ p.word 12 &&& pf.v4Mask = pf.v4Addr := by
  have harray := forall_update h a.offsetMeq32
    { offset := 12, mask := pf.v4Mask, value := pf.v4Addr } (MaskEq32.Holds · p)
  constructor
  · intro H
    obtain ⟨hold, hnew⟩ := harray.mp H.meq32
    exact ⟨⟨H.others, hold, H.meq128, H.metaData⟩, hnew⟩
  · rintro ⟨H, hnew⟩
    exact ⟨H.others, harray.mpr ⟨H.meq32, hnew⟩, H.meq128, H.metaData⟩

/-- A rule with the equation for the IPv6 source address. -/
lemma EqAttrib.addPrefixV6_matches (h : a.numOffsetMeq128 < b.numMeq128Eqns) :
    (a.addPrefixV6 h pf).Matches p ↔ a.Matches p ∧ maskWords (p.words 8) pf.v6Mask = pf.v6Addr := by
  have harray := forall_update h a.offsetMeq128
    { offset := 8, mask := b.inMemory pf.v6Mask, value := b.inMemory pf.v6Addr }
    (MaskEq128.Holds b · p)
  have heq : MaskEq128.Holds b
      { offset := 8, mask := b.inMemory pf.v6Mask, value := b.inMemory pf.v6Addr } p ↔
      maskWords (p.words 8) pf.v6Mask = pf.v6Addr := by
    unfold MaskEq128.Holds
    rw [inMemory_inMemory, inMemory_inMemory]
  rw [← heq]
  constructor
  · intro H
    obtain ⟨hold, hnew⟩ := harray.mp H.meq128
    exact ⟨⟨H.others, H.meq32, hold, H.metaData⟩, hnew⟩
  · rintro ⟨H, hnew⟩
    exact ⟨H.others, H.meq32, harray.mpr ⟨H.meq128, hnew⟩, H.metaData⟩

/-- **A rule with an equation left** gets that of the prefix, and stays well formed. -/
lemma EqAttrib.addPrefix_of_hasRoom (pfx : IpaIpType → Prefix) (H : a.WellFormed)
    (hroom : a.HasRoom iptype) :
    (a.addPrefix iptype pfx).WellFormed ∧
      (a.addPrefix iptype pfx).numOffsetMeq32 =
        a.numOffsetMeq32 + (if iptype = .v4 then 1 else 0) ∧
      (a.addPrefix iptype pfx).numOffsetMeq128 =
        a.numOffsetMeq128 + (if iptype = .v6 then 1 else 0) ∧
      ∀ p, (a.addPrefix iptype pfx).Matches p ↔
        a.Matches p ∧ LiesIn pfx p iptype ∧ Masked pfx iptype := by
  cases iptype with
  | max => exact absurd hroom id
  | v4 =>
      have hlt : a.numOffsetMeq32 < b.numMeq32Eqns := hroom
      rw [EqAttrib.addPrefix, dif_pos ⟨rfl, hlt⟩]
      refine ⟨H.addPrefixV4 hlt, rfl, rfl, fun p => ?_⟩
      rw [EqAttrib.addPrefixV4_matches, and_eq_iff]
      rfl
  | v6 =>
      have hlt : a.numOffsetMeq128 < b.numMeq128Eqns := hroom
      rw [EqAttrib.addPrefix, dif_neg (by simp), if_neg (not_lt.mpr H.le32), dif_pos hlt]
      refine ⟨H.addPrefixV6 hlt, rfl, rfl, fun p => ?_⟩
      rw [EqAttrib.addPrefixV6_matches, maskWords_eq_iff]
      rfl

/-- A rule that is well formed with one equation more had one left. -/
lemma EqAttrib.hasRoom_of_counts {a' : EqAttrib b} (H : a'.WellFormed) (hfam : iptype ≠ .max)
    (h32 : a'.numOffsetMeq32 = a.numOffsetMeq32 + if iptype = .v4 then 1 else 0)
    (h128 : a'.numOffsetMeq128 = a.numOffsetMeq128 + if iptype = .v6 then 1 else 0) :
    a.HasRoom iptype := by
  have hle32 := H.le32
  have hle128 := H.le128
  cases iptype with
  | max => exact absurd rfl hfam
  | v4 =>
      rw [h32, if_pos rfl] at hle32
      exact hle32
  | v6 =>
      rw [h128, if_pos rfl] at hle128
      exact hle128

/-- **One rule**: it is the property for the tethered prefix if and only if the property has an
equation of the family left, and the prefix is masked or has no packet of the property. -/
lemma restricts_iff (action : FltAction) (hwf : prop.eqAttrib.WellFormed) (hfam : iptype ≠ .max) :
    Restricts rx iptype xlatMuxId pfx prop (fltRuleEntry action rx iptype xlatMuxId pfx prop) ↔
      prop.eqAttrib.HasRoom iptype ∧ (Masked pfx iptype ∨
        ∀ p, ¬ ((prop.refined rx iptype xlatMuxId).Matches p ∧ LiesIn pfx p iptype)) := by
  set r := prop.refined rx iptype xlatMuxId with hr
  have hattr : (fltRuleEntry action rx iptype xlatMuxId pfx prop).eqAttrib =
      r.addPrefix iptype pfx := addPrefix_addMetaData _ _ _ _
  obtain ⟨h32, h128⟩ := prop.refined_counts rx iptype xlatMuxId
  rw [← hr] at h32 h128
  have hrwf : r.WellFormed := hwf.setXlat.addMetaData
  have hroom : r.HasRoom iptype ↔ prop.eqAttrib.HasRoom iptype := by
    unfold EqAttrib.HasRoom
    rw [h32, h128]
  constructor
  · intro H
    have hleft := EqAttrib.hasRoom_of_counts H.wellFormed hfam H.num32 H.num128
    obtain ⟨-, -, -, hiff⟩ := EqAttrib.addPrefix_of_hasRoom pfx hrwf (hroom.mpr hleft)
    refine ⟨hleft, ?_⟩
    by_cases hmasked : Masked pfx iptype
    · exact Or.inl hmasked
    · refine Or.inr fun p hp => hmasked ?_
      have hrule := (H.iff_liesIn p).mpr hp
      rw [hattr] at hrule
      exact ((hiff p).mp hrule).2.2
  · rintro ⟨hleft, hmasked⟩
    obtain ⟨hwf', hn32, hn128, hiff⟩ :=
      EqAttrib.addPrefix_of_hasRoom pfx hrwf (hroom.mpr hleft)
    refine ⟨hattr ▸ hwf', ?_, ?_, fun p => ?_⟩
    · rw [hattr, hn32, h32]
    · rw [hattr, hn128, h128]
    · rw [hattr, hiff p]
      constructor
      · rintro ⟨h1, h2, -⟩
        exact ⟨h1, h2⟩
      · intro h
        rcases hmasked with hm | hno
        · exact ⟨h.1, h.2, hm⟩
        · exact absurd h (hno p)

/-- **The table for the driver**: at most `MAX_WAN_UL_FILTER_RULES` rules, one for each property, of
one of the two families. -/
lemma handleUplinkFilterRule_table {l : Lan} {ans : Answers} {props : List (ExtProp b)}
    {rules : List (FltRule b)}
    (h : (handleUplinkFilterRule l ans props iptype xlatMuxId).table = some rules) :
    ∃ rx action, l.rxProp = some rx ∧ iptype ≠ .max ∧ props.length ≤ maxWanUlFilterRules ∧
      rules = props.map (fltRuleEntry action rx iptype xlatMuxId l.pfx) := by
  unfold handleUplinkFilterRule at h
  cases hrx : l.rxProp with
  | none =>
      rw [hrx] at h
      simp at h
  | some rx =>
      cases hact : l.action iptype with
      | none =>
          simp only [hrx, hact] at h
          split_ifs at h
      | some action =>
          simp only [hrx, hact] at h
          have hfam : iptype ≠ .max := by
            rintro rfl
            simp [Lan.action] at hact
          split_ifs at h with _ _ hlen <;>
            exact ⟨rx, action, rfl, hfam, not_lt.mp hlen, (Option.some.inj h).symm⟩

end Restriction

/-- **Only the tethered prefix is offloaded**: each rule that is handed to the driver is its property
for the prefix of the family, if and only if each property has an equation of that family left, and
the prefix is masked or has no packet of the property. -/
theorem only_prefix_offloaded {b : Build} {l : Lan} {ans : Answers} {props : List (ExtProp b)}
    {iptype : IpaIpType} {xlatMuxId : UInt8} {rules : List (FltRule b)} {rx : RxProp}
    (hrx : l.rxProp = some rx) (hwf : ∀ prop ∈ props, prop.eqAttrib.WellFormed)
    (h : (handleUplinkFilterRule l ans props iptype xlatMuxId).table = some rules) :
    List.Forall₂ (Restricts rx iptype xlatMuxId l.pfx) props rules ↔
      ∀ prop ∈ props, prop.eqAttrib.HasRoom iptype ∧ (Masked l.pfx iptype ∨
        ∀ p, ¬ ((prop.refined rx iptype xlatMuxId).Matches p ∧ LiesIn l.pfx p iptype)) := by
  obtain ⟨rx', action, hrx', hfam, -, rfl⟩ := handleUplinkFilterRule_table h
  obtain rfl : rx' = rx := Option.some.inj (hrx'.symm.trans hrx)
  rw [List.forall₂_map_right_iff, List.forall₂_same]
  exact forall₂_congr fun prop hmem => restricts_iff action (hwf prop hmem) hfam

/-- V3 with two equations of each kind. -/
def twoEqns : Build := ⟨true, 2, 2, by decide, by decide⟩

/-- A rule with this many 32-bit equations, which any packet satisfies. -/
def anyPacket (num : ℕ) : ExtProp twoEqns where
  eqAttrib :=
    { ruleEqBitmap := if num = 0 then 0 else if num = 1 then 1 <<< 5 else 1 <<< 5 ||| 1 <<< 6
      numOffsetMeq32 := num
      offsetMeq32 := fun _ => ⟨0, 0, 0⟩
      numOffsetMeq128 := 0
      offsetMeq128 := fun _ => ⟨0, (0, 0, 0, 0), (0, 0, 0, 0)⟩
      metadataMeq32Present := false
      metadataMeq32 := ⟨0, 0, 0⟩
      others := fun _ => true }
  rtTblIdx := 1
  isXlatRule := false
  filterHdl := 1
  ruleId := 1
  isRuleHashable := true

lemma anyPacket_wellFormed {num : ℕ} (h : num ≤ 2) : (anyPacket num).eqAttrib.WellFormed := by
  interval_cases num <;> exact ⟨by decide, by decide, by decide, by decide⟩

/-- An `rx` property without meta-data. -/
def plainRx : RxProp := ⟨5, false, 0, 0⟩

/-- An interface that tethers `192.168.1.0/24` and `fd00::/64`. -/
def tethering : Lan where
  rxProp := some plainRx
  oduIf := false
  wanBridgeMode := false
  qmapId := 1
  pfx
    | .v4 => { fam := .v4, v4Addr := 0xC0A80100, v4Mask := 0xFFFFFF00 }
    | _ =>
      { fam := .v6, v6Addr := (0xFD000000, 0, 0, 0)
        v6Mask := (0xFFFFFFFF, 0xFFFFFFFF, 0, 0) }
  fltRuleCount := fun _ => 0
  wanUlFlRuleHdl := fun _ => []
  muxId := fun _ => 0

/-- A system where everything succeeds. -/
def allSucceeds : Answers := ⟨true, some 3, some 4, true, true, true, fun n => n + 1⟩

/-- A rule with one equation left is offloaded for the prefix only. -/
theorem only_prefix_offloaded_one :
    List.Forall₂ (Restricts plainRx .v4 0 tethering.pfx) [anyPacket 1]
      [fltRuleEntry .passToSrcNat plainRx .v4 0 tethering.pfx (anyPacket 1)] := by
  have hcall : (handleUplinkFilterRule tethering allSucceeds [anyPacket 1] .v4 0).table =
      some [fltRuleEntry .passToSrcNat plainRx .v4 0 tethering.pfx (anyPacket 1)] := rfl
  refine (only_prefix_offloaded rfl ?_ hcall).mpr ?_
  · simpa using anyPacket_wellFormed (by decide)
  · simpa using ⟨Nat.one_lt_two, Or.inl (by decide)⟩

/-- A rule whose two 32-bit equations are used up gets the equation of the IPv6 prefix. -/
theorem other_prefix_offloaded : ∃ rules,
    (handleUplinkFilterRule tethering allSucceeds [anyPacket 2] .v4 0).table = some rules ∧
    (anyPacket 2).eqAttrib.WellFormed ∧ Masked tethering.pfx .v4 ∧
    ¬ List.Forall₂ (Restricts plainRx .v4 0 tethering.pfx) [anyPacket 2] rules ∧
    ∀ rule ∈ rules, rule.eqAttrib.numOffsetMeq32 = 2 ∧ rule.eqAttrib.numOffsetMeq128 = 1 := by
  refine ⟨_, rfl, anyPacket_wellFormed le_rfl, by decide, fun h => ?_, by decide⟩
  have hnum := (List.forall₂_cons.mp h).1.num32
  revert hnum
  decide

end Ipacm.UplinkFilter
