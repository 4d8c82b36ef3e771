import OcnDevice.Core.Bytes

/-!
# Codec configurations

The stack hands over a block of bytes, and `a2dp_codec_parser` reads the configuration of the codec
from it with a pointer that moves on.  The fields are given by single bits under a mask.

What the bits of a field denote is a table (`sbcFreq` and the others), and what a well-formed block
of each codec denotes is `Denotes`.  The parser never reads outside the block, and AAC with low
complexity, both kinds of aptX and LDAC are read as they should be.  For SBC the allocation method
is never the code of the comment, and 32 kHz is read as 3200 Hz; for AAC the object type is
overwritten by low complexity.
-/

namespace Bluetooth.A2dp

open Bytes

/-- The block, of `MAX_CODEC_CFG_SIZE` bytes. -/
abbrev CodecCfg := Vector (BitVec 8) 30

/-! ## The structures -/

/-- `audio_format_t`, as far as it is used here. -/
inductive AudioFormat
  | pcm16Bit
  | sbc
  | aac
  | aptx
  | aptxHd
  | ldac
  | other (format : ℕ)
  deriving DecidableEq, Repr

/-- `audio_sbc_encoder_config_t`. -/
structure AudioSbcEncoderConfig where
  subband : BitVec 32
  blkLen : BitVec 32
  samplingRate : BitVec 16
  channels : BitVec 8
  alloc : BitVec 8
  minBitpool : BitVec 8
  maxBitpool : BitVec 8
  bitrate : BitVec 32
  deriving DecidableEq, Repr

/-- `audio_aptx_encoder_config_t`. -/
structure AudioAptxEncoderConfig where
  samplingRate : BitVec 16
  channels : BitVec 8
  bitrate : BitVec 32
  deriving DecidableEq, Repr

/-- `audio_ldac_encoder_config_t`. -/
structure AudioLdacEncoderConfig where
  samplingRate : BitVec 32
  bitrate : BitVec 32
  channelMode : BitVec 16
  mtu : BitVec 16
  deriving DecidableEq, Repr

/-- `audio_aac_encoder_config_t`. -/
structure AudioAacEncoderConfig where
  encMode : BitVec 32
  formatFlag : BitVec 16
  channels : BitVec 16
  samplingRate : BitVec 32
  bitrate : BitVec 32
  deriving DecidableEq, Repr

/-- The structure that is returned. -/
inductive EncoderConfig
  | sbc (c : AudioSbcEncoderConfig)
  | aac (c : AudioAacEncoderConfig)
  | aptx (c : AudioAptxEncoderConfig)
  | ldac (c : AudioLdacEncoderConfig)
  deriving DecidableEq, Repr

/-- What the parser returns, and what it leaves behind its two pointers; the second may be null. -/
structure Parsed where
  config : Option EncoderConfig
  codecType : AudioFormat
  sampleFreq : Option (BitVec 32)
  deriving DecidableEq, Repr

/-! ## Reading -/

/-- A read with the pointer `p_cfg`, which fails outside the block. -/
abbrev Read := StateT ℕ Option

/-- `*p_cfg++`. -/
def next (cfg : CodecCfg) : Read (BitVec 8) := fun p => cfg[p]?.map fun b => (b, p + 1)

/-- `p_cfg += n`. -/
def skip (n : ℕ) : Read Unit := fun p => some ((), p + n)

/-- A `char` in an expression, whether it has a sign or not. -/
def promote (signed : Bool) (b : BitVec 8) : BitVec 32 :=
  if signed then b.signExtend 32 else b.setWidth 32

/-- A `switch` that sets a field which has been cleared. -/
def switch {w v : ℕ} (x : BitVec 32) (cases : List (BitVec w × BitVec v)) : BitVec v :=
  ((cases.find? fun p => x = p.1.setWidth 32).map Prod.snd).getD 0

section Parsers

variable (signed : Bool) (cfg : CodecCfg)

/-- The cases for the sampling rate of SBC. -/
def sbcFreqCases : List (BitVec 8 × BitVec 16) :=
  [(0x10, 48000), (0x20, 44100), (0x40, 3200), (0x80, 16000)]

/-- The cases for the channel mode. -/
def sbcChannelCases : List (BitVec 8 × BitVec 8) := [(0x01, 3), (0x02, 2), (0x04, 1), (0x08, 0)]

/-- The cases for the block length. -/
def sbcBlockCases : List (BitVec 8 × BitVec 32) :=
  [(0x10, 16), (0x20, 12), (0x40, 8), (0x80, 4)]

/-- The cases for the subbands. -/
def sbcSubbandCases : List (BitVec 8 × BitVec 32) := [(0x04, 8), (0x08, 4)]

/-- The cases for the allocation method. -/
def sbcAllocCases : List (BitVec 8 × BitVec 8) := [(0x01, 1), (0x02, 2)]

/-- `a2dp_codec_parser` for `CODEC_TYPE_SBC`. -/
def parseSbc : Read AudioSbcEncoderConfig := do
  skip 1
  let _len ← next cfg
  skip 1
  skip 1
  let byte ← next cfg
  let samplingRate := switch (promote signed byte &&& 0xF0#32) sbcFreqCases
  let channels := switch (promote signed byte &&& 0x0F#32) sbcChannelCases
  let byte ← next cfg
  let blkLen := switch (promote signed byte &&& 0xF0#32) sbcBlockCases
  let subband := switch (promote signed byte &&& 0x0C#32) sbcSubbandCases
  let alloc := switch (promote signed byte &&& 0x03#32) sbcAllocCases
  let minBitpool ← next cfg
  let maxBitpool ← next cfg
  skip 2
  let b0 ← next cfg
  let b1 ← next cfg
  let b2 ← next cfg
  let b3 ← next cfg
  return ⟨subband, blkLen, samplingRate, channels, alloc, minBitpool, maxBitpool,
    littleEndian b0 b1 b2 b3⟩

/-- The cases for the sampling rate of AAC. -/
def aacFreqCases : List (BitVec 16 × BitVec 32) :=
  [(0x8000, 8000), (0x4000, 11025), (0x2000, 12000), (0x1000, 16000), (0x0800, 22050),
    (0x0400, 24000), (0x0200, 32000), (0x0100, 44100), (0x0080, 48000), (0x0040, 64000),
    (0x0020, 88200), (0x0010, 96000)]

/-- The cases for the channels. -/
def aacChannelCases : List (BitVec 8 × BitVec 16) := [(0x08, 1), (0x04, 2)]

/-- `aac_samp_freq`. -/
def aacSampFreq (byte byte' : BitVec 8) : BitVec 16 :=
  (promote signed byte <<< 8).setWidth 16 ||| (promote signed byte' &&& 0xF0#32).setWidth 16

/-- `aac_bit_rate`. -/
def aacBitRate (b0 b1 b2 : BitVec 8) : BitVec 32 :=
  (0x7F#32 &&& promote signed b0) <<< 16 ||| (0xFF00#32 &&& promote signed b1 <<< 8) |||
    (0xFF#32 &&& promote signed b2)

/-- `a2dp_codec_parser` for `CODEC_TYPE_AAC`.  The mode that goes with the object type is
overwritten by zero. -/
def parseAac : Read AudioAacEncoderConfig := do
  skip 1
  let _len ← next cfg
  skip 1
  skip 1
  let _object ← next cfg
  let first ← next cfg
  let byte ← next cfg
  let samplingRate := switch ((aacSampFreq signed first byte).setWidth 32) aacFreqCases
  let channels := switch (promote signed byte &&& 0x0C#32) aacChannelCases
  let b0 ← next cfg
  let b1 ← next cfg
  let b2 ← next cfg
  return ⟨0, 4, channels, samplingRate, aacBitRate signed b0 b1 b2⟩

/-- The cases for the sampling rate of aptX. -/
def aptxFreqCases : List (BitVec 8 × BitVec 16) := [(0x10, 48000), (0x20, 44100)]

/-- The cases for the channels. -/
def aptxChannelCases : List (BitVec 8 × BitVec 8) := [(0x02, 2), (0x01, 1)]

/-- `a2dp_codec_parser` for aptX. -/
def parseAptx (hd : Bool) : Read AudioAptxEncoderConfig := do
  skip 1
  let _len ← next cfg
  skip 1
  skip 1
  skip 4
  skip 2
  let byte ← next cfg
  let samplingRate := switch (promote signed byte &&& 0xF0#32) aptxFreqCases
  let channels := switch (promote signed byte &&& 0x0F#32) aptxChannelCases
  if hd then skip 4
  skip 2
  let b0 ← next cfg
  let b1 ← next cfg
  let b2 ← next cfg
  let b3 ← next cfg
  return ⟨samplingRate, channels, littleEndian b0 b1 b2 b3⟩

/-- The cases for the sampling rate of LDAC. -/
def ldacFreqCases : List (BitVec 8 × BitVec 32) :=
  [(0x20, 44100), (0x10, 48000), (0x08, 88200), (0x04, 96000), (0x02, 176400), (0x01, 192000)]

/-- `ldac_codec_parser`. -/
def ldacCodecParser : Read AudioLdacEncoderConfig := do
  skip 1
  let _len ← next cfg
  skip 1
  skip 1
  skip 4
  skip 2
  let byte ← next cfg
  let samplingRate := switch (promote signed byte &&& 0x3F#32) ldacFreqCases
  let byte ← next cfg
  let channelMode := (promote signed byte &&& 0x07#32).setWidth 16
  skip 2
  let b0 ← next cfg
  let b1 ← next cfg
  let b2 ← next cfg
  let b3 ← next cfg
  return ⟨samplingRate, littleEndian b0 b1 b2 b3, channelMode, 663⟩

/-- `a2dp_codec_parser` for `NON_A2DP_CODEC_TYPE`. -/
def parseVendor (codecType : AudioFormat) (sampleFreq : Option (BitVec 32)) : Option Parsed := do
  let v0 ← cfg[4]?
  let v1 ← cfg[5]?
  let v2 ← cfg[6]?
  let v3 ← cfg[7]?
  let id ← cfg[8]?
  let codecType := if v0 = 0x4F ∧ id = 0x01 then .aptx else codecType
  let codecType := if v0 = 0xD7 ∧ id = 0x24 then .aptxHd else codecType
  if littleEndian v0 v1 v2 v3 = 0x12D ∧ id = 0xAA then
    let c ← (ldacCodecParser signed cfg).run' 0
    return ⟨some (.ldac c), .ldac, sampleFreq.map fun _ => c.samplingRate⟩
  let c ← (parseAptx signed cfg (codecType = .aptxHd)).run' 0
  return ⟨some (.aptx c), codecType, sampleFreq.map fun _ => c.samplingRate.setWidth 32⟩

/-- `a2dp_codec_parser`. -/
def a2dpCodecParser (codecType : AudioFormat) (sampleFreq : Option (BitVec 32)) :
    Option Parsed := do
  let type ← cfg[3]?
  if type = 0x05 then
    return ⟨none, .pcm16Bit, sampleFreq⟩
  else if type = 0x00 then
    let c ← (parseSbc signed cfg).run' 0
    return ⟨some (.sbc c), .sbc, sampleFreq.map fun _ => c.samplingRate.setWidth 32⟩
  else if type = 0x02 then
    let c ← (parseAac signed cfg).run' 0
    return ⟨some (.aac c), .aac, sampleFreq.map fun _ => c.samplingRate⟩
  else if type = 0xFF then
    parseVendor signed cfg codecType sampleFreq
  else
    return ⟨none, codecType, sampleFreq⟩

end Parsers

/-! ## What the bits denote -/

/-- b7: 16, b6: 32, b5: 44.1, b4: 48 kHz. -/
def sbcFreq : List (BitVec 8 × ℕ) := [(0x80, 16000), (0x40, 32000), (0x20, 44100), (0x10, 48000)]

/-- Mono, dual mono, stereo and joint stereo. -/
def sbcChannels : List (BitVec 8 × ℕ) := [(0x08, 0), (0x04, 1), (0x02, 2), (0x01, 3)]

/-- Blocks. -/
def sbcBlocks : List (BitVec 8 × ℕ) := [(0x80, 4), (0x40, 8), (0x20, 12), (0x10, 16)]

/-- Subbands. -/
def sbcSubbands : List (BitVec 8 × ℕ) := [(0x08, 4), (0x04, 8)]

/-- b1: SNR, which is 1; b0: loudness, which is 0. -/
def sbcAlloc : List (BitVec 8 × ℕ) := [(0x02, 1), (0x01, 0)]

/-- Whether the object type has low complexity. -/
def aacLc : List (BitVec 8 × Bool) := [(0x80, true), (0x40, true), (0x20, false), (0x10, false)]

/-- The sampling rates of AAC, from the highest bit. -/
def aacFreq : List (BitVec 16 × ℕ) :=
  (List.range 12).zipWith (fun i rate => (0x8000#16 >>> i, rate))
    [8000, 11025, 12000, 16000, 22050, 24000, 32000, 44100, 48000, 64000, 88200, 96000]

/-- Channels. -/
def aacChannels : List (BitVec 8 × ℕ) := [(0x08, 1), (0x04, 2)]

/-- The sampling rates of aptX. -/
def aptxFreq : List (BitVec 8 × ℕ) := [(0x10, 48000), (0x20, 44100)]

/-- Mono and stereo. -/
def aptxChannels : List (BitVec 8 × ℕ) := [(0x02, 2), (0x01, 1)]

/-- The sampling rates of LDAC. -/
def ldacFreq : List (BitVec 8 × ℕ) :=
  [(0x20, 44100), (0x10, 48000), (0x08, 88200), (0x04, 96000), (0x02, 176400), (0x01, 192000)]

/-- Mono, dual and stereo, by their bits. -/
def ldacChannels : List (BitVec 8 × ℕ) := [(0x04, 4), (0x02, 2), (0x01, 1)]

/-- The codecs that are read. -/
inductive Codec
  | sbc
  | aac
  | aptx
  | aptxHd
  | ldac
  deriving DecidableEq, Repr

/-- The four bytes from some place, the lowest first. -/
def CodecCfg.number (cfg : CodecCfg) (i : ℕ) (h : i + 3 < 30) : BitVec 32 :=
  word cfg[i + 3] cfg[i + 2] cfg[i + 1] cfg[i]

/-- A vendor specific block with the vendor and the codec. -/
def IsVendor (cfg : CodecCfg) (vendor : BitVec 32) (codec : BitVec 8) : Prop :=
  cfg[3] = 0xFF#8 ∧ cfg.number 4 (by omega) = vendor ∧ cfg[8] = codec ∧ cfg[9] = 0x00#8

/-- Every field of the codec has exactly one of its bits. -/
def WellFormed (cfg : CodecCfg) : Codec → Prop
  | .sbc => cfg[3] = 0x00#8 ∧ (sbcFreq.lookup (cfg[4] &&& 0xF0)).isSome ∧
      (sbcChannels.lookup (cfg[4] &&& 0x0F)).isSome ∧ (sbcBlocks.lookup (cfg[5] &&& 0xF0)).isSome ∧
      (sbcSubbands.lookup (cfg[5] &&& 0x0C)).isSome ∧ (sbcAlloc.lookup (cfg[5] &&& 0x03)).isSome
  | .aac => cfg[3] = 0x02#8 ∧ (aacLc.lookup (cfg[4] &&& 0xF0)).isSome ∧
      (aacFreq.lookup (cfg[5] ++ (cfg[6] &&& 0xF0))).isSome ∧
      (aacChannels.lookup (cfg[6] &&& 0x0C)).isSome
  | .aptx => IsVendor cfg 0x4F 0x01 ∧ (aptxFreq.lookup (cfg[10] &&& 0xF0)).isSome ∧
      (aptxChannels.lookup (cfg[10] &&& 0x0F)).isSome
  | .aptxHd => IsVendor cfg 0xD7 0x24 ∧ (aptxFreq.lookup (cfg[10] &&& 0xF0)).isSome ∧
      (aptxChannels.lookup (cfg[10] &&& 0x0F)).isSome
  | .ldac => IsVendor cfg 0x12D 0xAA ∧ (ldacFreq.lookup (cfg[10] &&& 0x3F)).isSome ∧
      (ldacChannels.lookup (cfg[11] &&& 0x07)).isSome

/-- What the bits of an SBC block denote. -/
structure SbcDenotes (cfg : CodecCfg) (c : AudioSbcEncoderConfig) : Prop where
  samplingRate : sbcFreq.lookup (cfg[4] &&& 0xF0) = some c.samplingRate.toNat
  channels : sbcChannels.lookup (cfg[4] &&& 0x0F) = some c.channels.toNat
  blkLen : sbcBlocks.lookup (cfg[5] &&& 0xF0) = some c.blkLen.toNat
  subband : sbcSubbands.lookup (cfg[5] &&& 0x0C) = some c.subband.toNat
  alloc : sbcAlloc.lookup (cfg[5] &&& 0x03) = some c.alloc.toNat
  minBitpool : c.minBitpool = cfg[6]
  maxBitpool : c.maxBitpool = cfg[7]
  bitrate : c.bitrate = cfg.number 10 (by omega)

/-- What the bits of an AAC block denote; low complexity is the mode 0, and the bit rate has 23
bits, the highest first. -/
structure AacDenotes (cfg : CodecCfg) (c : AudioAacEncoderConfig) : Prop where
  encMode : aacLc.lookup (cfg[4] &&& 0xF0) = some (decide (c.encMode = 0))
  samplingRate : aacFreq.lookup (cfg[5] ++ (cfg[6] &&& 0xF0)) = some c.samplingRate.toNat
  channels : aacChannels.lookup (cfg[6] &&& 0x0C) = some c.channels.toNat
  bitrate : c.bitrate = word 0 (cfg[7] &&& 0x7F) cfg[8] cfg[9]

/-- What the bits of an aptX block denote, with the place of the bit rate. -/
structure AptxDenotes (cfg : CodecCfg) (bitrate : BitVec 32) (c : AudioAptxEncoderConfig) :
    Prop where
  samplingRate : aptxFreq.lookup (cfg[10] &&& 0xF0) = some c.samplingRate.toNat
  channels : aptxChannels.lookup (cfg[10] &&& 0x0F) = some c.channels.toNat
  bitrate : c.bitrate = bitrate

/-- What the bits of an LDAC block denote; the MTU is the default one. -/
structure LdacDenotes (cfg : CodecCfg) (c : AudioLdacEncoderConfig) : Prop where
  samplingRate : ldacFreq.lookup (cfg[10] &&& 0x3F) = some c.samplingRate.toNat
  channelMode : ldacChannels.lookup (cfg[11] &&& 0x07) = some c.channelMode.toNat
  bitrate : c.bitrate = cfg.number 14 (by omega)
  mtu : c.mtu = 663

/-- The format and the sampling frequency that are reported. -/
def Reports (out : Parsed) (format : AudioFormat) (rate : ℕ) : Prop :=
  out.codecType = format ∧ ∀ freq ∈ out.sampleFreq, freq.toNat = rate

/-- What is returned for a block of a codec agrees with its bits. -/
def Denotes (cfg : CodecCfg) (out : Parsed) : Codec → Prop
  | .sbc => ∃ c, out.config = some (.sbc c) ∧ SbcDenotes cfg c ∧
      Reports out .sbc c.samplingRate.toNat
  | .aac => ∃ c, out.config = some (.aac c) ∧ AacDenotes cfg c ∧
      Reports out .aac c.samplingRate.toNat
  | .aptx => ∃ c, out.config = some (.aptx c) ∧ AptxDenotes cfg (cfg.number 13 (by omega)) c ∧
      Reports out .aptx c.samplingRate.toNat
  | .aptxHd => ∃ c, out.config = some (.aptx c) ∧ AptxDenotes cfg (cfg.number 17 (by omega)) c ∧
      Reports out .aptxHd c.samplingRate.toNat
  | .ldac => ∃ c, out.config = some (.ldac c) ∧ LdacDenotes cfg c ∧
      Reports out .ldac c.samplingRate.toNat

/-! ## Switches and tables -/

section Tables

variable {w v : ℕ} {signed : Bool}

lemma switch_setWidth (hw : w ≤ 32) (x : BitVec w) (cases : List (BitVec w × BitVec v)) :
    switch (x.setWidth 32) cases = (cases.lookup x).getD 0 := by
  have hinj : ∀ y : BitVec w, x.setWidth 32 = y.setWidth 32 ↔ x = y := by
    intro y
    refine ⟨fun h => ?_, fun h => by rw [h]⟩
    have hback := congrArg (BitVec.setWidth w) h
    rwa [BitVec.setWidth_setWidth_of_le _ hw, BitVec.setWidth_setWidth_of_le _ hw,
      BitVec.setWidth_eq, BitVec.setWidth_eq] at hback
  rw [switch]
  induction cases with
  | nil => rfl
  | cons p cases ih =>
      rw [List.find?_cons, List.lookup_cons]
      by_cases h : x = p.1
      · simp [h]
      · rw [decide_eq_false ((hinj p.1).not.mpr h), beq_false_of_ne h]
        exact ih

/-- **A switch gives what a table says**, when its cases agree with the table on each key. -/
lemma lookup_switch (cases : List (BitVec w × BitVec v)) {table : List (BitVec w × ℕ)}
    (hcases : ∀ p ∈ table, (cases.lookup p.1).map BitVec.toNat = some p.2) (hw : w ≤ 32)
    {x : BitVec w} (hx : (table.lookup x).isSome) :
    table.lookup x = some (switch (x.setWidth 32) cases).toNat := by
  obtain ⟨q, hq⟩ := Option.isSome_iff_exists.mp hx
  have hmem : (x, q) ∈ table := by
    obtain ⟨l₁, l₂, rfl, -⟩ := List.lookup_eq_some_iff.mp hq
    simp
  obtain ⟨y, hy, hyq⟩ := Option.map_eq_some_iff.mp (hcases _ hmem)
  rw [hq, switch_setWidth hw, hy, Option.getD_some]
  exact congrArg some hyq.symm

lemma getLsbD_promote {b : BitVec 8} {i : ℕ} (h : i < 8) :
    (promote signed b).getLsbD i = b.getLsbD i := by
  have hi : i < 32 := by omega
  cases signed with
  | false => simp [promote, hi]
  | true =>
      rw [promote, if_pos rfl, BitVec.getLsbD_signExtend, if_pos h, decide_eq_true hi,
        Bool.true_and]

/-- The sign of a `char` is masked away. -/
lemma promote_and (b m : BitVec 8) :
    promote signed b &&& m.setWidth 32 = (b &&& m).setWidth 32 := by
  refine BitVec.eq_of_getLsbD_eq fun i hi => ?_
  rw [BitVec.getLsbD_and, BitVec.getLsbD_setWidth, BitVec.getLsbD_setWidth, BitVec.getLsbD_and]
  by_cases h : i < 8
  · rw [getLsbD_promote h]
    simp [hi]
  · rw [BitVec.getLsbD_of_ge m i (by omega)]
    simp

/-- The sign is shifted out of a wide enough mask. -/
lemma promote_shift_and (b : BitVec 8) :
    0xFF00#32 &&& promote signed b <<< 8 = b.setWidth 32 <<< 8 := by
  have hmask : 0xFF00#32 = (0xFF#8).setWidth 32 <<< 8 := rfl
  rw [hmask, ← BitVec.shiftLeft_and_distrib, BitVec.and_comm, promote_and]
  exact congrArg (fun x => BitVec.setWidth 32 x <<< 8) (BitVec.and_allOnes (x := b))

lemma aacSampFreq_eq (b b' : BitVec 8) : aacSampFreq signed b b' = b ++ (b' &&& 0xF0) := by
  have hmask : 0xF0#32 = (0xF0#8).setWidth 32 := rfl
  rw [aacSampFreq, hmask, promote_and]
  refine BitVec.eq_of_getLsbD_eq fun i hi => ?_
  rw [BitVec.getLsbD_or, BitVec.getLsbD_setWidth, BitVec.getLsbD_shiftLeft, BitVec.getLsbD_setWidth,
    BitVec.getLsbD_setWidth, BitVec.getLsbD_append]
  have hi32 : i < 32 := by omega
  by_cases h : i < 8
  · simp [h, hi, hi32]
  · rw [getLsbD_promote (by omega), BitVec.getLsbD_of_ge (b' &&& 0xF0#8) i (by omega)]
    simp [h, hi]
    omega

lemma aacBitRate_eq (b0 b1 b2 : BitVec 8) :
    aacBitRate signed b0 b1 b2 = word 0 (b0 &&& 0x7F) b1 b2 := by
  have hhigh : 0x7F#32 &&& promote signed b0 = (b0 &&& 0x7F#8).setWidth 32 := by
    rw [BitVec.and_comm]
    exact promote_and b0 0x7F#8
  have hlow : 0xFF#32 &&& promote signed b2 = b2.setWidth 32 := by
    rw [BitVec.and_comm]
    exact (promote_and b2 0xFF#8).trans (congrArg _ (BitVec.and_allOnes (x := b2)))
  rw [← joinBytes_eq, joinBytes, aacBitRate, hhigh, promote_shift_and, hlow]
  simp

end Tables

/-! ## What is read -/

section Parse

variable {signed : Bool} {cfg : CodecCfg} {p : ℕ}

section Steps

variable {α : Type}

lemma run_skip {n : ℕ} {f : Unit → Read α} : (skip n >>= f).run' p = (f ()).run' (p + n) := rfl

lemma run_next {f : BitVec 8 → Read α} (h : p < 30) :
    (next cfg >>= f).run' p = (f cfg[p]).run' (p + 1) := by
  have hnext : next cfg p = some (cfg[p], p + 1) := by
    rw [next, Vector.getElem?_eq_getElem h, Option.map_some]
  have hbind : (next cfg >>= f).run' p =
      ((next cfg p).bind fun x => f x.1 x.2).map Prod.fst := rfl
  rw [hbind, hnext, Option.bind_some]
  rfl

lemma run_return {a : α} : (pure a : Read α).run' p = some a := rfl

end Steps

/-- What is read for SBC. -/
def sbcOf (signed : Bool) (cfg : CodecCfg) : AudioSbcEncoderConfig where
  subband := switch (promote signed cfg[5] &&& 0x0C#32) sbcSubbandCases
  blkLen := switch (promote signed cfg[5] &&& 0xF0#32) sbcBlockCases
  samplingRate := switch (promote signed cfg[4] &&& 0xF0#32) sbcFreqCases
  channels := switch (promote signed cfg[4] &&& 0x0F#32) sbcChannelCases
  alloc := switch (promote signed cfg[5] &&& 0x03#32) sbcAllocCases
  minBitpool := cfg[6]
  maxBitpool := cfg[7]
  bitrate := littleEndian cfg[10] cfg[11] cfg[12] cfg[13]

lemma parseSbc_eq : (parseSbc signed cfg).run' 0 = some (sbcOf signed cfg) := by
  simp (disch := omega) only [parseSbc, run_skip, run_next, run_return, Nat.reduceAdd]
  rfl

/-- What is read for AAC. -/
def aacOf (signed : Bool) (cfg : CodecCfg) : AudioAacEncoderConfig where
  encMode := 0
  formatFlag := 4
  channels := switch (promote signed cfg[6] &&& 0x0C#32) aacChannelCases
  samplingRate := switch ((aacSampFreq signed cfg[5] cfg[6]).setWidth 32) aacFreqCases
  bitrate := aacBitRate signed cfg[7] cfg[8] cfg[9]

lemma parseAac_eq : (parseAac signed cfg).run' 0 = some (aacOf signed cfg) := by
  simp (disch := omega) only [parseAac, run_skip, run_next, run_return, Nat.reduceAdd]
  rfl

/-- What is read for aptX; the bit rate stands four bytes further behind for HD. -/
def aptxOf (signed : Bool) (cfg : CodecCfg) (hd : Bool) : AudioAptxEncoderConfig where
  samplingRate := switch (promote signed cfg[10] &&& 0xF0#32) aptxFreqCases
  channels := switch (promote signed cfg[10] &&& 0x0F#32) aptxChannelCases
  bitrate :=
    if hd then littleEndian cfg[17] cfg[18] cfg[19] cfg[20]
    else littleEndian cfg[13] cfg[14] cfg[15] cfg[16]

lemma parseAptx_eq (hd : Bool) :
    (parseAptx signed cfg hd).run' 0 = some (aptxOf signed cfg hd) := by
  cases hd with
  | false =>
      simp (disch := omega) only [parseAptx, run_skip, run_next, Nat.reduceAdd]
      rfl
  | true =>
      simp (disch := omega) only [parseAptx, run_skip, run_next, Nat.reduceAdd]
      rfl

/-- What is read for LDAC. -/
def ldacOf (signed : Bool) (cfg : CodecCfg) : AudioLdacEncoderConfig where
  samplingRate := switch (promote signed cfg[10] &&& 0x3F#32) ldacFreqCases
  bitrate := littleEndian cfg[14] cfg[15] cfg[16] cfg[17]
  channelMode := (promote signed cfg[11] &&& 0x07#32).setWidth 16
  mtu := 663

lemma ldacCodecParser_eq : (ldacCodecParser signed cfg).run' 0 = some (ldacOf signed cfg) := by
  simp (disch := omega) only [ldacCodecParser, run_skip, run_next, run_return, Nat.reduceAdd]
  rfl

variable {codecType : AudioFormat} {sampleFreq : Option (BitVec 32)}

/-- The format that is left when a vendor specific block is not LDAC. -/
def vendorFormat (cfg : CodecCfg) (codecType : AudioFormat) : AudioFormat :=
  if cfg[4] = 0xD7 ∧ cfg[8] = 0x24 then .aptxHd
  else if cfg[4] = 0x4F ∧ cfg[8] = 0x01 then .aptx
  else codecType

lemma parseVendor_eq : parseVendor signed cfg codecType sampleFreq = some (
    if cfg.number 4 (by omega) = 0x12D ∧ cfg[8] = 0xAA then
      ⟨some (.ldac (ldacOf signed cfg)), .ldac,
        sampleFreq.map fun _ => (ldacOf signed cfg).samplingRate⟩
    else
      ⟨some (.aptx (aptxOf signed cfg (vendorFormat cfg codecType = .aptxHd))),
        vendorFormat cfg codecType,
        sampleFreq.map fun _ => (aptxOf signed cfg
          (vendorFormat cfg codecType = .aptxHd)).samplingRate.setWidth 32⟩) := by
  have hget : ∀ i (h : i < 30), cfg[i]? = some cfg[i] := fun i h => Vector.getElem?_eq_getElem h
  rw [parseVendor, hget 4 (by omega), hget 5 (by omega), hget 6 (by omega), hget 7 (by omega),
    hget 8 (by omega), ldacCodecParser_eq]
  simp only [parseAptx_eq, Option.bind_eq_bind, Option.bind_some, Option.pure_def]
  rw [littleEndian_eq]
  exact apply_ite some _ _ _ |>.symm

/-- **The parser reads inside the block**, and what it returns is what is read for the type. -/
lemma a2dpCodecParser_eq : a2dpCodecParser signed cfg codecType sampleFreq =
    if cfg[3] = 0x05 then some ⟨none, .pcm16Bit, sampleFreq⟩
    else if cfg[3] = 0x00 then
      some ⟨some (.sbc (sbcOf signed cfg)), .sbc,
        sampleFreq.map fun _ => (sbcOf signed cfg).samplingRate.setWidth 32⟩
    else if cfg[3] = 0x02 then
      some ⟨some (.aac (aacOf signed cfg)), .aac,
        sampleFreq.map fun _ => (aacOf signed cfg).samplingRate⟩
    else if cfg[3] = 0xFF then parseVendor signed cfg codecType sampleFreq
    else some ⟨none, codecType, sampleFreq⟩ := by
  have h3 : cfg[3]? = some cfg[3] := Vector.getElem?_eq_getElem (by omega)
  rw [a2dpCodecParser, h3, parseSbc_eq, parseAac_eq]
  rfl

/-! ## What is read, and what the bits denote -/

/-- A masked field that a switch reads. -/
lemma lookup_masked {v : ℕ} (cases : List (BitVec 8 × BitVec v)) {table : List (BitVec 8 × ℕ)}
    {b m : BitVec 8}
    (hcases : ∀ p ∈ table, (cases.lookup p.1).map BitVec.toNat = some p.2)
    (hx : (table.lookup (b &&& m)).isSome) :
    table.lookup (b &&& m) = some (switch (promote signed b &&& m.setWidth 32) cases).toNat := by
  rw [promote_and]
  exact lookup_switch cases hcases (by omega) hx

lemma aptxOf_denotes {hd : Bool} {bitrate : BitVec 32}
    (hrate : (aptxFreq.lookup (cfg[10] &&& 0xF0)).isSome)
    (hchan : (aptxChannels.lookup (cfg[10] &&& 0x0F)).isSome)
    (hbit : bitrate = if hd then cfg.number 17 (by omega) else cfg.number 13 (by omega)) :
    AptxDenotes cfg bitrate (aptxOf signed cfg hd) where
  samplingRate := lookup_masked aptxFreqCases (by decide) hrate
  channels := lookup_masked aptxChannelCases (by decide) hchan
  bitrate := by
    rw [aptxOf, hbit, littleEndian_eq, littleEndian_eq]
    rfl

lemma ldacOf_denotes (h : WellFormed cfg .ldac) : LdacDenotes cfg (ldacOf signed cfg) where
  samplingRate := lookup_masked ldacFreqCases (by decide) h.2.1
  channelMode := by
    obtain ⟨q, hq⟩ := Option.isSome_iff_exists.mp h.2.2
    have hall : ∀ p ∈ ldacChannels, ((p.1.setWidth 32).setWidth 16).toNat = p.2 := by decide
    have hmem : (cfg[11] &&& 0x07#8, q) ∈ ldacChannels := by
      obtain ⟨l₁, l₂, heq, -⟩ := List.lookup_eq_some_iff.mp hq
      rw [heq]
      simp
    have hmask : promote signed cfg[11] &&& 0x07#32 = (cfg[11] &&& 0x07#8).setWidth 32 :=
      promote_and cfg[11] 0x07#8
    rw [hq, ldacOf, hmask]
    exact congrArg some (hall _ hmem).symm
  bitrate := littleEndian_eq _ _ _ _
  mtu := rfl

/-- AAC is read as it should be, if it has low complexity. -/
lemma aacOf_denotes_iff (signed : Bool) (h : WellFormed cfg .aac) :
    AacDenotes cfg (aacOf signed cfg) ↔ aacLc.lookup (cfg[4] &&& 0xF0) = some true := by
  constructor
  · intro hden
    exact hden.encMode
  · intro hlc
    refine ⟨hlc, ?_, lookup_masked aacChannelCases (by decide) h.2.2.2,
      aacBitRate_eq _ _ _⟩
    rw [aacOf, aacSampFreq_eq]
    exact lookup_switch aacFreqCases (by decide) (by omega) h.2.2.1

/-- **The allocation method of SBC is never the code of the comment.** -/
lemma sbcOf_not_denotes : ¬SbcDenotes cfg (sbcOf signed cfg) := by
  intro h
  have halloc := h.alloc
  have hmask : promote signed cfg[5] &&& 0x03#32 = (cfg[5] &&& 0x03#8).setWidth 32 :=
    promote_and cfg[5] 0x03#8
  have hmem : (cfg[5] &&& 0x03#8, (sbcOf signed cfg).alloc.toNat) ∈ sbcAlloc := by
    obtain ⟨l₁, l₂, heq, -⟩ := List.lookup_eq_some_iff.mp halloc
    rw [heq]
    simp
  have hall : ∀ p ∈ sbcAlloc, (switch (p.1.setWidth 32) sbcAllocCases).toNat ≠ p.2 := by decide
  refine hall _ hmem ?_
  rw [sbcOf, hmask]

lemma toNat_widened (rate : BitVec 16) : (rate.setWidth 32).toNat = rate.toNat := by
  have hrate := rate.isLt
  rw [BitVec.toNat_setWidth, Nat.mod_eq_of_lt (by omega)]

/-- The frequency behind the pointer is that of the structure. -/
lemma reports {config : Option EncoderConfig} {format : AudioFormat} {rate : BitVec 32} {n : ℕ}
    (h : rate.toNat = n) : Reports ⟨config, format, sampleFreq.map fun _ => rate⟩ format n := by
  refine ⟨rfl, fun freq hfreq => ?_⟩
  obtain ⟨-, -, rfl⟩ := Option.map_eq_some_iff.mp hfreq
  exact h

end Parse

/-- The parser returns something for the block without reading outside, and what it returns for a
well-formed block of a codec agrees with the bits. -/
def Right (signed : Bool) (cfg : CodecCfg) (codecType : AudioFormat)
    (sampleFreq : Option (BitVec 32)) : Prop :=
  ∃ out, a2dpCodecParser signed cfg codecType sampleFreq = some out ∧
    ∀ codec, WellFormed cfg codec → Denotes cfg out codec

section Right

variable {signed : Bool} {cfg : CodecCfg} {codecType : AudioFormat}
  {sampleFreq : Option (BitVec 32)}

/-- The parser does not read outside. -/
lemma exists_parsed (signed : Bool) (cfg : CodecCfg) (codecType : AudioFormat)
    (sampleFreq : Option (BitVec 32)) :
    ∃ out, a2dpCodecParser signed cfg codecType sampleFreq = some out := by
  rw [a2dpCodecParser_eq, parseVendor_eq]
  split_ifs <;> exact ⟨_, rfl⟩

/-- The lowest byte of a vendor. -/
lemma IsVendor.first {vendor : BitVec 32} {codec : BitVec 8} (h : IsVendor cfg vendor codec) :
    cfg[4] = vendor.extractLsb' 0 8 := by
  rw [← h.2.1]
  exact BitVec.extractLsb'_append_eq_right.symm

/-- What the parser returns for a vendor specific block. -/
lemma parser_vendor {vendor : BitVec 32} {codec : BitVec 8} (h : IsVendor cfg vendor codec) :
    a2dpCodecParser signed cfg codecType sampleFreq =
      parseVendor signed cfg codecType sampleFreq := by
  rw [a2dpCodecParser_eq, h.1, if_neg (by decide), if_neg (by decide), if_neg (by decide),
    if_pos (by decide)]

/-- What it returns if the vendor is not that of LDAC. -/
lemma parser_aptx {vendor : BitVec 32} {codec : BitVec 8} {format : AudioFormat}
    (h : IsVendor cfg vendor codec) (hldac : vendor ≠ 0x12D)
    (hformat : vendorFormat cfg codecType = format) :
    a2dpCodecParser signed cfg codecType sampleFreq =
      some ⟨some (.aptx (aptxOf signed cfg (format = .aptxHd))), format,
        sampleFreq.map fun _ =>
          (aptxOf signed cfg (format = .aptxHd)).samplingRate.setWidth 32⟩ := by
  rw [parser_vendor h, parseVendor_eq, h.2.1, if_neg (fun hno => hldac hno.1), hformat]

/-- **A well-formed block is read as it should be unless it is SBC, or AAC without low
complexity.** -/
lemma denotes_iff {codec : Codec} {out : Parsed} (h : WellFormed cfg codec)
    (hout : a2dpCodecParser signed cfg codecType sampleFreq = some out) :
    Denotes cfg out codec ↔ codec ≠ .sbc ∧
      (codec = .aac → aacLc.lookup (cfg[4] &&& 0xF0) = some true) := by
  cases codec with
  | sbc =>
      refine iff_of_false ?_ fun hne => hne.1 rfl
      rw [a2dpCodecParser_eq, h.1, if_neg (by decide), if_pos (by decide),
        Option.some.injEq] at hout
      subst hout
      rintro ⟨c, hc, hden, -⟩
      cases hc
      exact sbcOf_not_denotes hden
  | aac =>
      rw [a2dpCodecParser_eq, h.1, if_neg (by decide), if_neg (by decide), if_pos (by decide),
        Option.some.injEq] at hout
      subst hout
      rw [and_iff_right (by simp), imp_iff_right rfl, ← aacOf_denotes_iff signed h]
      constructor
      · rintro ⟨c, hc, hden, -⟩
        cases hc
        exact hden
      · intro hden
        exact ⟨_, rfl, hden, reports rfl⟩
  | aptx =>
      refine iff_of_true ?_ ⟨by simp, by simp⟩
      obtain ⟨hvendor, hrate, hchan⟩ := h
      have hformat : vendorFormat cfg codecType = .aptx := by
        rw [vendorFormat, hvendor.first, hvendor.2.2.1]
        rfl
      rw [parser_aptx hvendor (by decide) hformat, Option.some.injEq] at hout
      subst hout
      exact ⟨_, rfl, aptxOf_denotes hrate hchan rfl, reports (toNat_widened _)⟩
  | aptxHd =>
      refine iff_of_true ?_ ⟨by simp, by simp⟩
      obtain ⟨hvendor, hrate, hchan⟩ := h
      have hformat : vendorFormat cfg codecType = .aptxHd := by
        rw [vendorFormat, hvendor.first, hvendor.2.2.1]
        rfl
      rw [parser_aptx hvendor (by decide) hformat, Option.some.injEq] at hout
      subst hout
      exact ⟨_, rfl, aptxOf_denotes hrate hchan rfl, reports (toNat_widened _)⟩
  | ldac =>
      refine iff_of_true ?_ ⟨by simp, by simp⟩
      have hvendor : IsVendor cfg 0x12D 0xAA := h.1
      rw [parser_vendor hvendor, parseVendor_eq, if_pos ⟨hvendor.2.1, hvendor.2.2.1⟩,
        Option.some.injEq] at hout
      subst hout
      exact ⟨_, rfl, ldacOf_denotes h, reports rfl⟩

end Right

/-- **When a configuration is read as it should be.**  Whatever is in the block: nothing outside is
read, and what is returned for a well-formed block agrees with its bits exactly if the block is not
one of SBC, and if it is one of AAC then its object type has low complexity. -/
theorem codec_right_iff (signed : Bool) (cfg : CodecCfg) (codecType : AudioFormat)
    (sampleFreq : Option (BitVec 32)) : Right signed cfg codecType sampleFreq ↔
      ¬WellFormed cfg .sbc ∧
        (WellFormed cfg .aac → aacLc.lookup (cfg[4] &&& 0xF0) = some true) := by
  obtain ⟨out, hout⟩ := exists_parsed signed cfg codecType sampleFreq
  constructor
  · rintro ⟨out', hout', hall⟩
    exact ⟨fun h => ((denotes_iff h hout').mp (hall _ h)).1 rfl,
      fun h => ((denotes_iff h hout').mp (hall _ h)).2 rfl⟩
  · rintro ⟨hsbc, haac⟩
    refine ⟨out, hout, fun codec h => (denotes_iff h hout).mpr ⟨?_, ?_⟩⟩
    · rintro rfl
      exact hsbc h
    · rintro rfl
      exact haac h

/-- An SBC block with 32 kHz, joint stereo, 16 blocks, 8 subbands and loudness. -/
def sbcBlock : CodecCfg :=
  #v[0, 8, 0, 0x00, 0x41, 0x15, 2, 53, 0x97, 0x02, 0x48, 0x01, 0x05, 0x00, 0, 0, 0, 0, 0, 0, 0, 0,
    0, 0, 0, 0, 0, 0, 0, 0]

/-- The rate of this block is read as 3200 Hz, and its allocation method as 1. -/
theorem sbc_32k_misread :
    (a2dpCodecParser false sbcBlock (.other 0) (some 0)).map (fun out => out.sampleFreq) =
        some (some 3200) ∧
      sbcFreq.lookup (sbcBlock[4] &&& 0xF0) = some 32000 ∧ WellFormed sbcBlock .sbc ∧
      ¬Right false sbcBlock (.other 0) (some 0) := by
  have hwf : WellFormed sbcBlock .sbc := by
    refine ⟨?_, ?_, ?_, ?_, ?_, ?_⟩ <;> decide
  refine ⟨?_, by decide, hwf, ?_⟩
  · rw [a2dpCodecParser_eq]
    decide
  · rintro ⟨out, hout, hall⟩
    exact ((denotes_iff hwf hout).mp (hall _ hwf)).1 rfl

end Bluetooth.A2dp
