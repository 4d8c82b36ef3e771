import Mathlib

/-!
# Satellite reports

`GnssAdapter::reportSv` marks the satellites that were used in the last position fix, and rewrites
the ids of QZSS; the report then goes to `loc_nmea_generate_sv`, which counts the satellites of each
constellation, keeps a mask of those that were used, and prints the GSV sentences.  With the
position report that follows, `loc_nmea_generate_GSA` prints the satellites of the masks.

An `int` is shifted to get a bit of a mask.  Where the language leaves the result open, because the
distance is negative or as large as the width, it is a parameter (`wild`).
-/

namespace Gps.LocNmea

/-! ## Reports -/

/-- `GnssSvType`. -/
inductive GnssSvType
  | unknown
  | gps
  | sbas
  | glonass
  | qzss
  | beidou
  | galileo
  deriving DecidableEq, Repr

/-- `GnssSv`; the angles and the signal strength are rounded as they are printed, and a signal
strength that is not positive is left out. -/
structure GnssSv where
  svId : BitVec 16
  type : GnssSvType
  cN0Dbhz : Option ℤ
  elevation : ℤ
  azimuth : ℤ
  gnssSvOptionsMask : BitVec 16
  deriving DecidableEq, Repr

/-- `GNSS_SV_OPTIONS_USED_IN_FIX_BIT`. -/
def usedInFixBit : BitVec 16 := 1#16 <<< 2

/-- A satellite is flagged as used in fix. -/
def GnssSv.used (sv : GnssSv) : Bool := sv.gnssSvOptionsMask &&& usedInFixBit = usedInFixBit

/-- `1 << k`, for an `int`. -/
def shiftOne (wild : ℤ → BitVec 32) (k : ℤ) : BitVec 32 :=
  if 0 ≤ k ∧ k < 32 then 1#32 <<< k.toNat else wild k

/-! ## The adapter -/

/-- `GnssSvUsedInPosition`. -/
structure GnssSvUsedInPosition where
  gps_sv_used_ids_mask : BitVec 64
  glo_sv_used_ids_mask : BitVec 64
  gal_sv_used_ids_mask : BitVec 64
  bds_sv_used_ids_mask : BitVec 64
  qzss_sv_used_ids_mask : BitVec 64
  deriving DecidableEq, Repr

/-- `GnssAdapter`, as far as it marks satellites. -/
structure GnssAdapter where
  gnssSvIdUsedInPosition : GnssSvUsedInPosition
  gnssSvIdUsedInPosAvail : Bool
  deriving DecidableEq, Repr

/-- The mask for a satellite of the given type. -/
def GnssAdapter.svUsedIdMask (a : GnssAdapter) (type : GnssSvType) : BitVec 64 :=
  if a.gnssSvIdUsedInPosAvail then
    match type with
    | .gps => a.gnssSvIdUsedInPosition.gps_sv_used_ids_mask
    | .glonass => a.gnssSvIdUsedInPosition.glo_sv_used_ids_mask
    | .beidou => a.gnssSvIdUsedInPosition.bds_sv_used_ids_mask
    | .galileo => a.gnssSvIdUsedInPosition.gal_sv_used_ids_mask
    | .qzss => a.gnssSvIdUsedInPosition.qzss_sv_used_ids_mask
    | _ => 0
  else 0

/-- `QZSS_SV_PRN_MIN`. -/
def qzssSvPrnMin : BitVec 16 := 193

/-- One pass of the loop of `reportSv`. -/
def GnssAdapter.reportOne (wild : ℤ → BitVec 32) (a : GnssAdapter) (sv : GnssSv) : GnssSv :=
  let gnssSvId := sv.svId.toInt
  let svUsedIdMask := a.svUsedIdMask sv.type
  let sv := if sv.type = .qzss then { sv with svId := sv.svId + (qzssSvPrnMin - 1) } else sv
  if svUsedIdMask &&& (shiftOne wild (gnssSvId - 1)).signExtend 64 ≠ 0 then
    { sv with gnssSvOptionsMask := sv.gnssSvOptionsMask ||| usedInFixBit }
  else sv

/-- `GnssAdapter::reportSv`: the report as it is delivered, and the adapter behind it. -/
def GnssAdapter.reportSv (wild : ℤ → BitVec 32) (a : GnssAdapter) (svNotify : List GnssSv) :
    List GnssSv × GnssAdapter :=
  (svNotify.map (a.reportOne wild), { a with gnssSvIdUsedInPosAvail := false })

/-! ## The cache -/

/-- The constellations that are counted. -/
def constellations : List GnssSvType := [.gps, .glonass, .galileo, .qzss, .beidou]

/-- `loc_sv_cache_info`: the mask of the satellites used and the count, for each constellation. -/
structure LocSvCacheInfo where
  used_mask : GnssSvType → BitVec 32
  count : GnssSvType → ℕ

/-- One pass of the counting loop of `loc_nmea_generate_sv`. -/
def countOne (wild : ℤ → BitVec 32) (cache : LocSvCacheInfo) (sv : GnssSv) : LocSvCacheInfo :=
  if sv.type ∈ constellations then
    { used_mask :=
        if sv.used then
          Function.update cache.used_mask sv.type
            (cache.used_mask sv.type ||| shiftOne wild ((sv.svId.toNat : ℤ) - 1))
        else cache.used_mask
      count := Function.update cache.count sv.type (cache.count sv.type + 1) }
  else cache

/-- The counting loop of `loc_nmea_generate_sv`. -/
def countSv (wild : ℤ → BitVec 32) (svNotify : List GnssSv) : LocSvCacheInfo :=
  svNotify.foldl (countOne wild) ⟨fun _ => 0, fun _ => 0⟩

/-- A satellite leaves the other constellations alone. -/
lemma countOne_of_ne {wild : ℤ → BitVec 32} {cache : LocSvCacheInfo} {sv : GnssSv}
    {t : GnssSvType} (h : t ≠ sv.type) :
    (countOne wild cache sv).used_mask t = cache.used_mask t ∧
      (countOne wild cache sv).count t = cache.count t := by
  rw [countOne]
  by_cases hcounted : sv.type ∈ constellations
  · rw [if_pos hcounted]
    cases sv.used <;> simp [h]
  · rw [if_neg hcounted]
    exact ⟨rfl, rfl⟩

/-! ## Constellations -/

/-- `loc_nmea_sv_meta`. -/
structure LocNmeaSvMeta where
  talker : List Char
  svType : GnssSvType
  mask : BitVec 32
  svCount : ℕ
  svIdOffset : ℕ
  systemId : ℕ
  deriving DecidableEq, Repr

/-- The talker of a constellation, or nothing for a type that is unknown. -/
def talker : GnssSvType → Option (List Char)
  | .gps => some ['G', 'P']
  | .glonass => some ['G', 'L']
  | .galileo => some ['G', 'A']
  | .qzss => some ['P', 'Q']
  | .beidou => some ['P', 'Q']
  | _ => none

/-- The ids of GLONASS are printed from 65. -/
def svIdOffset : GnssSvType → ℕ
  | .glonass => 64
  | _ => 0

/-- The system ids of NMEA. -/
def systemId : GnssSvType → ℕ
  | .gps => 1
  | .glonass => 2
  | .galileo => 3
  | .beidou => 4
  | .qzss => 5
  | _ => 0

/-- `loc_nmea_sv_meta_init`. -/
def loc_nmea_sv_meta_init (cache : LocSvCacheInfo) (svType : GnssSvType) (needCombine : Bool) :
    Option LocNmeaSvMeta :=
  (talker svType).map fun talker =>
    { talker :=
        if needCombine ∧ 1 < (constellations.filter fun t => cache.used_mask t ≠ 0).length then
          ['G', 'N']
        else talker
      svType := svType
      mask := cache.used_mask svType
      svCount := cache.count svType
      svIdOffset := svIdOffset svType
      systemId := systemId svType }

/-! ## Printing -/

/-- `%0wd`. -/
def zeroPad (w : ℕ) (n : ℤ) : List Char :=
  if n < 0 then '-' :: (Nat.toDigits 10 n.natAbs).leftpad (w - 1) '0'
  else (Nat.toDigits 10 n.natAbs).leftpad w '0'

/-- `%d` of a number that is not negative. -/
def digits (n : ℕ) : List Char := Nat.toDigits 10 n

/-- An id as it is printed. -/
def printedId (svIdOffset : ℕ) (svId : ℕ) : List Char := zeroPad 2 (svId + svIdOffset : ℕ)

end Gps.LocNmea
