import OcnDevice.Core.CString

/-!
# Debug sentences

The engines report their state in sentences `$PQW...*hh` of fields between commas.  There are nine
types of them, and for each a record of the values in its fields and a parser.  All parsers get the
fields from `SystemStatusNmeaBase`, which is empty unless the sentence is a debug sentence with a
`*` in it, and convert them one by one if there are enough.

If there are not, the record of `$PQWM1` is all zero.  The other records are what was in memory
before, which is an argument of their parsers.

A machine integer is given by its bits, signed or not.
-/

open CString

namespace Gps.Nmea

/-! ## Fields -/

/-- `DEBUG_NMEA_MINSIZE`. -/
def debugNmeaMinsize : ℕ := 6

/-- `DEBUG_NMEA_MAXSIZE`. -/
def debugNmeaMaxsize : ℕ := 4096

/-- `loc_nmea_is_debug`. -/
def locNmeaIsDebug (nmea : List Char) (length : ℕ) : Bool :=
  debugNmeaMinsize ≤ length ∧ length ≤ debugNmeaMaxsize ∧ nmea.take 4 = ['$', 'P', 'Q', 'W']

/-- `SystemStatusNmeaBase`: the fields of a sentence. -/
def systemStatusNmeaBase (strIn : List Char) (lenIn : ℕ) : List (List Char) :=
  if !locNmeaIsDebug strIn lenIn then []
  else
    match strIn.dropWhile (· != '*') with
    | [] => []
    | _ :: rest =>
        -- the `*` is a comma, and what is behind the last comma is not a field
        ((strIn.takeWhile (· != '*') ++ ',' :: rest).splitOn ',').dropLast

section

variable (mField : List (List Char)) (i : ℕ)

/-- `atoi` of a field. -/
def decField : ℤ := atoi (mField.getD i [])

/-- `strtol` of a field in base 16. -/
def hexField : ℤ := strtol 16 (mField.getD i [])

/-- `atof` of a field. -/
def floatField (atof : List Char → Float) : Float := atof (mField.getD i [])

end

/-! ## Records -/

/-- A `SystemStatusPQWM1`. -/
structure SystemStatusPQWM1 where
  mGpsWeek : BitVec 16
  mGpsTowMs : BitVec 32
  mTimeValid : BitVec 8
  mTimeSource : BitVec 8
  mTimeUnc : BitVec 32
  mClockFreqBias : BitVec 32
  mClockFreqBiasUnc : BitVec 32
  mXoState : BitVec 8
  mPgaGain : BitVec 32
  mGpsBpAmpI : BitVec 32
  mGpsBpAmpQ : BitVec 32
  mAdcI : BitVec 32
  mAdcQ : BitVec 32
  mJammerGps : BitVec 32
  mJammerGlo : BitVec 32
  mJammerBds : BitVec 32
  mJammerGal : BitVec 32
  mRecErrorRecovery : BitVec 32
  mAgcGps : Float
  mAgcGlo : Float
  mAgcBds : Float
  mAgcGal : Float
  mLeapSeconds : BitVec 32
  mLeapSecUnc : BitVec 32

/-- A `SystemStatusPQWP1`. -/
structure SystemStatusPQWP1 where
  mEpiValidity : BitVec 8
  mEpiLat : Float32
  mEpiLon : Float32
  mEpiAlt : Float32
  mEpiHepe : Float32
  mEpiAltUnc : Float32
  mEpiSrc : BitVec 8

/-- A `SystemStatusPQWP2`. -/
structure SystemStatusPQWP2 where
  mBestLat : Float32
  mBestLon : Float32
  mBestAlt : Float32
  mBestHepe : Float32
  mBestAltUnc : Float32

/-- A `SystemStatusPQWP3`. -/
structure SystemStatusPQWP3 where
  mXtraValidMask : BitVec 8
  mGpsXtraAge : BitVec 32
  mGloXtraAge : BitVec 32
  mBdsXtraAge : BitVec 32
  mGalXtraAge : BitVec 32
  mQzssXtraAge : BitVec 32
  mGpsXtraValid : BitVec 32
  mGloXtraValid : BitVec 32
  mBdsXtraValid : BitVec 64
  mGalXtraValid : BitVec 64
  mQzssXtraValid : BitVec 8
  deriving DecidableEq

/-- A `SystemStatusPQWP4`. -/
structure SystemStatusPQWP4 where
  mGpsEpheValid : BitVec 32
  mGloEpheValid : BitVec 32
  mBdsEpheValid : BitVec 64
  mGalEpheValid : BitVec 64
  mQzssEpheValid : BitVec 8
  deriving DecidableEq

/-- A `SystemStatusPQWP5`. -/
structure SystemStatusPQWP5 where
  mGpsUnknownMask : BitVec 32
  mGloUnknownMask : BitVec 32
  mBdsUnknownMask : BitVec 64
  mGalUnknownMask : BitVec 64
  mQzssUnknownMask : BitVec 8
  mGpsGoodMask : BitVec 32
  mGloGoodMask : BitVec 32
  mBdsGoodMask : BitVec 64
  mGalGoodMask : BitVec 64
  mQzssGoodMask : BitVec 8
  mGpsBadMask : BitVec 32
  mGloBadMask : BitVec 32
  mBdsBadMask : BitVec 64
  mGalBadMask : BitVec 64
  mQzssBadMask : BitVec 8
  deriving DecidableEq

/-- A `SystemStatusPQWP6`. -/
structure SystemStatusPQWP6 where
  mFixInfoMask : BitVec 32
  deriving DecidableEq

/-- `SV_ALL_NUM`. -/
def svAllNum : ℕ := 134

/-- A `SystemStatusNav`. -/
structure SystemStatusNav where
  mType : BitVec 32
  mSource : BitVec 32
  mAgeSec : BitVec 32
  deriving DecidableEq

/-- A `SystemStatusPQWP7`. -/
structure SystemStatusPQWP7 where
  mNav : Fin svAllNum → SystemStatusNav
  deriving DecidableEq

/-- A `SystemStatusPQWS1`. -/
structure SystemStatusPQWS1 where
  mFixInfoMask : BitVec 32
  mHepeLimit : BitVec 32
  deriving DecidableEq

/-! ## Parsers -/

section

variable (atof : List Char → Float) (mField : List (List Char))

/-- `SystemStatusPQWM1parser`. -/
def systemStatusPQWM1parser : SystemStatusPQWM1 :=
  if mField.length < 25 then
    ⟨0, 0, 0, 0, 0, 0, 0, 0, 0, 0, 0, 0, 0, 0, 0, 0, 0, 0, 0, 0, 0, 0, 0, 0⟩
  else
    { mGpsWeek := .ofInt _ (decField mField 1)
      mGpsTowMs := .ofInt _ (decField mField 2)
      mTimeValid := .ofInt _ (decField mField 3)
      mTimeSource := .ofInt _ (decField mField 4)
      mTimeUnc := .ofInt _ (decField mField 5)
      mClockFreqBias := .ofInt _ (decField mField 6)
      mClockFreqBiasUnc := .ofInt _ (decField mField 7)
      mXoState := .ofInt _ (decField mField 8)
      mPgaGain := .ofInt _ (decField mField 9)
      mGpsBpAmpI := .ofInt _ (decField mField 10)
      mGpsBpAmpQ := .ofInt _ (decField mField 11)
      mAdcI := .ofInt _ (decField mField 12)
      mAdcQ := .ofInt _ (decField mField 13)
      mJammerGps := .ofInt _ (decField mField 14)
      mJammerGlo := .ofInt _ (decField mField 15)
      mJammerBds := .ofInt _ (decField mField 16)
      mJammerGal := .ofInt _ (decField mField 17)
      mRecErrorRecovery := .ofInt _ (decField mField 18)
      mAgcGps := floatField mField 19 atof
      mAgcGlo := floatField mField 20 atof
      mAgcBds := floatField mField 21 atof
      mAgcGal := floatField mField 22 atof
      mLeapSeconds := .ofInt _ (decField mField 23)
      mLeapSecUnc := .ofInt _ (decField mField 24) }

/-- `SystemStatusPQWP1parser`. -/
def systemStatusPQWP1parser (mP1 : SystemStatusPQWP1) : SystemStatusPQWP1 :=
  if mField.length < 9 then mP1
  else
    { mEpiValidity := .ofInt _ (hexField mField 2)
      mEpiLat := (floatField mField 3 atof).toFloat32
      mEpiLon := (floatField mField 4 atof).toFloat32
      mEpiAlt := (floatField mField 5 atof).toFloat32
      mEpiHepe := .ofInt (decField mField 6)
      mEpiAltUnc := (floatField mField 7 atof).toFloat32
      mEpiSrc := .ofInt _ (decField mField 8) }

/-- `SystemStatusPQWP2parser`. -/
def systemStatusPQWP2parser (mP2 : SystemStatusPQWP2) : SystemStatusPQWP2 :=
  if mField.length < 7 then mP2
  else
    { mBestLat := (floatField mField 2 atof).toFloat32
      mBestLon := (floatField mField 3 atof).toFloat32
      mBestAlt := (floatField mField 4 atof).toFloat32
      mBestHepe := (floatField mField 5 atof).toFloat32
      mBestAltUnc := (floatField mField 6 atof).toFloat32 }

/-- `SystemStatusPQWP3parser`. -/
def systemStatusPQWP3parser (mP3 : SystemStatusPQWP3) : SystemStatusPQWP3 :=
  if mField.length < 13 then mP3
  else
    { mXtraValidMask := .ofInt _ (hexField mField 2)
      mGpsXtraAge := .ofInt _ (decField mField 3)
      mGloXtraAge := .ofInt _ (decField mField 4)
      mBdsXtraAge := .ofInt _ (decField mField 5)
      mGalXtraAge := .ofInt _ (decField mField 6)
      mQzssXtraAge := .ofInt _ (decField mField 7)
      mGpsXtraValid := .ofInt _ (hexField mField 8)
      mGloXtraValid := .ofInt _ (hexField mField 9)
      mBdsXtraValid := .ofInt _ (hexField mField 10)
      mGalXtraValid := .ofInt _ (hexField mField 11)
      mQzssXtraValid := .ofInt _ (hexField mField 12) }

/-- `SystemStatusPQWP4parser`. -/
def systemStatusPQWP4parser (mP4 : SystemStatusPQWP4) : SystemStatusPQWP4 :=
  if mField.length < 7 then mP4
  else
    { mGpsEpheValid := .ofInt _ (hexField mField 2)
      mGloEpheValid := .ofInt _ (hexField mField 3)
      mBdsEpheValid := .ofInt _ (hexField mField 4)
      mGalEpheValid := .ofInt _ (hexField mField 5)
      mQzssEpheValid := .ofInt _ (hexField mField 6) }

/-- `SystemStatusPQWP5parser`. -/
def systemStatusPQWP5parser (mP5 : SystemStatusPQWP5) : SystemStatusPQWP5 :=
  if mField.length < 17 then mP5
  else
    { mGpsUnknownMask := .ofInt _ (hexField mField 2)
      mGloUnknownMask := .ofInt _ (hexField mField 3)
      mBdsUnknownMask := .ofInt _ (hexField mField 4)
      mGalUnknownMask := .ofInt _ (hexField mField 5)
      mQzssUnknownMask := .ofInt _ (hexField mField 6)
      mGpsGoodMask := .ofInt _ (hexField mField 7)
      mGloGoodMask := .ofInt _ (hexField mField 8)
      mBdsGoodMask := .ofInt _ (hexField mField 9)
      mGalGoodMask := .ofInt _ (hexField mField 10)
      mQzssGoodMask := .ofInt _ (hexField mField 11)
      mGpsBadMask := .ofInt _ (hexField mField 12)
      mGloBadMask := .ofInt _ (hexField mField 13)
      mBdsBadMask := .ofInt _ (hexField mField 14)
      mGalBadMask := .ofInt _ (hexField mField 15)
      mQzssBadMask := .ofInt _ (hexField mField 16) }

/-- `SystemStatusPQWP6parser`. -/
def systemStatusPQWP6parser (mP6 : SystemStatusPQWP6) : SystemStatusPQWP6 :=
  if mField.length < 3 then mP6 else { mFixInfoMask := .ofInt _ (hexField mField 2) }

/-- `SystemStatusPQWP7parser`. -/
def systemStatusPQWP7parser (mP7 : SystemStatusPQWP7) : SystemStatusPQWP7 :=
  if mField.length < 2 + svAllNum * 3 then mP7
  else
    { mNav := fun i =>
        { mType := .ofInt _ (decField mField (i * 3 + 2))
          mSource := .ofInt _ (decField mField (i * 3 + 3))
          mAgeSec := .ofInt _ (decField mField (i * 3 + 4)) } }

/-- `SystemStatusPQWS1parser`. -/
def systemStatusPQWS1parser (mS1 : SystemStatusPQWS1) : SystemStatusPQWS1 :=
  if mField.length < 4 then mS1
  else
    { mFixInfoMask := .ofInt _ (decField mField 2)
      mHepeLimit := .ofInt _ (decField mField 3) }

end

end Gps.Nmea
