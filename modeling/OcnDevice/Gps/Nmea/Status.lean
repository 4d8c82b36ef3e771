import OcnDevice.Gps.Nmea.Records

/-!
# The status cache

`SystemStatus` keeps the last reports of each kind.  A debug sentence is parsed by its type and
makes a report of each kind that it describes: `$PQWM1` of four, every other type of one.  A
report that equals the last one only sets the time of that.

A sentence that cannot be parsed should have no effect.  But parsers cannot fail, and nothing asks
them whether they had enough fields: what they return is stored, and no checksum is ever compared.
So whatever `loc_nmea_is_debug` lets through with a known type is stored (`setNmeaString_stores`),
and the rules hold just for the sentences that may be stored (`setNmeaString_right_iff`).

The time of a report, and what is in memory where a parser does not write, are inputs.
-/

open CString

namespace Gps.Nmea

/-! ## Reports -/

/-- A `SystemStatusTimeAndClock`, without its times. -/
structure SystemStatusTimeAndClock where
  mGpsWeek : BitVec 16
  mGpsTowMs : BitVec 32
  mTimeValid : BitVec 8
  mTimeSource : BitVec 8
  mTimeUnc : BitVec 32
  mClockFreqBias : BitVec 32
  mClockFreqBiasUnc : BitVec 32
  mLeapSeconds : BitVec 32
  mLeapSecUnc : BitVec 32
  deriving DecidableEq

/-- A `SystemStatusXoState`. -/
structure SystemStatusXoState where
  mXoState : BitVec 8
  deriving DecidableEq

/-- A `SystemStatusRfAndParams`. -/
structure SystemStatusRfAndParams where
  mPgaGain : BitVec 32
  mGpsBpAmpI : BitVec 32
  mGpsBpAmpQ : BitVec 32
  mAdcI : BitVec 32
  mAdcQ : BitVec 32
  mJammerGps : BitVec 32
  mJammerGlo : BitVec 32
  mJammerBds : BitVec 32
  mJammerGal : BitVec 32
  mAgcGps : Float
  mAgcGlo : Float
  mAgcBds : Float
  mAgcGal : Float

/-- A `SystemStatusErrRecovery`. -/
structure SystemStatusErrRecovery where
  mRecErrorRecovery : BitVec 32
  deriving DecidableEq

/-- A `SystemStatusBestPosition`. -/
structure SystemStatusBestPosition extends SystemStatusPQWP2 where
  mValid : Bool

/-- The kinds of reports that sentences make. -/
inductive Kind
  | timeAndClock
  | xoState
  | rfAndParams
  | errRecovery
  | injectedPosition
  | bestPosition
  | xtra
  | ephemeris
  | svHealth
  | pdr
  | navData
  | positionFailure
  deriving DecidableEq, Repr

/-- What is reported.  Reports that have the members of a record of the parser are that record. -/
def Kind.Data : Kind → Type
  | .timeAndClock => SystemStatusTimeAndClock
  | .xoState => SystemStatusXoState
  | .rfAndParams => SystemStatusRfAndParams
  | .errRecovery => SystemStatusErrRecovery
  | .injectedPosition => SystemStatusPQWP1
  | .bestPosition => SystemStatusBestPosition
  | .xtra => SystemStatusPQWP3
  | .ephemeris => SystemStatusPQWP4
  | .svHealth => SystemStatusPQWP5
  | .pdr => SystemStatusPQWP6
  | .navData => SystemStatusPQWP7
  | .positionFailure => SystemStatusPQWS1

/-- `equals` of a position report. -/
def SystemStatusPQWP1.equals (a b : SystemStatusPQWP1) : Bool :=
  a.mEpiValidity == b.mEpiValidity && a.mEpiLat == b.mEpiLat && a.mEpiLon == b.mEpiLon &&
    a.mEpiAlt == b.mEpiAlt && a.mEpiHepe == b.mEpiHepe && a.mEpiAltUnc == b.mEpiAltUnc &&
    a.mEpiSrc == b.mEpiSrc

/-- `SystemStatusBestPosition::equals`: it does not compare `mValid`. -/
def SystemStatusBestPosition.equals (a b : SystemStatusBestPosition) : Bool :=
  a.mBestLat == b.mBestLat && a.mBestLon == b.mBestLon && a.mBestAlt == b.mBestAlt &&
    a.mBestHepe == b.mBestHepe && a.mBestAltUnc == b.mBestAltUnc

/-- `SystemStatusRfAndParams::equals`. -/
def SystemStatusRfAndParams.equals (a b : SystemStatusRfAndParams) : Bool :=
  a.mPgaGain == b.mPgaGain && a.mGpsBpAmpI == b.mGpsBpAmpI && a.mGpsBpAmpQ == b.mGpsBpAmpQ &&
    a.mAdcI == b.mAdcI && a.mAdcQ == b.mAdcQ && a.mJammerGps == b.mJammerGps &&
    a.mJammerGlo == b.mJammerGlo && a.mJammerBds == b.mJammerBds &&
    a.mJammerGal == b.mJammerGal && a.mAgcGps == b.mAgcGps && a.mAgcGlo == b.mAgcGlo &&
    a.mAgcBds == b.mAgcBds && a.mAgcGal == b.mAgcGal

/-- `equals`. -/
def Kind.equals : (k : Kind) → k.Data → k.Data → Bool
  | .timeAndClock => fun a b : SystemStatusTimeAndClock => a == b
  | .xoState => fun a b : SystemStatusXoState => a == b
  | .rfAndParams => SystemStatusRfAndParams.equals
  | .errRecovery => fun a b : SystemStatusErrRecovery => a == b
  | .injectedPosition => SystemStatusPQWP1.equals
  | .bestPosition => SystemStatusBestPosition.equals
  | .xtra => fun a b : SystemStatusPQWP3 => a == b
  | .ephemeris => fun a b : SystemStatusPQWP4 => a == b
  | .svHealth => fun a b : SystemStatusPQWP5 => a == b
  | .pdr => fun a b : SystemStatusPQWP6 => a == b
  | .navData => fun a b : SystemStatusPQWP7 => a == b
  | .positionFailure => fun a b : SystemStatusPQWS1 => a == b

/-- A `timespec`. -/
structure Timespec where
  tvSec : ℤ
  tvNsec : ℤ
  deriving DecidableEq, Repr

/-- A report with the times of `SystemStatusItemBase`. -/
structure Item (α : Type) where
  mUtcTime : Timespec
  mUtcReported : Timespec
  data : α

/-- `maxTimeAndClock` and those of the other kinds. -/
def maxReports : ℕ := 5

/-! ## The cache -/

/-- The `SystemStatusReports`: the histories of the kinds of reports, and the histories that come
from elsewhere. -/
structure SystemStatusReports (O : Type) where
  history : (k : Kind) → List (Item k.Data)
  others : O

/-- A report is added to a history. -/
def store {α : Type} (equals : α → α → Bool) (history : List (Item α)) (s : Item α) :
    List (Item α) :=
  let pushed := history ++ [s]
  let added := if maxReports < pushed.length then pushed.tail else pushed
  match history.getLast? with
  | some back =>
      if equals back.data s.data then
        history.dropLast ++ [{ back with mUtcReported := s.mUtcReported }]
      else added
  | none => added

namespace SystemStatusReports

variable {O : Type} (c : SystemStatusReports O) (now : Kind → Timespec)

/-- A report is stored. -/
def set (k : Kind) (data : k.Data) : SystemStatusReports O :=
  { c with
    history := Function.update c.history k
      (store k.equals (c.history k) ⟨now k, now k, data⟩) }

/-- `setTimeAndCLock`. -/
def setTimeAndCLock (nmea : SystemStatusPQWM1) : SystemStatusReports O :=
  c.set now .timeAndClock (show SystemStatusTimeAndClock from
    ⟨nmea.mGpsWeek, nmea.mGpsTowMs, nmea.mTimeValid, nmea.mTimeSource, nmea.mTimeUnc,
      nmea.mClockFreqBias, nmea.mClockFreqBiasUnc, nmea.mLeapSeconds, nmea.mLeapSecUnc⟩)

/-- `setXoState`. -/
def setXoState (nmea : SystemStatusPQWM1) : SystemStatusReports O :=
  c.set now .xoState (show SystemStatusXoState from ⟨nmea.mXoState⟩)

/-- `setRfAndParams`. -/
def setRfAndParams (nmea : SystemStatusPQWM1) : SystemStatusReports O :=
  c.set now .rfAndParams (show SystemStatusRfAndParams from
    ⟨nmea.mPgaGain, nmea.mGpsBpAmpI, nmea.mGpsBpAmpQ, nmea.mAdcI, nmea.mAdcQ, nmea.mJammerGps,
      nmea.mJammerGlo, nmea.mJammerBds, nmea.mJammerGal, nmea.mAgcGps, nmea.mAgcGlo, nmea.mAgcBds,
      nmea.mAgcGal⟩)

/-- `setErrRecovery`. -/
def setErrRecovery (nmea : SystemStatusPQWM1) : SystemStatusReports O :=
  c.set now .errRecovery (show SystemStatusErrRecovery from ⟨nmea.mRecErrorRecovery⟩)

/-- `setInjectedPosition`. -/
def setInjectedPosition (nmea : SystemStatusPQWP1) : SystemStatusReports O :=
  c.set now .injectedPosition nmea

/-- `setBestPosition`. -/
def setBestPosition (nmea : SystemStatusPQWP2) : SystemStatusReports O :=
  c.set now .bestPosition (show SystemStatusBestPosition from ⟨nmea, true⟩)

/-- `setXtra`. -/
def setXtra (nmea : SystemStatusPQWP3) : SystemStatusReports O := c.set now .xtra nmea

/-- `setEphemeris`. -/
def setEphemeris (nmea : SystemStatusPQWP4) : SystemStatusReports O := c.set now .ephemeris nmea

/-- `setSvHealth`. -/
def setSvHealth (nmea : SystemStatusPQWP5) : SystemStatusReports O := c.set now .svHealth nmea

/-- `setPdr`. -/
def setPdr (nmea : SystemStatusPQWP6) : SystemStatusReports O := c.set now .pdr nmea

/-- `setNavData`. -/
def setNavData (nmea : SystemStatusPQWP7) : SystemStatusReports O := c.set now .navData nmea

/-- `setPositionFailure`. -/
def setPositionFailure (nmea : SystemStatusPQWS1) : SystemStatusReports O :=
  c.set now .positionFailure nmea

end SystemStatusReports

/-! ## Sentences -/

/-- The types of sentences. -/
inductive Sentence
  | m1
  | p1
  | p2
  | p3
  | p4
  | p5
  | p6
  | p7
  | s1
  deriving DecidableEq, Repr

/-- What a sentence of a type starts with. -/
def Sentence.talker : Sentence → List Char
  | .m1 => ['$', 'P', 'Q', 'W', 'M', '1']
  | .p1 => ['$', 'P', 'Q', 'W', 'P', '1']
  | .p2 => ['$', 'P', 'Q', 'W', 'P', '2']
  | .p3 => ['$', 'P', 'Q', 'W', 'P', '3']
  | .p4 => ['$', 'P', 'Q', 'W', 'P', '4']
  | .p5 => ['$', 'P', 'Q', 'W', 'P', '5']
  | .p6 => ['$', 'P', 'Q', 'W', 'P', '6']
  | .p7 => ['$', 'P', 'Q', 'W', 'P', '7']
  | .s1 => ['$', 'P', 'Q', 'W', 'S', '1']

/-- The type of a sentence, by the comparisons in order. -/
def sentence (data : List Char) : Option Sentence :=
  [Sentence.m1, .p1, .p2, .p3, .p4, .p5, .p6, .p7, .s1].find? fun t =>
    data.take debugNmeaMinsize = t.talker

/-- The string in the buffer: the bytes before the first NUL. -/
def buf (data : List Char) : List Char :=
  strlcpy (debugNmeaMaxsize + 1) (data.takeWhile fun c => c.toNat != 0)

/-- What a call finds: the time of each report, and what is in memory where the record of a parser
is. -/
structure Env where
  atof : List Char → Float
  now : Kind → Timespec
  mP1 : SystemStatusPQWP1
  mP2 : SystemStatusPQWP2
  mP3 : SystemStatusPQWP3
  mP4 : SystemStatusPQWP4
  mP5 : SystemStatusPQWP5
  mP6 : SystemStatusPQWP6
  mP7 : SystemStatusPQWP7
  mS1 : SystemStatusPQWS1

section

variable {O : Type} (env : Env) (data : List Char) (c : SystemStatusReports O)

/-- `setNmeaString`: what it returns, and the cache. -/
def setNmeaString : Bool × SystemStatusReports O :=
  if !locNmeaIsDebug data data.length then (false, c)
  else
    let mField := systemStatusNmeaBase (buf data) data.length
    match sentence data with
    | some .m1 =>
        let s := systemStatusPQWM1parser env.atof mField
        (true, (((c.setTimeAndCLock env.now s).setXoState env.now s).setRfAndParams env.now
          s).setErrRecovery env.now s)
    | some .p1 =>
        (true, c.setInjectedPosition env.now (systemStatusPQWP1parser env.atof mField env.mP1))
    | some .p2 =>
        (true, c.setBestPosition env.now (systemStatusPQWP2parser env.atof mField env.mP2))
    | some .p3 => (true, c.setXtra env.now (systemStatusPQWP3parser mField env.mP3))
    | some .p4 => (true, c.setEphemeris env.now (systemStatusPQWP4parser mField env.mP4))
    | some .p5 => (true, c.setSvHealth env.now (systemStatusPQWP5parser mField env.mP5))
    | some .p6 => (true, c.setPdr env.now (systemStatusPQWP6parser mField env.mP6))
    | some .p7 => (true, c.setNavData env.now (systemStatusPQWP7parser mField env.mP7))
    | some .s1 => (true, c.setPositionFailure env.now (systemStatusPQWS1parser mField env.mS1))
    | none => (false, c)

end

/-! ## Statement -/

/-- The kinds of reports that a sentence of a type describes. -/
def Sentence.kinds : Sentence → List Kind
  | .m1 => [.timeAndClock, .xoState, .rfAndParams, .errRecovery]
  | .p1 => [.injectedPosition]
  | .p2 => [.bestPosition]
  | .p3 => [.xtra]
  | .p4 => [.ephemeris]
  | .p5 => [.svHealth]
  | .p6 => [.pdr]
  | .p7 => [.navData]
  | .s1 => [.positionFailure]

/-- How many fields a sentence of a type has, with the type itself. -/
def Sentence.eMax : Sentence → ℕ
  | .m1 => 25
  | .p1 => 9
  | .p2 => 7
  | .p3 => 13
  | .p4 => 7
  | .p5 => 17
  | .p6 => 3
  | .p7 => 2 + svAllNum * 3
  | .s1 => 4

/-- The checksum of what is between the `$` and the `*`. -/
def checksum (contents : List Char) : BitVec 8 :=
  contents.foldl (fun sum c => sum ^^^ BitVec.ofNat 8 c.toNat) 0

/-- The two digits behind the `*` are the checksum. -/
def checksumMatches (s : List Char) : Bool :=
  match s.dropWhile (· != '*') with
  | _ :: hi :: lo :: _ =>
      match digitVal 16 hi, digitVal 16 lo with
      | some x, some y =>
          checksum (s.takeWhile (· != '*')).tail == BitVec.ofNat 8 (16 * x + y)
      | _, _ => false
  | _ => false

/-- A sentence of a type that may be stored. -/
structure Sentence.Proper (t : Sentence) (data : List Char) : Prop where
  star : '*' ∈ buf data
  sum : checksumMatches (buf data) = true
  fields : t.eMax ≤ (((buf data).takeWhile (· != '*')).splitOn ',').length

/-- A sentence that should be rejected: it is no debug sentence, has an unknown type, or is not a
proper sentence of its type. -/
def Rejected (data : List Char) : Prop :=
  locNmeaIsDebug data data.length = false ∨ ∀ t, sentence data = some t → ¬ t.Proper data

/-- Only the histories of some kinds changed, and those have a report from now. -/
structure Updates {O : Type} (now : Kind → Timespec) (ks : List Kind)
    (c c' : SystemStatusReports O) : Prop where
  others : c'.others = c.others
  frame : ∀ k ∉ ks, c'.history k = c.history k
  reported : ∀ k ∈ ks, (c'.history k).getLast?.map Item.mUtcReported = some (now k)

/-- **A call is right**: a sentence that should be rejected has no effect, and any other updates
just the histories that its type describes. -/
structure Right {O : Type} (env : Env) (data : List Char) (c : SystemStatusReports O) : Prop where
  rejected : Rejected data → setNmeaString env data c = (false, c)
  accepted : ∀ t, ¬ Rejected data → sentence data = some t →
    (setNmeaString env data c).1 = true ∧
      Updates env.now t.kinds c (setNmeaString env data c).2

/-! ## Histories -/

section

variable {O : Type} {now : Kind → Timespec} {ks ks' : List Kind} {c c' c'' : SystemStatusReports O}

/-- **What is stored was reported just now.** -/
lemma getLast_store {α : Type} {equals : α → α → Bool} {history : List (Item α)} {s : Item α} :
    (store equals history s).getLast?.map Item.mUtcReported = some s.mUtcReported := by
  have hadded : (if maxReports < (history ++ [s]).length then (history ++ [s]).tail
      else history ++ [s]).getLast?.map Item.mUtcReported = some s.mUtcReported := by
    split_ifs with h
    · cases history with
      | nil => exact absurd h (by simp [maxReports])
      | cons a history => simp
    · simp
  rw [store]
  split
  · rename_i back _
    cases equals back.data s.data with
    | true => simp
    | false => exact hadded
  · exact hadded

lemma updates_set (k : Kind) (data : k.Data) : Updates now [k] c (c.set now k data) := by
  refine ⟨rfl, fun k' hk' => ?_, fun k' hk' => ?_⟩
  · simp only [SystemStatusReports.set]
    rw [Function.update_of_ne (List.ne_of_not_mem_cons hk')]
  · obtain rfl := List.mem_singleton.mp hk'
    simp only [SystemStatusReports.set]
    rw [Function.update_self]
    exact getLast_store

lemma Updates.trans (h : Updates now ks c c') (h' : Updates now ks' c' c'') :
    Updates now (ks ++ ks') c c'' := by
  refine ⟨h'.others.trans h.others, fun k hk => ?_, fun k hk => ?_⟩
  · rw [List.mem_append, not_or] at hk
    rw [h'.frame k hk.2, h.frame k hk.1]
  · by_cases hk' : k ∈ ks'
    · exact h'.reported k hk'
    · rw [h'.frame k hk']
      exact h.reported k ((List.mem_append.mp hk).resolve_right hk')

end

/-! ## What is stored -/

section

variable {O : Type} {env : Env} {data : List Char} {c : SystemStatusReports O} {t : Sentence}

/-- **A debug sentence of a known type is stored**, whatever else is wrong with it. -/
theorem setNmeaString_stores (env : Env) (c : SystemStatusReports O)
    (hdebug : locNmeaIsDebug data data.length = true)
    (ht : sentence data = some t) : (setNmeaString env data c).1 = true ∧
      Updates env.now t.kinds c (setNmeaString env data c).2 := by
  rw [setNmeaString, hdebug, ht]
  cases t with
  | m1 =>
      refine ⟨rfl, ?_⟩
      exact (((updates_set _ _).trans (updates_set _ _)).trans (updates_set _ _)).trans
        (updates_set _ _)
  | p1 => exact ⟨rfl, updates_set _ _⟩
  | p2 => exact ⟨rfl, updates_set _ _⟩
  | p3 => exact ⟨rfl, updates_set _ _⟩
  | p4 => exact ⟨rfl, updates_set _ _⟩
  | p5 => exact ⟨rfl, updates_set _ _⟩
  | p6 => exact ⟨rfl, updates_set _ _⟩
  | p7 => exact ⟨rfl, updates_set _ _⟩
  | s1 => exact ⟨rfl, updates_set _ _⟩

/-- Any other sentence has no effect. -/
lemma setNmeaString_ignores
    (h : locNmeaIsDebug data data.length = false ∨ sentence data = none) :
    setNmeaString env data c = (false, c) := by
  rw [setNmeaString]
  split_ifs with hdebug
  · rfl
  · rcases h with h | h
    · simp [h] at hdebug
    · rw [h]

end

/-- **A call is right** just if the sentence, when it is a debug sentence of a known type, has a
`*`, the right checksum and enough fields. -/
theorem setNmeaString_right_iff {O : Type} (env : Env) (data : List Char)
    (c : SystemStatusReports O) : Right env data c ↔
      (locNmeaIsDebug data data.length = true → ∀ t, sentence data = some t → t.Proper data) := by
  constructor
  · intro hright hdebug t ht
    by_contra hproper
    have hrejected : Rejected data := by
      refine Or.inr fun t' ht' => ?_
      obtain rfl := Option.some_inj.mp (ht'.symm.trans ht)
      exact hproper
    have hret := (setNmeaString_stores env c hdebug ht).1
    rw [hright.rejected hrejected] at hret
    cases hret
  · intro h
    refine ⟨fun hrejected => ?_, fun t hnot ht => ?_⟩
    · refine setNmeaString_ignores ?_
      cases hdebug : locNmeaIsDebug data data.length with
      | false => exact Or.inl rfl
      | true =>
          right
          cases ht : sentence data with
          | none => rfl
          | some t =>
              have hproper := h hdebug t ht
              rcases hrejected with hfalse | hnone
              · rw [hfalse] at hdebug
                cases hdebug
              · exact absurd hproper (hnone t ht)
    · have hdebug : locNmeaIsDebug data data.length = true :=
        Bool.not_eq_false _ ▸ (not_or.mp hnot).1
      exact setNmeaString_stores env c hdebug ht

/-- A call that finds zeros everywhere. -/
def zeroEnv : Env where
  atof _ := 0
  now _ := ⟨0, 0⟩
  mP1 := ⟨0, 0, 0, 0, 0, 0, 0⟩
  mP2 := ⟨0, 0, 0, 0, 0⟩
  mP3 := ⟨0, 0, 0, 0, 0, 0, 0, 0, 0, 0, 0⟩
  mP4 := ⟨0, 0, 0, 0, 0⟩
  mP5 := ⟨0, 0, 0, 0, 0, 0, 0, 0, 0, 0, 0, 0, 0, 0, 0⟩
  mP6 := ⟨0⟩
  mP7 := ⟨fun _ => ⟨0, 0, 0⟩⟩
  mS1 := ⟨0, 0⟩

/-- **A sentence with a wrong checksum is stored.** -/
theorem wrong_checksum_is_stored : ∃ data : List Char,
    data = ['$', 'P', 'Q', 'W', 'P', '6', ',', '1', ',', '2', '*', '0', '0'] ∧
      ¬ Right zeroEnv data (⟨fun _ => [], ()⟩ : SystemStatusReports Unit) := by
  refine ⟨_, rfl, fun hright => ?_⟩
  have ht : sentence ['$', 'P', 'Q', 'W', 'P', '6', ',', '1', ',', '2', '*', '0', '0'] =
      some .p6 := by decide
  have hstores := (setNmeaString_stores zeroEnv (⟨fun _ => [], ()⟩ : SystemStatusReports Unit)
    (by decide) ht).1
  have hrejected : Rejected ['$', 'P', 'Q', 'W', 'P', '6', ',', '1', ',', '2', '*', '0', '0'] := by
    refine Or.inr fun t ht' hproper => ?_
    exact absurd hproper.sum (by decide)
  rw [hright.rejected hrejected] at hstores
  cases hstores

end Gps.Nmea
