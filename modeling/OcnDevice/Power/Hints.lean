import OcnDevice.Core.Run

/-!
# The hints of the power HAL

`Power` turns the hints of the framework into hints of libperfmgr, which are held until they are
ended.  Two modes, VR and sustained performance, have a hint each and a third one for both together,
and while one of them is on most other hints are ignored.  What is on is written to two system
properties, and the thread that initializes the object reads them, so that a process that was
started again takes up what its predecessor left.  The service has one thread, so that hints come
one after another.

The hint manager is not part of the repository.  What it is told is kept as a list, latest first,
and a hint is held when the last call that names it holds it (`held`).

Few hints leave a trace in the flags or in the properties (`next_asks`).  The hints held are those
of the modes in every state, whatever is lost of the properties (`hints_match_modes`).
-/

namespace Power

/-! ## The object -/

/-- The hints of libperfmgr that `Power` names. -/
inductive HintName
  | videoEncode
  | sustainedPerformance
  | vrMode
  | vrSustainedPerformance
  | launch
  | audioLowLatency
  | audioStreaming
  | cameraLaunch
  | cameraStreaming
  | cameraShot
  deriving DecidableEq, Repr

/-- A call on `mHintManager` or `mInteractionHandler`. -/
inductive HintCall
  | doHint (name : HintName)
  | doHintFor (name : HintName) (ms : ℤ)
  | endHint (name : HintName)
  | acquire (data : ℤ)
  deriving DecidableEq, Repr

/-- `Power`, with the calls it has made, latest first. -/
structure Hal where
  calls : List HintCall := []
  vrModeOn : Bool := false
  sustainedPerfModeOn : Bool := false
  encoderModeOn : Bool := false
  ready : Bool := false
  deriving DecidableEq, Repr

/-- The object, and the properties `vendor.powerhal.state` and `vendor.powerhal.audio`. -/
structure PowerSys where
  hal : Hal := {}
  stateProp : String := ""
  audioProp : String := ""
  deriving DecidableEq, Repr

/-- The last call that names the hint holds it until it is ended. -/
def held (n : HintName) : List HintCall → Bool
  | [] => false
  | .doHint m :: l => if m = n then true else held n l
  | .doHintFor m _ :: l => if m = n then false else held n l
  | .endHint m :: l => if m = n then false else held n l
  | .acquire _ :: l => held n l

namespace PowerSys

variable (s : PowerSys)

/-- Make a call. -/
def call (c : HintCall) : PowerSys := { s with hal := { s.hal with calls := c :: s.hal.calls } }

/-- `SetProperty(kPowerHalStateProp, v)` -/
def setState (ok : Bool) (v : String) : PowerSys := if ok then { s with stateProp := v } else s

/-- `SetProperty(kPowerHalAudioProp, v)` -/
def setAudio (ok : Bool) (v : String) : PowerSys := if ok then { s with audioProp := v } else s

/-- `mEncoderModeOn = b` -/
def setEncoder (b : Bool) : PowerSys := { s with hal := { s.hal with encoderModeOn := b } }

/-- `mSustainedPerfModeOn = b` -/
def setSustained (b : Bool) : PowerSys := { s with hal := { s.hal with sustainedPerfModeOn := b } }

/-- `mVRModeOn = b` -/
def setVr (b : Bool) : PowerSys := { s with hal := { s.hal with vrModeOn := b } }

@[simp] lemma call_stateProp (c : HintCall) : (s.call c).stateProp = s.stateProp := rfl
@[simp] lemma call_audioProp (c : HintCall) : (s.call c).audioProp = s.audioProp := rfl
@[simp] lemma setState_hal (ok : Bool) (v : String) : (s.setState ok v).hal = s.hal := by
  cases ok <;> rfl
@[simp] lemma setState_stateProp (ok : Bool) (v : String) :
    (s.setState ok v).stateProp = if ok then v else s.stateProp := by
  cases ok <;> rfl
@[simp] lemma setState_audioProp (ok : Bool) (v : String) :
    (s.setState ok v).audioProp = s.audioProp := by
  cases ok <;> rfl
@[simp] lemma setAudio_hal (ok : Bool) (v : String) : (s.setAudio ok v).hal = s.hal := by
  cases ok <;> rfl
@[simp] lemma setAudio_stateProp (ok : Bool) (v : String) :
    (s.setAudio ok v).stateProp = s.stateProp := by
  cases ok <;> rfl
@[simp] lemma setAudio_audioProp (ok : Bool) (v : String) :
    (s.setAudio ok v).audioProp = if ok then v else s.audioProp := by
  cases ok <;> rfl

/-- The state that `mInitThread` takes up from the property. -/
def initState : PowerSys :=
  if s.stateProp = "VIDEO_ENCODE" then (s.call (.doHint .videoEncode)).setEncoder true
  else if s.stateProp = "SUSTAINED_PERFORMANCE" then
    (s.call (.doHint .sustainedPerformance)).setSustained true
  else if s.stateProp = "VR_MODE" then (s.call (.doHint .vrMode)).setVr true
  else if s.stateProp = "VR_SUSTAINED_PERFORMANCE" then
    ((s.call (.doHint .vrSustainedPerformance)).setSustained true).setVr true
  else s

/-- The audio state that it takes up. -/
def initAudio : PowerSys :=
  if s.audioProp = "LOW_LATENCY" then s.call (.doHint .audioLowLatency) else s

/-- What `mInitThread` does, up to `mReady.store(true)`. -/
def init : PowerSys :=
  let s := s.initState.initAudio
  { s with hal := { s.hal with ready := true } }

/-- The process dies and is started again. -/
def restart : PowerSys := { s with hal := {} }

/-- One of the modes is on. -/
def busy : Bool := s.hal.vrModeOn || s.hal.sustainedPerfModeOn

end PowerSys

/-! ## Hints of the framework -/

/-- `PowerHint_1_0`, as far as it is told apart. -/
inductive PowerHint10
  | interaction
  | videoEncode
  | sustainedPerformance
  | vrMode
  | launch
  | other
  deriving DecidableEq, Repr

/-- `PowerHint_1_2`; the hints of 1.0 are passed on. -/
inductive PowerHint12
  | audioLowLatency
  | audioStreaming
  | cameraLaunch
  | cameraStreaming
  | cameraShot
  | base (hint : PowerHint10)
  deriving DecidableEq, Repr

/-- `isSupportedGovernor`, for what is read and trimmed. -/
def isSupportedGovernor (buf : String) : Bool := buf = "schedutil" || buf = "sched"

namespace PowerSys

variable (s : PowerSys) (ok : Bool) (data : ℤ)

/-- The case `VIDEO_ENCODE` of `powerHint`.  The modes are looked at twice. -/
def videoEncode : PowerSys :=
  if s.busy then s
  else if data ≠ 0 then
    ((s.call (.doHint .videoEncode)).setState ok "VIDEO_ENCODE").setEncoder true
  else ((s.call (.endHint .videoEncode)).setState ok "").setEncoder false

/-- The case `SUSTAINED_PERFORMANCE` of `powerHint`. -/
def sustainedPerformance : PowerSys :=
  if data ≠ 0 ∧ s.hal.sustainedPerfModeOn = false then
    let s :=
      if s.hal.vrModeOn = false then
        (s.call (.doHint .sustainedPerformance)).setState ok "SUSTAINED_PERFORMANCE"
      else
        ((s.call (.endHint .vrMode)).call (.doHint .vrSustainedPerformance)).setState ok
          "VR_SUSTAINED_PERFORMANCE"
    s.setSustained true
  else if data = 0 ∧ s.hal.sustainedPerfModeOn then
    let s := (s.call (.endHint .vrSustainedPerformance)).call (.endHint .sustainedPerformance)
    let s :=
      if s.hal.vrModeOn then (s.call (.doHint .vrMode)).setState ok "VR_MODE"
      else s.setState ok ""
    s.setSustained false
  else s

/-- The case `VR_MODE` of `powerHint`. -/
def vrMode : PowerSys :=
  if data ≠ 0 ∧ s.hal.vrModeOn = false then
    let s :=
      if s.hal.sustainedPerfModeOn = false then
        (s.call (.doHint .vrMode)).setState ok "VR_MODE"
      else
        ((s.call (.endHint .sustainedPerformance)).call
          (.doHint .vrSustainedPerformance)).setState ok "VR_SUSTAINED_PERFORMANCE"
    s.setVr true
  else if data = 0 ∧ s.hal.vrModeOn then
    let s := (s.call (.endHint .vrSustainedPerformance)).call (.endHint .vrMode)
    let s :=
      if s.hal.sustainedPerfModeOn then
        (s.call (.doHint .sustainedPerformance)).setState ok "SUSTAINED_PERFORMANCE"
      else s.setState ok ""
    s.setVr false
  else s

/-- A hint that is held until it is ended, unless a mode is on. -/
def plainHint (name : HintName) : PowerSys :=
  if s.busy then s
  else if data ≠ 0 then s.call (.doHint name)
  else s.call (.endHint name)

/-- A hint of the camera: for some milliseconds, or ended. -/
def cameraHint (name : HintName) : PowerSys :=
  if 0 < data then s.call (.doHintFor name data)
  else if data = 0 then s.call (.endHint name)
  else s

/-- The switch of `powerHint`. -/
def handle10 : PowerHint10 → PowerSys
  | .interaction => if s.busy then s else s.call (.acquire data)
  | .videoEncode => s.videoEncode ok data
  | .sustainedPerformance => s.sustainedPerformance ok data
  | .vrMode => s.vrMode ok data
  | .launch => s.plainHint data .launch
  | .other => s

/-- `powerHint`, which `powerHintAsync` calls. -/
def powerHint (governor : String) (hint : PowerHint10) : PowerSys :=
  if isSupportedGovernor governor = false ∨ s.hal.ready = false then s
  else s.handle10 ok data hint

/-- The case `AUDIO_LOW_LATENCY` of `powerHintAsync_1_2`. -/
def audioLowLatency : PowerSys :=
  if data ≠ 0 then (s.call (.doHint .audioLowLatency)).setAudio ok "LOW_LATENCY"
  else (s.call (.endHint .audioLowLatency)).setAudio ok ""

/-- The case `CAMERA_LAUNCH` of `powerHintAsync_1_2`, which also boosts the launch. -/
def cameraLaunch : PowerSys :=
  if 0 < data then (s.call (.doHintFor .cameraLaunch data)).call (.doHintFor .launch 2500)
  else s.cameraHint data .cameraLaunch

/-- `powerHintAsync_1_2`.  Passing a hint on reads the governor again. -/
def powerHintAsync12 (governor governor' : String) (hint : PowerHint12) : PowerSys :=
  if isSupportedGovernor governor = false ∨ s.hal.ready = false then s
  else match hint with
    | .audioLowLatency => s.audioLowLatency ok data
    | .audioStreaming => s.plainHint data .audioStreaming
    | .cameraLaunch => s.cameraLaunch data
    | .cameraStreaming => s.cameraHint data .cameraStreaming
    | .cameraShot => s.cameraHint data .cameraShot
    | .base h => s.powerHint ok data governor' h

end PowerSys

/-! ## Runs -/

/-- What happens: a call with the governor and the outcome of `SetProperty`, the end of the
initialization, a restart. -/
inductive PowerEvent
  | hint (governor : String) (ok : Bool) (hint : PowerHint10) (data : ℤ)
  | hint12 (governor governor' : String) (ok : Bool) (hint : PowerHint12) (data : ℤ)
  | init
  | restart
  deriving DecidableEq, Repr

/-- The state behind an event. -/
def PowerEvent.next (s : PowerSys) : PowerEvent → PowerSys
  | .hint governor ok h data => s.powerHint ok data governor h
  | .hint12 governor governor' ok h data => s.powerHintAsync12 ok data governor governor' h
  | .init => s.init
  | .restart => s.restart

/-- An event happens.  An object is initialized once. -/
def PowerStep (s : PowerSys) (e : PowerEvent) (t : PowerSys) : Prop :=
  (e = .init → s.hal.ready = false) ∧ e.next s = t

/-! ## What an event switches -/

/-- The hints that leave a trace in the flags or in the properties. -/
inductive Switch
  | encode
  | sustained
  | vr
  | audio
  deriving DecidableEq, Repr

/-- Handle such a hint. -/
def Switch.apply (s : PowerSys) (ok : Bool) (data : ℤ) : Switch → PowerSys
  | .encode => s.videoEncode ok data
  | .sustained => s.sustainedPerformance ok data
  | .vr => s.vrMode ok data
  | .audio => s.audioLowLatency ok data

/-- The switch of a hint of 1.0. -/
def PowerHint10.switch : PowerHint10 → Option Switch
  | .videoEncode => some .encode
  | .sustainedPerformance => some .sustained
  | .vrMode => some .vr
  | _ => none

/-- What an event switches, with the outcome of `SetProperty` and the data of the hint; hints that
are not listened to switch nothing. -/
def PowerEvent.asks (s : PowerSys) : PowerEvent → Option (Switch × Bool × ℤ)
  | .hint governor ok h data =>
      if isSupportedGovernor governor = false ∨ s.hal.ready = false then none
      else h.switch.map fun w => (w, ok, data)
  | .hint12 governor governor' ok h data =>
      if isSupportedGovernor governor = false ∨ s.hal.ready = false then none
      else match h with
        | .audioLowLatency => some (.audio, ok, data)
        | .base h =>
            if isSupportedGovernor governor' = false then none
            else h.switch.map fun w => (w, ok, data)
        | _ => none
  | _ => none

/-- The hints that are held for a flag or written to a property. -/
def HintName.stored : HintName → Bool
  | .videoEncode | .sustainedPerformance | .vrMode | .vrSustainedPerformance
  | .audioLowLatency => true
  | _ => false

/-- Nothing has changed but hints that are not stored. -/
structure Same (s t : PowerSys) : Prop where
  vr : t.hal.vrModeOn = s.hal.vrModeOn
  sustained : t.hal.sustainedPerfModeOn = s.hal.sustainedPerfModeOn
  encoder : t.hal.encoderModeOn = s.hal.encoderModeOn
  ready : t.hal.ready = s.hal.ready
  stateProp : t.stateProp = s.stateProp
  audioProp : t.audioProp = s.audioProp
  held : ∀ n, n.stored = true → held n t.hal.calls = held n s.hal.calls

namespace Same

variable {s t u : PowerSys}

lemma refl (s : PowerSys) : Same s s := ⟨rfl, rfl, rfl, rfl, rfl, rfl, fun _ _ => rfl⟩

lemma trans (h : Same s t) (h' : Same t u) : Same s u :=
  ⟨h'.vr.trans h.vr, h'.sustained.trans h.sustained, h'.encoder.trans h.encoder,
    h'.ready.trans h.ready, h'.stateProp.trans h.stateProp, h'.audioProp.trans h.audioProp,
    fun n hn => (h'.held n hn).trans (h.held n hn)⟩

/-- A call that names no stored hint. -/
lemma call {c : HintCall} (h : ∀ n l, n.stored = true → Power.held n (c :: l) = Power.held n l) :
    Same s (s.call c) :=
  ⟨rfl, rfl, rfl, rfl, rfl, rfl, fun n hn => h n _ hn⟩

variable {m : HintName}

lemma doHint (hm : m.stored = false) : Same s (s.call (.doHint m)) :=
  .call fun n l hn => if_neg fun h => by rw [h, hn] at hm; cases hm

lemma doHintFor (ms : ℤ) (hm : m.stored = false) : Same s (s.call (.doHintFor m ms)) :=
  .call fun n l hn => if_neg fun h => by rw [h, hn] at hm; cases hm

lemma endHint (hm : m.stored = false) : Same s (s.call (.endHint m)) :=
  .call fun n l hn => if_neg fun h => by rw [h, hn] at hm; cases hm

lemma plainHint (data : ℤ) (hm : m.stored = false) : Same s (s.plainHint data m) := by
  unfold PowerSys.plainHint
  split_ifs
  · exact refl s
  · exact doHint hm
  · exact endHint hm

lemma cameraHint (data : ℤ) (hm : m.stored = false) : Same s (s.cameraHint data m) := by
  unfold PowerSys.cameraHint
  split_ifs
  · exact doHintFor data hm
  · exact endHint hm
  · exact refl s

lemma cameraLaunch (data : ℤ) : Same s (s.cameraLaunch data) := by
  unfold PowerSys.cameraLaunch
  split_ifs
  · exact (doHintFor data rfl).trans (doHintFor 2500 rfl)
  · exact cameraHint data rfl

end Same

/-- A hint of 1.0 that switches nothing changes nothing that is stored. -/
lemma handle10_switch (s : PowerSys) (ok : Bool) (data : ℤ) (h : PowerHint10) :
    (h.switch = none → Same s (s.handle10 ok data h)) ∧
      ∀ w, h.switch = some w → s.handle10 ok data h = w.apply s ok data := by
  cases h with
  | interaction =>
      refine ⟨fun _ => ?_, fun w hw => by cases hw⟩
      simp only [PowerSys.handle10]
      split_ifs
      · exact .refl s
      · exact .call fun _ _ _ => rfl
  | launch => exact ⟨fun _ => .plainHint data rfl, fun w hw => by cases hw⟩
  | other => exact ⟨fun _ => .refl s, fun w hw => by cases hw⟩
  | _ =>
      refine ⟨fun hw => ?_, fun w hw => ?_⟩
      · cases hw
      · cases hw
        rfl

/-- **What a hint does**: it switches what it asks to, and otherwise changes nothing that is
stored. -/
theorem next_asks {s : PowerSys} {e : PowerEvent} (hi : e ≠ .init) (hr : e ≠ .restart) :
    (e.asks s = none → Same s (e.next s)) ∧
      ∀ w ok data, e.asks s = some (w, ok, data) →
        s.hal.ready = true ∧ e.next s = w.apply s ok data := by
  have h10 : ∀ governor ok h data, isSupportedGovernor governor = true → s.hal.ready = true →
      s.powerHint ok data governor h = s.handle10 ok data h := by
    intro governor ok h data hg hready
    rw [PowerSys.powerHint, if_neg (by simp [hg, hready])]
  cases e with
  | init => exact absurd rfl hi
  | restart => exact absurd rfl hr
  | hint governor ok h data =>
      simp only [PowerEvent.asks, PowerEvent.next]
      by_cases hoff : isSupportedGovernor governor = false ∨ s.hal.ready = false
      · rw [if_pos hoff, PowerSys.powerHint, if_pos hoff]
        exact ⟨fun _ => .refl s, fun w ok data h => by cases h⟩
      rw [if_neg hoff]
      simp only [not_or, Bool.not_eq_false] at hoff
      rw [h10 governor ok h data hoff.1 hoff.2]
      obtain ⟨hno, hsome⟩ := handle10_switch s ok data h
      refine ⟨fun hn => hno (Option.map_eq_none_iff.mp hn), fun w ok' data' hw => ⟨hoff.2, ?_⟩⟩
      obtain ⟨w', hw', heq⟩ := Option.map_eq_some_iff.mp hw
      cases heq
      exact hsome w hw'
  | hint12 governor governor' ok h data =>
      simp only [PowerEvent.asks, PowerEvent.next, PowerSys.powerHintAsync12]
      by_cases hoff : isSupportedGovernor governor = false ∨ s.hal.ready = false
      · rw [if_pos hoff, if_pos hoff]
        exact ⟨fun _ => .refl s, fun w ok data h => by cases h⟩
      rw [if_neg hoff, if_neg hoff]
      simp only [not_or, Bool.not_eq_false] at hoff
      cases h with
      | audioLowLatency =>
          refine ⟨fun hn => ?_, fun w ok data hw => ?_⟩
          · cases hn
          · cases hw
            exact ⟨hoff.2, rfl⟩
      | audioStreaming => exact ⟨fun _ => .plainHint data rfl, fun w ok data hw => by cases hw⟩
      | cameraLaunch => exact ⟨fun _ => .cameraLaunch data, fun w ok data hw => by cases hw⟩
      | cameraStreaming => exact ⟨fun _ => .cameraHint data rfl, fun w ok data hw => by cases hw⟩
      | cameraShot => exact ⟨fun _ => .cameraHint data rfl, fun w ok data hw => by cases hw⟩
      | base h =>
          by_cases hg : isSupportedGovernor governor' = false
          · simp only [if_pos hg, PowerSys.powerHint, if_pos (Or.inl hg)]
            exact ⟨fun _ => .refl s, fun w ok data h => by cases h⟩
          simp only [if_neg hg]
          rw [h10 governor' ok h data (by simpa using hg) hoff.2]
          obtain ⟨hno, hsome⟩ := handle10_switch s ok data h
          refine ⟨fun hn => hno (Option.map_eq_none_iff.mp hn), fun w ok' data' hw => ⟨hoff.2, ?_⟩⟩
          obtain ⟨w', hw', heq⟩ := Option.map_eq_some_iff.mp hw
          cases heq
          exact hsome w hw'

/-! ## The hints of the modes -/

/-- **The hints held are those of the flags.** -/
structure Matches (s : PowerSys) : Prop where
  sustained : held .sustainedPerformance s.hal.calls =
    (s.hal.sustainedPerfModeOn && !s.hal.vrModeOn)
  vr : held .vrMode s.hal.calls = (s.hal.vrModeOn && !s.hal.sustainedPerfModeOn)
  both : held .vrSustainedPerformance s.hal.calls =
    (s.hal.vrModeOn && s.hal.sustainedPerfModeOn)
  encoder : held .videoEncode s.hal.calls = s.hal.encoderModeOn

section Invariant

variable {s t : PowerSys} {e : PowerEvent}

lemma Matches.same (h : Matches s) (hs : Same s t) : Matches t := by
  constructor
  · rw [hs.held _ rfl, hs.sustained, hs.vr, h.sustained]
  · rw [hs.held _ rfl, hs.sustained, hs.vr, h.vr]
  · rw [hs.held _ rfl, hs.sustained, hs.vr, h.both]
  · rw [hs.held _ rfl, hs.encoder, h.encoder]

lemma Matches.videoEncode (h : Matches s) (ok : Bool) (data : ℤ) :
    Matches (s.videoEncode ok data) := by
  unfold PowerSys.videoEncode
  split_ifs
  · exact h
  · constructor <;> simp [PowerSys.setEncoder, PowerSys.call, held, h.sustained, h.vr, h.both]
  · constructor <;> simp [PowerSys.setEncoder, PowerSys.call, held, h.sustained, h.vr, h.both]

/-- The ways the sustained performance mode is switched. -/
lemma sustainedPerformance_cases (s : PowerSys) (ok : Bool) (data : ℤ) :
    (s.hal.sustainedPerfModeOn = decide (data ≠ 0) ∧ s.sustainedPerformance ok data = s) ∨
    (s.hal.sustainedPerfModeOn = false ∧ data ≠ 0 ∧ s.hal.vrModeOn = false ∧
      s.sustainedPerformance ok data = ((s.call (.doHint .sustainedPerformance)).setState ok
        "SUSTAINED_PERFORMANCE").setSustained true) ∨
    (s.hal.sustainedPerfModeOn = false ∧ data ≠ 0 ∧ s.hal.vrModeOn = true ∧
      s.sustainedPerformance ok data = (((s.call (.endHint .vrMode)).call
        (.doHint .vrSustainedPerformance)).setState ok "VR_SUSTAINED_PERFORMANCE").setSustained
          true) ∨
    (s.hal.sustainedPerfModeOn = true ∧ data = 0 ∧ s.hal.vrModeOn = true ∧
      s.sustainedPerformance ok data = ((((s.call (.endHint .vrSustainedPerformance)).call
        (.endHint .sustainedPerformance)).call (.doHint .vrMode)).setState ok
          "VR_MODE").setSustained false) ∨
    (s.hal.sustainedPerfModeOn = true ∧ data = 0 ∧ s.hal.vrModeOn = false ∧
      s.sustainedPerformance ok data = (((s.call (.endHint .vrSustainedPerformance)).call
        (.endHint .sustainedPerformance)).setState ok "").setSustained false) := by
  unfold PowerSys.sustainedPerformance
  by_cases hd : data = 0 <;> cases hs : s.hal.sustainedPerfModeOn <;>
    cases hv : s.hal.vrModeOn <;> simp [hd, hv, PowerSys.call]

lemma Matches.sustainedPerformance (h : Matches s) (ok : Bool) (data : ℤ) :
    Matches (s.sustainedPerformance ok data) := by
  obtain ⟨h1, h2, h3, h4⟩ := h
  rcases sustainedPerformance_cases s ok data with ⟨-, heq⟩ | ⟨hs, -, hv, heq⟩ |
    ⟨hs, -, hv, heq⟩ | ⟨hs, -, hv, heq⟩ | ⟨hs, -, hv, heq⟩
  · rw [heq]
    exact ⟨h1, h2, h3, h4⟩
  all_goals
    rw [hs, hv] at h1 h2 h3
    rw [heq]
    constructor <;> simp [PowerSys.setSustained, PowerSys.call, held, hv, h1, h2, h3, h4]

/-- The ways the VR mode is switched. -/
lemma vrMode_cases (s : PowerSys) (ok : Bool) (data : ℤ) :
    (s.hal.vrModeOn = decide (data ≠ 0) ∧ s.vrMode ok data = s) ∨
    (s.hal.vrModeOn = false ∧ data ≠ 0 ∧ s.hal.sustainedPerfModeOn = false ∧
      s.vrMode ok data = ((s.call (.doHint .vrMode)).setState ok "VR_MODE").setVr true) ∨
    (s.hal.vrModeOn = false ∧ data ≠ 0 ∧ s.hal.sustainedPerfModeOn = true ∧
      s.vrMode ok data = (((s.call (.endHint .sustainedPerformance)).call
        (.doHint .vrSustainedPerformance)).setState ok "VR_SUSTAINED_PERFORMANCE").setVr true) ∨
    (s.hal.vrModeOn = true ∧ data = 0 ∧ s.hal.sustainedPerfModeOn = true ∧
      s.vrMode ok data = ((((s.call (.endHint .vrSustainedPerformance)).call
        (.endHint .vrMode)).call (.doHint .sustainedPerformance)).setState ok
          "SUSTAINED_PERFORMANCE").setVr false) ∨
    (s.hal.vrModeOn = true ∧ data = 0 ∧ s.hal.sustainedPerfModeOn = false ∧
      s.vrMode ok data = (((s.call (.endHint .vrSustainedPerformance)).call
        (.endHint .vrMode)).setState ok "").setVr false) := by
  unfold PowerSys.vrMode
  by_cases hd : data = 0 <;> cases hs : s.hal.sustainedPerfModeOn <;>
    cases hv : s.hal.vrModeOn <;> simp [hd, hs, PowerSys.call]

lemma Matches.vrMode (h : Matches s) (ok : Bool) (data : ℤ) : Matches (s.vrMode ok data) := by
  obtain ⟨h1, h2, h3, h4⟩ := h
  rcases vrMode_cases s ok data with ⟨-, heq⟩ | ⟨hv, -, hs, heq⟩ | ⟨hv, -, hs, heq⟩ |
    ⟨hv, -, hs, heq⟩ | ⟨hv, -, hs, heq⟩
  · rw [heq]
    exact ⟨h1, h2, h3, h4⟩
  all_goals
    rw [hs, hv] at h1 h2 h3
    rw [heq]
    constructor <;> simp [PowerSys.setVr, PowerSys.call, held, hs, h1, h2, h3, h4]

lemma Matches.audioLowLatency (h : Matches s) (ok : Bool) (data : ℤ) :
    Matches (s.audioLowLatency ok data) := by
  unfold PowerSys.audioLowLatency
  split_ifs
  · constructor <;> simp [PowerSys.call, held, h.sustained, h.vr, h.both, h.encoder]
  · constructor <;> simp [PowerSys.call, held, h.sustained, h.vr, h.both, h.encoder]

lemma Matches.apply (h : Matches s) (w : Switch) (ok : Bool) (data : ℤ) :
    Matches (w.apply s ok data) := by
  cases w with
  | encode => exact h.videoEncode ok data
  | sustained => exact h.sustainedPerformance ok data
  | vr => exact h.vrMode ok data
  | audio => exact h.audioLowLatency ok data

lemma Matches.initState (h : s.hal = {}) : Matches s.initState := by
  unfold PowerSys.initState
  split_ifs <;> constructor <;>
    simp [PowerSys.call, PowerSys.setEncoder, PowerSys.setSustained, PowerSys.setVr, held, h]

lemma Matches.initAudio (h : Matches s) : Matches s.initAudio := by
  unfold PowerSys.initAudio
  split_ifs
  · constructor <;> simp [PowerSys.call, held, h.sustained, h.vr, h.both, h.encoder]
  · exact h

/-- An object that is initialized takes up what the property says and holds that. -/
lemma Matches.init (h : s.hal = {}) : Matches s.init := by
  obtain ⟨h1, h2, h3, h4⟩ := (Matches.initState h).initAudio
  exact ⟨h1, h2, h3, h4⟩

/-- What every state has: the hints of the modes, and nothing before the initialization. -/
structure Sound (s : PowerSys) : Prop where
  modes : Matches s
  idle : s.hal.ready = false → s.hal = {}

lemma Sound.fresh (h : s.hal = {}) : Sound s := by
  refine ⟨?_, fun _ => h⟩
  constructor <;> rw [h] <;> rfl

/-- What a switch does not do. -/
lemma apply_ready (s : PowerSys) (w : Switch) (ok : Bool) (data : ℤ) :
    (w.apply s ok data).hal.ready = s.hal.ready := by
  cases w with
  | encode =>
      simp only [Switch.apply, PowerSys.videoEncode]
      split_ifs <;> simp [PowerSys.setEncoder, PowerSys.call]
  | sustained =>
      simp only [Switch.apply]
      rcases sustainedPerformance_cases s ok data with ⟨-, heq⟩ | ⟨-, -, -, heq⟩ |
        ⟨-, -, -, heq⟩ | ⟨-, -, -, heq⟩ | ⟨-, -, -, heq⟩ <;>
        rw [heq] <;> simp [PowerSys.setSustained, PowerSys.call]
  | vr =>
      simp only [Switch.apply]
      rcases vrMode_cases s ok data with ⟨-, heq⟩ | ⟨-, -, -, heq⟩ |
        ⟨-, -, -, heq⟩ | ⟨-, -, -, heq⟩ | ⟨-, -, -, heq⟩ <;>
        rw [heq] <;> simp [PowerSys.setVr, PowerSys.call]
  | audio =>
      simp only [Switch.apply, PowerSys.audioLowLatency]
      split_ifs <;> simp [PowerSys.call]

/-- Hints that are not listened to leave the object as it is. -/
lemma next_of_not_ready (hr : s.hal.ready = false) (hi : e ≠ .init) (hre : e ≠ .restart) :
    e.next s = s := by
  cases e with
  | init => exact absurd rfl hi
  | restart => exact absurd rfl hre
  | hint governor ok h data => exact if_pos (Or.inr hr)
  | hint12 governor governor' ok h data => exact if_pos (Or.inr hr)

lemma Sound.step (h : Sound s) (hst : PowerStep s e t) : Sound t := by
  obtain ⟨hinit, rfl⟩ := hst
  by_cases hi : e = .init
  · subst hi
    exact ⟨Matches.init (h.idle (hinit rfl)), fun hr => by cases hr⟩
  by_cases hre : e = .restart
  · subst hre
    exact Sound.fresh rfl
  cases hr : s.hal.ready with
  | false => rwa [next_of_not_ready hr hi hre]
  | true =>
      obtain ⟨hno, hsome⟩ := next_asks (s := s) hi hre
      cases hask : e.asks s with
      | none =>
          have hsame := hno hask
          exact ⟨h.modes.same hsame, fun hf => by rw [hsame.ready, hr] at hf; cases hf⟩
      | some q =>
          obtain ⟨w, ok, data⟩ := q
          obtain ⟨-, heq⟩ := hsome w ok data hask
          rw [heq]
          refine ⟨h.modes.apply w ok data, fun hf => ?_⟩
          rw [apply_ready, hr] at hf
          cases hf

end Invariant

/-- **The hints of the modes along a run**: from a process that was just started, whatever the
properties say, whatever of them cannot be written and however often the process dies, the hint
held is that of VR, of sustained performance or of both, as these are on, and the one of the encoder
is held just when it is. -/
theorem hints_match_modes {s t : PowerSys} {es : List PowerEvent} (h : s.hal = {})
    (hr : Run PowerStep s es t) : Matches t :=
  (hr.invariant (P := Sound) (fun _ _ _ hs hst => hs.step hst) (Sound.fresh h)).modes

/-- VR and sustained performance are switched on, and the process is started again. -/
def bothModes : List PowerEvent :=
  [.init, .hint "schedutil" true .vrMode 1, .hint "sched" true .sustainedPerformance 1, .restart,
    .init]

lemma bothModes_run : ∃ t, Run PowerStep {} bothModes t ∧ t.hal.vrModeOn = true ∧
    t.hal.sustainedPerfModeOn = true :=
  ⟨_, .snoc (.snoc (.snoc (.snoc (.snoc (.nil _) ⟨fun _ => rfl, rfl⟩) ⟨nofun, rfl⟩)
    ⟨nofun, rfl⟩) ⟨nofun, rfl⟩) ⟨fun _ => rfl, rfl⟩, rfl, rfl⟩

/-- The hint held then is the one of both. -/
theorem hints_match_modes_both : ∃ t, Run PowerStep {} bothModes t ∧
    held .vrSustainedPerformance t.hal.calls = true := by
  obtain ⟨t, hr, hv, hs⟩ := bothModes_run
  refine ⟨t, hr, ?_⟩
  rw [(hints_match_modes rfl hr).both, hv, hs]
  rfl

end Power
