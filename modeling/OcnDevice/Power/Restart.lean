import OcnDevice.Power.Hints

/-!
# What a restart of the power HAL brings back

The state property names one thing only: the encoder, a mode, or both modes.  `Written` says that
it and the audio property stand for what is on, which is when a new process is told to hold what the
old one held (`keeps_iff`).  It is kept by every event but two: one that switches something whose
property cannot be written, and one that switches a mode while the encoder is on, because the
encoder is then written nowhere (`keeps_step_iff`).
-/

namespace Power

/-- **A restart brings back what is held**: the hint manager of the new process is told to hold the
stored hints that the old one was told to. -/
def Keeps (s : PowerSys) : Prop :=
  s.hal.ready = true → ∀ n, n.stored = true →
    held n s.restart.init.hal.calls = held n s.hal.calls

/-- What a switch must not do: lose its property, or switch a mode while the encoder is on. -/
def Switch.Clean (s : PowerSys) (ok : Bool) (data : ℤ) : Switch → Prop
  | .encode => s.busy = true ∨ ok = true ∨ s.hal.encoderModeOn = decide (data ≠ 0)
  | .sustained => s.hal.sustainedPerfModeOn = decide (data ≠ 0) ∨
      ok = true ∧ s.hal.encoderModeOn = false
  | .vr => s.hal.vrModeOn = decide (data ≠ 0) ∨ ok = true ∧ s.hal.encoderModeOn = false
  | .audio => ok = true ∨ held .audioLowLatency s.hal.calls = decide (data ≠ 0)

/-- An event that switches nothing or does it cleanly. -/
def PowerEvent.Clean (s : PowerSys) (e : PowerEvent) : Prop :=
  ∀ w ok data, e.asks s = some (w, ok, data) → w.Clean s ok data

/-- What the state property stands for: VR, sustained performance, the encoder. -/
def modesOf (v : String) : Bool × Bool × Bool :=
  (v = "VR_MODE" ∨ v = "VR_SUSTAINED_PERFORMANCE",
    v = "SUSTAINED_PERFORMANCE" ∨ v = "VR_SUSTAINED_PERFORMANCE", v = "VIDEO_ENCODE")

/-- The properties stand for what is on. -/
structure Written (s : PowerSys) : Prop where
  state : modesOf s.stateProp =
    (s.hal.vrModeOn, s.hal.sustainedPerfModeOn, s.hal.encoderModeOn)
  audio : decide (s.audioProp = "LOW_LATENCY") = held .audioLowLatency s.hal.calls

section Restart

variable {s t : PowerSys} {e : PowerEvent}

lemma written_iff : Written s ↔ modesOf s.stateProp =
    (s.hal.vrModeOn, s.hal.sustainedPerfModeOn, s.hal.encoderModeOn) ∧
      decide (s.audioProp = "LOW_LATENCY") = held .audioLowLatency s.hal.calls :=
  ⟨fun h => ⟨h.state, h.audio⟩, fun h => ⟨h.1, h.2⟩⟩

/-- The flags that a new process comes up with. -/
lemma init_flags (h : s.hal = {}) :
    (s.init.hal.vrModeOn, s.init.hal.sustainedPerfModeOn, s.init.hal.encoderModeOn)
      = modesOf s.stateProp := by
  have haudio : ∀ u : PowerSys, u.initAudio.hal.vrModeOn = u.hal.vrModeOn ∧
      u.initAudio.hal.sustainedPerfModeOn = u.hal.sustainedPerfModeOn ∧
      u.initAudio.hal.encoderModeOn = u.hal.encoderModeOn := by
    intro u
    unfold PowerSys.initAudio
    split_ifs <;> exact ⟨rfl, rfl, rfl⟩
  obtain ⟨h1, h2, h3⟩ := haudio s.initState
  simp only [PowerSys.init, h1, h2, h3]
  unfold PowerSys.initState modesOf
  split_ifs with c1 c2 c3 c4
  · simp [c1, PowerSys.setEncoder, PowerSys.call, h]
  · simp [c2, PowerSys.setSustained, PowerSys.call, h]
  · simp [c3, PowerSys.setVr, PowerSys.call, h]
  · simp [c4, PowerSys.setVr, PowerSys.setSustained, PowerSys.call, h]
  · simp [c1, c2, c3, c4, h]

/-- The audio hint that it holds. -/
lemma init_audio (h : s.hal = {}) :
    held .audioLowLatency s.init.hal.calls = decide (s.audioProp = "LOW_LATENCY") := by
  have hstate : held .audioLowLatency s.initState.hal.calls = false ∧
      s.initState.audioProp = s.audioProp := by
    unfold PowerSys.initState
    split_ifs <;> simp [PowerSys.setEncoder, PowerSys.setSustained, PowerSys.setVr, PowerSys.call,
      held, h]
  simp only [PowerSys.init, PowerSys.initAudio, hstate.2]
  split_ifs with ha
  · simp [ha, PowerSys.call, held]
  · simp [ha, hstate.1]

/-- The hints of the modes determine the modes. -/
lemma modes_of_held : ∀ {a b a' b' : Bool}, (b && !a) = (b' && !a') → (a && !b) = (a' && !b') →
    (a && b) = (a' && b') → a = a' ∧ b = b' := by
  decide

/-- **A restart brings back what is held** just if the properties stand for what is on. -/
lemma keeps_iff (h : Matches s) :
    (∀ n, n.stored = true → held n s.restart.init.hal.calls = held n s.hal.calls) ↔ Written s := by
  have hnew : Matches s.restart.init := Matches.init rfl
  have hflags : (s.restart.init.hal.vrModeOn, s.restart.init.hal.sustainedPerfModeOn,
      s.restart.init.hal.encoderModeOn) = modesOf s.stateProp := init_flags rfl
  have haudio : held .audioLowLatency s.restart.init.hal.calls =
      decide (s.audioProp = "LOW_LATENCY") := init_audio rfl
  constructor
  · intro hall
    have h1 := hall .sustainedPerformance rfl
    have h2 := hall .vrMode rfl
    have h3 := hall .vrSustainedPerformance rfl
    have h4 := hall .videoEncode rfl
    rw [hnew.sustained, h.sustained] at h1
    rw [hnew.vr, h.vr] at h2
    rw [hnew.both, h.both] at h3
    rw [hnew.encoder, h.encoder] at h4
    obtain ⟨hv, hs⟩ := modes_of_held h1 h2 h3
    exact ⟨by rw [← hflags, hv, hs, h4], haudio.symm.trans (hall .audioLowLatency rfl)⟩
  · rintro ⟨hstate, ha⟩ n hn
    obtain ⟨hv, hs, he⟩ : s.restart.init.hal.vrModeOn = s.hal.vrModeOn ∧
        s.restart.init.hal.sustainedPerfModeOn = s.hal.sustainedPerfModeOn ∧
        s.restart.init.hal.encoderModeOn = s.hal.encoderModeOn := by
      simpa using hflags.trans hstate
    cases n with
    | videoEncode => rw [hnew.encoder, h.encoder, he]
    | sustainedPerformance => rw [hnew.sustained, h.sustained, hv, hs]
    | vrMode => rw [hnew.vr, h.vr, hv, hs]
    | vrSustainedPerformance => rw [hnew.both, h.both, hv, hs]
    | audioLowLatency => exact haudio.trans ha
    | _ => cases hn

lemma Written.same (hs : Same s t) : Written t ↔ Written s := by
  constructor
  · rintro ⟨h1, h2⟩
    rw [hs.stateProp, hs.vr, hs.sustained, hs.encoder] at h1
    rw [hs.audioProp, hs.held _ rfl] at h2
    exact ⟨h1, h2⟩
  · rintro ⟨h1, h2⟩
    refine ⟨?_, ?_⟩
    · rw [hs.stateProp, hs.vr, hs.sustained, hs.encoder, h1]
    · rw [hs.audioProp, hs.held _ rfl, h2]

lemma Written.videoEncode (h : Written s) (ok : Bool) (data : ℤ) :
    Written (s.videoEncode ok data) ↔ Switch.encode.Clean s ok data := by
  obtain ⟨h1, h2⟩ := h
  unfold PowerSys.videoEncode Switch.Clean
  cases hb : s.busy with
  | true => exact iff_of_true ⟨h1, h2⟩ (Or.inl rfl)
  | false =>
      obtain ⟨hv, hs⟩ : s.hal.vrModeOn = false ∧ s.hal.sustainedPerfModeOn = false := by
        simpa [PowerSys.busy] using hb
      rw [hv, hs] at h1
      have hon : modesOf "VIDEO_ENCODE" = (false, false, true) := rfl
      have hoff : modesOf "" = (false, false, false) := rfl
      by_cases hd : data = 0
      · rw [if_neg (by simp), if_neg (not_not_intro hd)]
        cases ok <;>
          simp [written_iff, PowerSys.setEncoder, PowerSys.call, held, hv, hs, h1, h2, hoff, hd]
      · rw [if_neg (by simp), if_pos hd]
        cases ok <;>
          simp [written_iff, PowerSys.setEncoder, PowerSys.call, held, hv, hs, h1, h2, hon, hd]

lemma Written.sustainedPerformance (h : Written s) (ok : Bool) (data : ℤ) :
    Written (s.sustainedPerformance ok data) ↔ Switch.sustained.Clean s ok data := by
  obtain ⟨h1, h2⟩ := h
  unfold Switch.Clean
  have e1 : modesOf "SUSTAINED_PERFORMANCE" = (false, true, false) := rfl
  have e2 : modesOf "VR_SUSTAINED_PERFORMANCE" = (true, true, false) := rfl
  have e3 : modesOf "VR_MODE" = (true, false, false) := rfl
  have e4 : modesOf "" = (false, false, false) := rfl
  rcases sustainedPerformance_cases s ok data with ⟨hs, heq⟩ | ⟨hs, hd, hv, heq⟩ |
    ⟨hs, hd, hv, heq⟩ | ⟨hs, hd, hv, heq⟩ | ⟨hs, hd, hv, heq⟩
  · rw [heq]
    exact iff_of_true ⟨h1, h2⟩ (Or.inl hs)
  all_goals
    rw [hs, hv] at h1
    rw [heq]
    cases ok <;> simp [written_iff, PowerSys.setSustained, PowerSys.call, held, hs, hv, h1, h2,
      e1, e2, e3, e4, hd]

lemma Written.vrMode (h : Written s) (ok : Bool) (data : ℤ) :
    Written (s.vrMode ok data) ↔ Switch.vr.Clean s ok data := by
  obtain ⟨h1, h2⟩ := h
  unfold Switch.Clean
  have e1 : modesOf "SUSTAINED_PERFORMANCE" = (false, true, false) := rfl
  have e2 : modesOf "VR_SUSTAINED_PERFORMANCE" = (true, true, false) := rfl
  have e3 : modesOf "VR_MODE" = (true, false, false) := rfl
  have e4 : modesOf "" = (false, false, false) := rfl
  rcases vrMode_cases s ok data with ⟨hv, heq⟩ | ⟨hv, hd, hs, heq⟩ | ⟨hv, hd, hs, heq⟩ |
    ⟨hv, hd, hs, heq⟩ | ⟨hv, hd, hs, heq⟩
  · rw [heq]
    exact iff_of_true ⟨h1, h2⟩ (Or.inl hv)
  all_goals
    rw [hs, hv] at h1
    rw [heq]
    cases ok <;> simp [written_iff, PowerSys.setVr, PowerSys.call, held, hs, hv, h1, h2,
      e1, e2, e3, e4, hd]

lemma Written.audioLowLatency (h : Written s) (ok : Bool) (data : ℤ) :
    Written (s.audioLowLatency ok data) ↔ Switch.audio.Clean s ok data := by
  obtain ⟨h1, h2⟩ := h
  unfold PowerSys.audioLowLatency Switch.Clean
  by_cases hd : data = 0
  · rw [if_neg (not_not_intro hd)]
    cases ok <;> simp [written_iff, PowerSys.call, held, h1, h2, hd]
  · rw [if_pos hd]
    cases ok <;> simp [written_iff, PowerSys.call, held, h1, h2, hd]

lemma Written.apply (h : Written s) (w : Switch) (ok : Bool) (data : ℤ) :
    Written (w.apply s ok data) ↔ w.Clean s ok data := by
  cases w with
  | encode => exact h.videoEncode ok data
  | sustained => exact h.sustainedPerformance ok data
  | vr => exact h.vrMode ok data
  | audio => exact h.audioLowLatency ok data

/-- An object that is initialized has what the properties stand for. -/
lemma Written.init (h : s.hal = {}) : Written s.init := by
  have hstate : s.init.stateProp = s.stateProp ∧ s.init.audioProp = s.audioProp := by
    unfold PowerSys.init PowerSys.initAudio PowerSys.initState
    constructor <;> split_ifs <;> rfl
  refine ⟨?_, ?_⟩
  · rw [hstate.1, init_flags h]
  · rw [hstate.2, init_audio h]

/-- An event is as clean as what it switches. -/
lemma clean_iff {w : Switch} {ok : Bool} {data : ℤ} (hask : e.asks s = some (w, ok, data)) :
    e.Clean s ↔ w.Clean s ok data := by
  refine ⟨fun hc => hc w ok data hask, fun hc w' ok' data' hask' => ?_⟩
  rw [hask] at hask'
  cases hask'
  exact hc

/-- **One event**: what is held stays what a restart brings back just if nothing is switched
uncleanly. -/
theorem keeps_step_iff (h : Sound s) (hk : Keeps s) (hst : PowerStep s e t) :
    Keeps t ↔ e.Clean s := by
  have ht := h.step hst
  obtain ⟨hinit, rfl⟩ := hst
  by_cases hi : e = .init
  · subst hi
    refine iff_of_true (fun _ => ?_) fun w ok data hask => by cases hask
    exact (keeps_iff ht.modes).mpr (Written.init (h.idle (hinit rfl)))
  by_cases hre : e = .restart
  · subst hre
    exact iff_of_true (fun hr => by cases hr) fun w ok data hask => by cases hask
  obtain ⟨hno, hsome⟩ := next_asks (s := s) hi hre
  cases hr : s.hal.ready with
  | false =>
      rw [next_of_not_ready hr hi hre]
      refine iff_of_true hk fun w ok data hask => ?_
      rw [(hsome w ok data hask).1] at hr
      cases hr
  | true =>
      have hw : Written s := (keeps_iff h.modes).mp (hk hr)
      cases hask : e.asks s with
      | none =>
          have hsame := hno hask
          refine iff_of_true (fun _ => ?_) fun w ok data hask' => ?_
          · exact (keeps_iff ht.modes).mpr ((Written.same hsame).mpr hw)
          · rw [hask] at hask'
            cases hask'
      | some q =>
          obtain ⟨w, ok, data⟩ := q
          obtain ⟨-, heq⟩ := hsome w ok data hask
          have hready : (e.next s).hal.ready = true := by rw [heq, apply_ready, hr]
          have hkeeps : Keeps (e.next s) ↔ Written (e.next s) :=
            ⟨fun hk' => (keeps_iff ht.modes).mp (hk' hready),
              fun hw' _ => (keeps_iff ht.modes).mpr hw'⟩
          rw [hkeeps, clean_iff hask, heq, hw.apply]

end Restart

lemma PowerStep.det (s : PowerSys) (e : PowerEvent) (t t' : PowerSys) (h : PowerStep s e t)
    (h' : PowerStep s e t') : t = t' :=
  h.2.symm.trans h'.2

/-- **What a restart brings back.**  In a run from a process that was just started, dying at any
moment loses none of the hints of the modes, of the encoder and of low latency audio just if no
property is lost when one of them is switched and no mode is switched while the encoder is on. -/
theorem restart_keeps_iff {s t : PowerSys} {es : List PowerEvent} (h : s.hal = {})
    (hr : Run PowerStep s es t) :
    (∀ pre u, pre <+: es → Run PowerStep s pre u → Keeps u) ↔
      Run (fun s e t => e.Clean s ∧ PowerStep s e t) s es t :=
  Run.always_iff (I := Sound) PowerStep.det (fun _ _ _ hs hst => hs.step hst)
    (fun _ _ _ hs hk hst => keeps_step_iff hs hk hst) (Sound.fresh h)
    (fun hready => by rw [h] at hready; cases hready) hr

/-- With both modes on, dying once more loses nothing. -/
theorem restart_keeps_iff_both : ∃ t, Run PowerStep {} bothModes t ∧ t.hal.ready = true ∧
    ∀ n, n.stored = true → held n t.restart.init.hal.calls = held n t.hal.calls := by
  have hnone : ∀ {s : PowerSys} {e : PowerEvent}, e.asks s = none → e.Clean s :=
    fun hask w ok data h => by rw [hask] at h; cases h
  have hclean : ∃ t, Run (fun s e t => e.Clean s ∧ PowerStep s e t) {} bothModes t ∧
      t.hal.ready = true :=
    ⟨_, .snoc (.snoc (.snoc (.snoc (.snoc (.nil _) ⟨hnone rfl, fun _ => rfl, rfl⟩)
      ⟨(clean_iff (show _ = some (Switch.vr, true, 1) from rfl)).mpr (Or.inr ⟨rfl, rfl⟩), nofun,
        rfl⟩)
      ⟨(clean_iff (show _ = some (Switch.sustained, true, 1) from rfl)).mpr (Or.inr ⟨rfl, rfl⟩),
        nofun, rfl⟩)
      ⟨hnone rfl, nofun, rfl⟩) ⟨hnone rfl, fun _ => rfl, rfl⟩, rfl⟩
  obtain ⟨t, hr, hready⟩ := hclean
  have hr' : Run PowerStep {} bothModes t := hr.mono fun _ _ _ h => h.2
  have hall := (restart_keeps_iff rfl hr').mpr hr
  exact ⟨t, hr', hready, hall _ t List.prefix_rfl hr' hready⟩

end Power
