import OcnDevice.Gps.Tracking.Interval

/-!
# Whose mode the engine runs in

Restarts are decided by comparing intervals only.  As long as the session whose options the engine
was programmed with is strictly the smallest, its end or its change programs the engine anew; but
when another session ties with it, nothing is done, and the engine goes on in the mode of a session
that is gone or has changed.

`Serves` asks that the program is that of a smallest session with its current options.
`Serves.effect` goes through the four ways of a message: only the one that keeps the program needs a
condition, and only when the session concerned is tied with another (`Tied`).
-/

namespace Gps.Tracking

/-! ## Serving a session -/

/-- The engine, if it runs, was programmed with the current options of a session with the smallest
interval. -/
def Serves (m : LocationSessionMap) (e : Option LocPosMode) : Prop :=
  ∀ p, e = some p → ∃ o, IsSmallest m none o ∧ p = convertOptions o

/-- A session has the smallest interval of all, and shares it with another. -/
def Tied (m : LocationSessionMap) (key : LocationSessionKey) : Prop :=
  ∃ current : LocationOptions, m[key]? = some current ∧ IsSmallest m none current ∧
    ∃ o, IsSmallest m (some key) o ∧ o.minInterval = current.minInterval

/-- The program of the engine is that of some other session. -/
def ServedByOther (m : LocationSessionMap) (e : Option LocPosMode) (key : LocationSessionKey) :
    Prop :=
  ∃ (k : LocationSessionKey) (o : LocationOptions),
    k ≠ key ∧ m[k]? = some o ∧ e = some (convertOptions o)

section Ways

variable {m m' : LocationSessionMap} {e e' : Option LocPosMode} {key : LocationSessionKey}
  {o o' : LocationOptions}

/-- Smallest sessions have one interval. -/
lemma IsSmallest.unique (h : IsSmallest m none o) (h' : IsSmallest m none o') :
    o.minInterval = o'.minInterval :=
  h.isLeast.unique h'.isLeast

/-- A session that is there and has the interval of a smallest one is a smallest one. -/
lemma IsSmallest.of_eq {k : LocationSessionKey} (h : IsSmallest m none o) (hk : m[k]? = some o')
    (heq : o'.minInterval = o.minInterval) : IsSmallest m none o' :=
  ⟨⟨k, hk, Option.some_ne_none _⟩, fun k' x hk' hne => heq ▸ h.2 k' x hk' hne⟩

/-- **The four ways**: only a program that is kept while the session concerned is tied needs somebody
else whom it serves. -/
lemma Serves.effect (h : Serves m e) (heff : Effect key m e m' e')
    (hother : Tied m key →
      (∀ current new, m[key]? = some current → m'[key]? = some new →
        current.minInterval ≤ new.minInterval) →
      ServedByOther m e key ∨ ∃ new, m'[key]? = some new ∧ e = some (convertOptions new)) :
    Serves m' e' := by
  cases heff with
  | same => exact h
  | retuned hsm =>
      intro p hp
      cases hp
      exact ⟨_, hsm, rfl⟩
  | stopped =>
      intro p hp
      cases hp
  | @kept m' options other frame old new =>
      intro p hp
      obtain ⟨o, hsm, rfl⟩ := h p hp
      have hbefore := other.of_old old
      have hafter := GnssAdapter.isSmallest_of_other other frame new
      have hmin : o.minInterval = options.minInterval := hsm.unique hbefore
      obtain ⟨k, hk, -⟩ := hsm.1
      by_cases hkk : k = key
      · -- the session concerned is served itself, so it is tied with the other
        subst hkk
        have htied : Tied m k := ⟨o, hk, hsm, options, other, hmin.symm⟩
        have hle : ∀ current x, m[k]? = some current → m'[k]? = some x →
            current.minInterval ≤ x.minInterval := by
          intro current x hcur hx
          rw [hk] at hcur
          cases hcur
          exact hmin ▸ new x hx
        rcases hother htied hle with ⟨k', o', hne, hk', heq⟩ | ⟨x, hx, heq⟩
        · have hp' : convertOptions o = convertOptions o' := Option.some.inj (hp.symm.trans heq)
          have hmin' : o'.minInterval = o.minInterval :=
            (congrArg LocPosMode.min_interval hp').symm
          exact ⟨o', hafter.of_eq ((frame k' hne).trans hk') (hmin'.trans hmin), hp'⟩
        · have hp' : convertOptions o = convertOptions x := Option.some.inj (hp.symm.trans heq)
          have hmin' : x.minInterval = o.minInterval :=
            (congrArg LocPosMode.min_interval hp').symm
          exact ⟨x, hafter.of_eq hx (hmin'.trans hmin), hp'⟩
      · exact ⟨o, hafter.of_eq ((frame k hkk).trans hk) hmin, rfl⟩

end Ways

/-! ## Runs -/

namespace GnssAdapter

variable {succeeds : ℕ → Bool} {a a' : GnssAdapter} {i : Input} {inputs : List Input}
  {key : LocationSessionKey} {options : LocationOptions}

/-- A session that is stopped while it is tied leaves a program that serves another. -/
def StopServes (a : GnssAdapter) (key : LocationSessionKey) : Prop :=
  Tied a.sessions key → ServedByOther a.sessions a.engine key

/-- A session that is tied, and gets options with no smaller interval, leaves a program that serves
another or the new options. -/
def UpdateServes (a : GnssAdapter) (key : LocationSessionKey) (options : LocationOptions) : Prop :=
  Tied a.sessions key →
    (∀ current, a.sessions[key]? = some current → current.minInterval ≤ options.minInterval) →
      ServedByOther a.sessions a.engine key ∨ a.engine = some (convertOptions options)

/-- The condition on the message that is processed.  The removal of a client stops its sessions one
after another. -/
def Serving (succeeds : ℕ → Bool) (a : GnssAdapter) : Msg → Prop
  | .startTracking client sessionId _ =>
      a.sessions[(⟨client, sessionId⟩ : LocationSessionKey)]? = none
  | .updateTracking client sessionId options => a.UpdateServes ⟨client, sessionId⟩ options
  | .stopTracking client sessionId => a.StopServes ⟨client, sessionId⟩
  | .removeClient client => ∀ done key rest,
      (a.sessions.keys.filter fun k => k.client = client) = done ++ key :: rest →
        (done.foldl (fun b k => (b.stopSession succeeds k).2) a).StopServes key
  | _ => True

/-- A step that meets the condition. -/
def ServingStep (succeeds : ℕ → Bool) (a : GnssAdapter) (i : Input) (a' : GnssAdapter) : Prop :=
  Step succeeds a i a' ∧ (i = .proc → ∀ m ∈ a.msgs.head?,
    ({ a with msgs := a.msgs.tail } : GnssAdapter).Serving succeeds m)

/-- What holds after every message. -/
structure ModeInv (a : GnssAdapter) : Prop where
  sized : Sized a.sessions
  serves : Serves a.sessions a.engine

lemma ModeInv.init : init.ModeInv where
  sized := Inv.init.sized
  serves := by
    intro p hp
    cases hp

lemma ModeInv.start {client sessionId : ℕ} (hok : ∀ n, succeeds n = true) (h : a.ModeInv)
    (hnew : a.sessions[(⟨client, sessionId⟩ : LocationSessionKey)]? = none) :
    (a.procStartTracking succeeds client sessionId options).ModeInv := by
  rcases procStartTracking_saves hok options h.sized hnew with
    ⟨hses, heng⟩ | ⟨hsize, hses, heff⟩
  · exact ⟨hses ▸ h.sized, by rw [hses, heng]; exact h.serves⟩
  · refine ⟨hses ▸ h.sized.insert hsize, h.serves.effect heff ?_⟩
    rintro ⟨current, hcur, -⟩
    rw [hnew] at hcur
    cases hcur

lemma ModeInv.update {client sessionId : ℕ} (hok : ∀ n, succeeds n = true) (h : a.ModeInv)
    (hserve : a.UpdateServes ⟨client, sessionId⟩ options) :
    (a.procUpdateTracking succeeds client sessionId options).ModeInv := by
  rcases procUpdateTracking_saves hok client sessionId options h.sized with ⟨hses, heng⟩ | ⟨hsize, hses, heff⟩
  · exact ⟨hses ▸ h.sized, by rw [hses, heng]; exact h.serves⟩
  · refine ⟨hses ▸ h.sized.insert hsize, h.serves.effect heff fun htied hle => ?_⟩
    have hnew : (a.procUpdateTracking succeeds client sessionId options).sessions[
        (⟨client, sessionId⟩ : LocationSessionKey)]? = some options := by
      rw [hses]
      exact getElem?_insert_self
    exact (hserve htied fun current hcur => hle current options hcur hnew).imp_right
      fun heq => ⟨options, hnew, heq⟩

lemma ModeInv.stop (hok : ∀ n, succeeds n = true) (h : a.ModeInv)
    (hin : a.sessions.contains key = true) (hserve : a.StopServes key) :
    (a.stopSession succeeds key).2.ModeInv ∧
      (a.stopSession succeeds key).2.sessions = a.sessions.erase key := by
  obtain ⟨hses, heff⟩ := stopSession_erases hok h.sized hin
  refine ⟨⟨hses ▸ h.sized.erase, ?_⟩, hses⟩
  rw [hses]
  exact h.serves.effect heff fun htied _ => Or.inl (hserve htied)

/-- **One message.** -/
lemma ModeInv.procMsg (hok : ∀ n, succeeds n = true) (h : a.ModeInv) {m : Msg}
    (hserve : a.Serving succeeds m) : (a.procMsg succeeds m).ModeInv := by
  cases m with
  | addClient client callbacks => exact ⟨h.sized, h.serves⟩
  | removeClient client =>
      have hstop : (a.stopClientSessions succeeds client).ModeInv :=
        stopClientSessions_invariant
          (fun done key rest hl b hb hin hinv => hinv.stop hok hin (hb ▸ hserve done key rest hl)) h
      exact ⟨hstop.sized, hstop.serves⟩
  | startTracking client sessionId options => exact h.start hok hserve
  | updateTracking client sessionId options => exact h.update hok hserve
  | stopTracking client sessionId =>
      rw [GnssAdapter.procMsg, procStopTracking]
      split_ifs with hin
      · have hstop := (h.stop hok hin hserve).1
        exact ⟨hstop.sized, hstop.serves⟩
      · exact h
  | restartSessions =>
      rw [GnssAdapter.procMsg, GnssAdapter.restartSessions]
      split_ifs with hempty
      · exact h
      · rw [startTracking_ok hok]
        refine ⟨h.sized, fun p hp => ?_⟩
        cases hp
        exact ⟨_, smallest_spec h.sized (exists_session hempty), rfl⟩

lemma ModeInv.step (hok : ∀ n, succeeds n = true) (h : a.ModeInv)
    (hs : ServingStep succeeds a i a') : a'.ModeInv := by
  obtain ⟨rfl, hserve⟩ := hs
  cases i with
  | proc =>
      rw [input]
      cases hm : a.msgs with
      | nil => exact h
      | cons m msgs =>
          have hm' := hserve rfl m (by rw [hm]; rfl)
          rw [hm] at hm'
          exact ModeInv.procMsg hok (a := { a with msgs := msgs }) ⟨h.sized, h.serves⟩ hm'
  | _ => exact ⟨h.sized, h.serves⟩

/-- What suffices for the condition on runs of fixed inputs, as a test. -/
def servingTest (a : GnssAdapter) : Msg → Bool
  | .addClient _ _ => true
  | .startTracking client sessionId _ =>
      !a.sessions.contains (⟨client, sessionId⟩ : LocationSessionKey)
  | .stopTracking client sessionId => a.sessions.toList.any fun p =>
      decide (p.1 ≠ (⟨client, sessionId⟩ : LocationSessionKey) ∧ a.engine = some (convertOptions p.2))
  | _ => false

lemma serving_of_test {m : Msg} (h : a.servingTest m = true) : a.Serving succeeds m := by
  cases m with
  | addClient client callbacks => trivial
  | startTracking client sessionId options =>
      rw [servingTest, Bool.not_eq_true', Std.ExtTreeMap.contains_eq_isSome_getElem?] at h
      exact Option.isSome_eq_false_iff.mp h |> Option.isNone_iff_eq_none.mp
  | stopTracking client sessionId =>
      rw [servingTest, List.any_eq_true] at h
      obtain ⟨⟨k, o⟩, hp, hk⟩ := h
      obtain ⟨hne, heng⟩ := of_decide_eq_true hk
      exact fun _ => ⟨k, o, hne, Std.ExtTreeMap.mem_toList_iff_getElem?_eq_some.mp hp, heng⟩
  | _ => cases h

/-- A step that passes the test. -/
def nextServing (a : GnssAdapter) (i : Input) : Option (GnssAdapter × Input) :=
  if i = .proc → ∀ m ∈ a.msgs.head?,
      ({ a with msgs := a.msgs.tail } : GnssAdapter).servingTest m = true then
    some (a.input (fun _ => true) i, i)
  else none

lemma servingStep_of_next {p : GnssAdapter × Input} (h : a.nextServing i = some p) :
    ServingStep (fun _ => true) a p.2 p.1 := by
  rw [nextServing] at h
  split_ifs at h with htest
  cases h
  exact ⟨rfl, fun hi m hm => serving_of_test (htest hi m hm)⟩

/-- Two sessions with one interval in different modes: the engine runs in the mode of session 2. -/
def twoModes : List Input :=
  [.addClientCommand 1 ⟨true, false⟩, .proc,
    .startTrackingCommand 1 (every 1000 .standalone), .proc,
    .startTrackingCommand 1 (every 1000 .msb), .proc]

end GnssAdapter

open GnssAdapter in
/-- **The engine works for somebody.**  In every run of commands, engine-up events and processed
messages in which every call of the engine succeeds, no session is started under the id of a session
of the same client that still runs, and a session that shares the smallest interval with another is
stopped, or changed to an interval that is no smaller, only while the engine runs with the options of
some other session (or with the new ones): whenever the engine is running, it was last programmed
with the current options of a session that is there and has the minimal interval. -/
theorem engine_serves_session {succeeds : ℕ → Bool} {inputs : List Input} {a : GnssAdapter}
    (hok : ∀ n, succeeds n = true) (hr : Run (ServingStep succeeds) init inputs a) :
    Serves a.sessions a.engine :=
  (hr.invariant (P := ModeInv) (fun _ _ _ h hs => h.step hok hs) .init).serves

open GnssAdapter in
/-- Session 3, which is not the one the engine was programmed with, is stopped. -/
theorem engine_serves_session_two : ∃ inputs a, Run (ServingStep fun _ => true) init inputs a ∧
    a.engine = some (convertOptions (every 1000 .standalone)) ∧ Serves a.sessions a.engine := by
  have hrun : ((execBy nextServing init (twoModes ++ [Input.stopTrackingCommand 1 3, .proc])).map
      fun p => decide (p.1.engine = some (convertOptions (every 1000 .standalone)))) = some true := by
    decide +kernel
  obtain ⟨⟨a, inputs⟩, hp, ha⟩ := Option.map_eq_some_iff.mp hrun
  have hr : Run (ServingStep fun _ => true) init inputs a :=
    Run.of_execBy (fun _ _ _ h => servingStep_of_next h) hp
  exact ⟨inputs, a, hr, of_decide_eq_true ha, engine_serves_session (fun _ => rfl) hr⟩

open GnssAdapter in
/-- When session 2 is stopped instead, the engine goes on in standalone mode, and the only session
left wants another one. -/
theorem stopped_mode_goes_on : ∃ inputs a, Run (Step fun _ => true) init inputs a ∧
    a.engine = some (convertOptions (every 1000 .standalone)) ∧
    a.sessions.toList = [(⟨1, 3⟩, every 1000 .msb)] ∧ ¬Serves a.sessions a.engine := by
  refine ⟨_, _, run_foldl (fun _ => true)
    (twoModes ++ [Input.stopTrackingCommand 1 2, .proc]) init, ?_⟩
  generalize ha : List.foldl (input fun _ => true) init
    (twoModes ++ [Input.stopTrackingCommand 1 2, .proc]) = a
  have heng : a.engine = some (convertOptions (every 1000 .standalone)) := by
    rw [← ha]
    decide +kernel
  have hses : a.sessions.toList = [(⟨1, 3⟩, every 1000 .msb)] := by
    rw [← ha]
    decide +kernel
  refine ⟨heng, hses, fun h => ?_⟩
  obtain ⟨o, ⟨⟨k, hk, -⟩, -⟩, heq⟩ := h _ heng
  have hmem := Std.ExtTreeMap.mem_toList_iff_getElem?_eq_some.mpr hk
  rw [hses, List.mem_singleton] at hmem
  cases hmem
  exact absurd heq (by decide)

end Gps.Tracking
