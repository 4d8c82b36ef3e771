import OcnDevice.Gps.Tracking.Effect

/-!
# The engine runs with the smallest interval

While the calls of the engine succeed, the engine runs exactly when there are sessions, and its
interval is the minimum over all of them (`Multiplexed`).  Each of the four ways a message can go
keeps that (`Multiplexed.effect`): a program that is kept was that of a smallest session before, and
some session that is not concerned was as small.

The one condition is on the start of a session: its id must not be that of a session of the same
client that still runs.  Ids come from a 32-bit counter, which takes them again after some four
thousand million (`reused_id_keeps_interval`).
-/

namespace Gps.Tracking

/-! ## Multiplexed -/

/-- The intervals that are asked for. -/
def intervals (m : LocationSessionMap) : Set ℕ :=
  {n | ∃ (key : LocationSessionKey) (o : LocationOptions), m[key]? = some o ∧ o.minInterval = n}

/-- The engine runs exactly when there are sessions, and then with the minimum of their intervals. -/
structure Multiplexed (m : LocationSessionMap) (e : Option LocPosMode) : Prop where
  running : e.isSome = true ↔ ∃ (key : LocationSessionKey) (o : LocationOptions), m[key]? = some o
  least : ∀ p, e = some p → IsLeast (intervals m) p.min_interval

section Ways

variable {m m' : LocationSessionMap} {e e' : Option LocPosMode} {key : LocationSessionKey}
  {o : LocationOptions}

lemma IsSmallest.isLeast (h : IsSmallest m none o) : IsLeast (intervals m) o.minInterval := by
  obtain ⟨⟨k, hk, -⟩, hle⟩ := h
  refine ⟨⟨k, o, hk, rfl⟩, ?_⟩
  rintro n ⟨k', o', hk', rfl⟩
  exact hle k' o' hk' (Option.some_ne_none _)

/-- A smallest session of the others is as small as all when the one concerned is not smaller. -/
lemma IsSmallest.of_old (h : IsSmallest m (some key) o)
    (hold : ∀ o', m[key]? = some o' → o.minInterval ≤ o'.minInterval) : IsSmallest m none o :=
  GnssAdapter.isSmallest_of_other h (fun _ _ => rfl) hold

/-- **Each of the four ways keeps the sessions multiplexed.** -/
lemma Multiplexed.effect (h : Multiplexed m e) (heff : Effect key m e m' e') :
    Multiplexed m' e' := by
  cases heff with
  | same => exact h
  | retuned hsm =>
      obtain ⟨k, hk, -⟩ := hsm.1
      refine ⟨by simpa using ⟨k, _, hk⟩, fun p hp => ?_⟩
      cases hp
      exact hsm.isLeast
  | stopped hnone =>
      refine ⟨by simp [hnone], fun p hp => ?_⟩
      cases hp
  | @kept m' options other frame old new =>
      have hbefore := other.of_old old
      have hafter := GnssAdapter.isSmallest_of_other other frame new
      obtain ⟨k, hk, -⟩ := hafter.1
      obtain ⟨k', hk', -⟩ := hbefore.1
      refine ⟨?_, fun p hp => ?_⟩
      · rw [h.running]
        exact ⟨fun _ => ⟨k, _, hk⟩, fun _ => ⟨k', _, hk'⟩⟩
      · rw [(h.least p hp).unique hbefore.isLeast]
        exact hafter.isLeast

end Ways

/-! ## Runs -/

namespace GnssAdapter

variable {succeeds : ℕ → Bool} {a a' : GnssAdapter} {i : Input} {inputs : List Input}

/-- A session that is started has an id that no other session of the client has. -/
def Fresh (a : GnssAdapter) : Msg → Prop
  | .startTracking client sessionId _ =>
      a.sessions[(⟨client, sessionId⟩ : LocationSessionKey)]? = none
  | _ => True

/-- A step that, if it processes the start of a session, finds its id free. -/
def FreshStep (succeeds : ℕ → Bool) (a : GnssAdapter) (i : Input) (a' : GnssAdapter) : Prop :=
  Step succeeds a i a' ∧ (i = .proc → ∀ m ∈ a.msgs.head?, a.Fresh m)

/-- What holds after every message. -/
structure Inv (a : GnssAdapter) : Prop where
  sized : Sized a.sessions
  multiplexed : Multiplexed a.sessions a.engine

lemma Inv.init : init.Inv where
  sized := by
    intro k o hk
    simp [GnssAdapter.init] at hk
  multiplexed := by
    refine ⟨by simp [GnssAdapter.init], fun p hp => ?_⟩
    cases hp

lemma Inv.saves {key : LocationSessionKey} {options : LocationOptions} (h : a.Inv)
    (hsave : Saves key options a a') : a'.Inv := by
  rcases hsave with ⟨hses, heng⟩ | ⟨hsize, hses, heff⟩
  · exact ⟨hses ▸ h.sized, by rw [hses, heng]; exact h.multiplexed⟩
  · exact ⟨hses ▸ h.sized.insert hsize, h.multiplexed.effect heff⟩

lemma Inv.stopSession (hok : ∀ n, succeeds n = true) {key : LocationSessionKey} (h : a.Inv)
    (hin : a.sessions.contains key = true) :
    (a.stopSession succeeds key).2.Inv ∧
      (a.stopSession succeeds key).2.sessions = a.sessions.erase key := by
  obtain ⟨hses, heff⟩ := stopSession_erases hok h.sized hin
  exact ⟨⟨hses ▸ h.sized.erase, by rw [hses]; exact h.multiplexed.effect heff⟩, hses⟩

/-- **One message.** -/
lemma Inv.procMsg (hok : ∀ n, succeeds n = true) (h : a.Inv) {m : Msg} (hfresh : a.Fresh m) :
    (a.procMsg succeeds m).Inv := by
  cases m with
  | addClient client callbacks => exact ⟨h.sized, h.multiplexed⟩
  | removeClient client =>
      have hstop : (a.stopClientSessions succeeds client).Inv :=
        stopClientSessions_invariant
          (fun done key rest _ b _ hin hb => hb.stopSession hok hin) h
      exact ⟨hstop.sized, hstop.multiplexed⟩
  | startTracking client sessionId options =>
      exact h.saves (procStartTracking_saves hok options h.sized hfresh)
  | updateTracking client sessionId options =>
      exact h.saves (procUpdateTracking_saves hok client sessionId options h.sized)
  | stopTracking client sessionId =>
      rw [GnssAdapter.procMsg, procStopTracking]
      split_ifs with hin
      · have hstop := (h.stopSession hok hin).1
        exact ⟨hstop.sized, hstop.multiplexed⟩
      · exact h
  | restartSessions =>
      obtain ⟨hses, heff⟩ := restartSessions_effect hok ⟨0, 0⟩ h.sized
      exact ⟨hses ▸ h.sized, by rw [GnssAdapter.procMsg, hses]; exact h.multiplexed.effect heff⟩

lemma Inv.step (hok : ∀ n, succeeds n = true) (h : a.Inv) (hs : FreshStep succeeds a i a') :
    a'.Inv := by
  obtain ⟨rfl, hfresh⟩ := hs
  cases i with
  | proc =>
      rw [input]
      cases hm : a.msgs with
      | nil => exact h
      | cons m msgs =>
          have hm' : a.Fresh m := hfresh rfl m (by rw [hm]; rfl)
          refine Inv.procMsg hok (a := { a with msgs := msgs }) ⟨h.sized, h.multiplexed⟩ ?_
          cases m <;> exact hm'
  | _ => exact ⟨h.sized, h.multiplexed⟩

instance (a : GnssAdapter) : (m : Msg) → Decidable (a.Fresh m)
  | .startTracking client sessionId _ =>
      inferInstanceAs (Decidable (a.sessions[(⟨client, sessionId⟩ : LocationSessionKey)]? = none))
  | .addClient _ _ => isTrue trivial
  | .removeClient _ => isTrue trivial
  | .updateTracking _ _ _ => isTrue trivial
  | .stopTracking _ _ => isTrue trivial
  | .restartSessions => isTrue trivial

/-- A step that meets the condition, as a function, for runs on fixed inputs. -/
def nextFresh (a : GnssAdapter) (i : Input) : Option (GnssAdapter × Input) :=
  if i = .proc → ∀ m ∈ a.msgs.head?, a.Fresh m then some (a.input (fun _ => true) i, i) else none

lemma freshStep_of_next {p : GnssAdapter × Input} (h : a.nextFresh i = some p) :
    FreshStep (fun _ => true) a p.2 p.1 := by
  rw [nextFresh] at h
  split_ifs at h with hfresh
  cases h
  exact ⟨rfl, hfresh⟩

/-- Taking ids moves only the counter. -/
lemma run_generateSessionId (succeeds : ℕ → Bool) (a : GnssAdapter) (n : ℕ) (hn : a.sessionIdCounter + n < 0xFFFFFFFF) :
    Run (Step succeeds) a (List.replicate n .generateSessionId)
      { a with sessionIdCounter := a.sessionIdCounter + n } := by
  induction n with
  | zero => exact .nil a
  | succ n ih =>
      rw [List.replicate_succ']
      refine (ih (by omega)).snoc ?_
      simp only [Step, input, takeSessionId, generateSessionId]
      rw [if_neg (by omega), Nat.add_assoc]

end GnssAdapter

open GnssAdapter in
/-- **The engine runs with the smallest interval.**  In every run of commands, engine-up events and
processed messages, where every call of the engine succeeds and no session is started under the id
of a session of the same client that still runs: in every state reached the engine is running
exactly when there are tracking sessions, and the interval that it was last programmed with is the
minimum of the intervals of all sessions. -/
theorem tracking_interval {succeeds : ℕ → Bool} {inputs : List Input} {a : GnssAdapter}
    (hok : ∀ n, succeeds n = true) (hr : Run (FreshStep succeeds) init inputs a) :
    Multiplexed a.sessions a.engine :=
  (hr.invariant (P := Inv) (fun _ _ _ h hs => h.step hok hs) .init).multiplexed

/-- Tracking options with the given interval and mode. -/
def every (minInterval : ℕ) (mode : GnssSuplMode) : LocationOptions := ⟨16, minInterval, 0, mode⟩

open GnssAdapter in
/-- Two sessions, of which the smaller is updated to the larger interval and the other then stopped. -/
theorem tracking_interval_two : ∃ inputs a, Run (FreshStep fun _ => true) init inputs a ∧
    a.engine = some (convertOptions (every 900 .standalone)) ∧ Multiplexed a.sessions a.engine := by
  have hrun : ((execBy nextFresh init [.addClientCommand 1 ⟨true, false⟩, .proc,
      .startTrackingCommand 1 (every 100 .standalone), .proc,
      .startTrackingCommand 1 (every 500 .standalone), .proc,
      .updateTrackingOptionsCommand 1 2 (every 900 .standalone), .proc,
      .stopTrackingCommand 1 3, .proc]).map fun p =>
        decide (p.1.engine = some (convertOptions (every 900 .standalone)))) = some true := by
    decide +kernel
  obtain ⟨⟨a, inputs⟩, hp, ha⟩ := Option.map_eq_some_iff.mp hrun
  have hr : Run (FreshStep fun _ => true) init inputs a :=
    Run.of_execBy (fun _ _ _ h => freshStep_of_next h) hp
  exact ⟨inputs, a, hr, of_decide_eq_true ha, tracking_interval (fun _ => rfl) hr⟩

namespace GnssAdapter

lemma run_foldl (succeeds : ℕ → Bool) (is : List Input) (a : GnssAdapter) :
    Run (Step succeeds) a is (is.foldl (GnssAdapter.input succeeds) a) := by
  induction is using List.reverseRecOn with
  | nil => exact .nil a
  | append_singleton is i ih =>
      rw [List.foldl_append]
      exact ih.snoc rfl

/-- A client with one session of interval 100 under the id 2. -/
def oneSession : GnssAdapter :=
  [Input.addClientCommand 1 ⟨true, false⟩, .proc,
    .startTrackingCommand 1 (every 100 .standalone), .proc].foldl (input fun _ => true) init

/-- The same client after the counter has gone round and a session of interval 500 has started. -/
def reusedId : GnssAdapter :=
  [Input.startTrackingCommand 1 (every 500 .standalone), .proc].foldl (input fun _ => true)
    { oneSession with sessionIdCounter := 1 }

end GnssAdapter

open GnssAdapter in
/-- After the counter of ids has gone round once, a client that still runs session 2 is given the id
2 again, and the engine keeps the interval of a session that is no more. -/
theorem reused_id_keeps_interval : ∃ inputs a, Run (Step fun _ => true) init inputs a ∧
    ¬Multiplexed a.sessions a.engine := by
  have hcounter : oneSession.sessionIdCounter = 2 := by decide +kernel
  have hround := run_generateSessionId (fun _ => true) oneSession 0xFFFFFFFC
    (by rw [hcounter]; norm_num)
  have hwrap : Step (fun _ => true)
      { oneSession with sessionIdCounter := oneSession.sessionIdCounter + 0xFFFFFFFC }
      .generateSessionId { oneSession with sessionIdCounter := 1 } := by
    rw [hcounter]
    rfl
  refine ⟨_, reusedId, ((run_foldl _ _ _).append (hround.snoc hwrap)).append (run_foldl _ _ _), ?_⟩
  intro h
  have heng : reusedId.engine = some (convertOptions (every 100 .standalone)) := by decide +kernel
  obtain ⟨key, o, hk, ho⟩ := (h.least _ heng).1
  have hall : ∀ p ∈ reusedId.sessions.toList, p.2.minInterval = 500 := by decide +kernel
  have hfive := hall (key, o) (Std.ExtTreeMap.mem_toList_iff_getElem?_eq_some.mpr hk)
  rw [ho] at hfive
  exact absurd hfive (by decide)

end Gps.Tracking
