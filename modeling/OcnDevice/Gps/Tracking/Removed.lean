import OcnDevice.Gps.Tracking.Interval

/-!
# Removing a client

The sessions of a client that goes are stopped one after another, and only a session whose stop has
succeeded is erased.  The data of the client is erased in any case, so that a session whose stop has
failed is left without an owner: nobody can stop it any more, and the engine goes on for it.

* `stopSession_cases` — the three ways that the stop of one session can go.
* `stopAll_erases_iff` — a list of sessions is gone exactly if every call of the engine that the
  stops need succeeds, by induction on the list.
-/

namespace Gps.Tracking

namespace GnssAdapter

/-! ## The calls that are needed -/

/-- The stop of a session has to call the engine: it is the only one, or smaller than all others. -/
def needsEngine (a : GnssAdapter) (key : LocationSessionKey) : Prop :=
  a.sessions.size = 1 ∨ ∃ current ∈ a.sessions[key]?,
    current.minInterval < (a.smallestIntervalOptions (some key)).minInterval

instance (a : GnssAdapter) (key : LocationSessionKey) : Decidable (a.needsEngine key) :=
  inferInstanceAs (Decidable (_ ∨ _))

/-- How many calls of the engine it takes to stop the sessions of a list, one after another. -/
def callsNeeded (a : GnssAdapter) : List LocationSessionKey → ℕ
  | [] => 0
  | key :: keys =>
      (if a.needsEngine key then 1 else 0) + (a.eraseTrackingSession key).callsNeeded keys

/-- The sessions of a client, in the order of the map. -/
def sessionsOf (a : GnssAdapter) (client : ℕ) : List LocationSessionKey :=
  a.sessions.keys.filter fun key => key.client = client

variable {succeeds : ℕ → Bool} {a b : GnssAdapter} {key : LocationSessionKey}
  {keys : List LocationSessionKey} {client : ℕ}

lemma needsEngine_congr (h : a.sessions = b.sessions) : a.needsEngine key ↔ b.needsEngine key := by
  simp only [needsEngine, smallestIntervalOptions, h]

lemma callsNeeded_congr (h : a.sessions = b.sessions) :
    a.callsNeeded keys = b.callsNeeded keys := by
  induction keys generalizing a b with
  | nil => rfl
  | cons key keys ih =>
      have herase : (a.eraseTrackingSession key).sessions = (b.eraseTrackingSession key).sessions :=
        congrArg (·.erase key) h
      simp only [callsNeeded, needsEngine_congr h, ih herase]

lemma mem_sessionsOf : key ∈ a.sessionsOf client ↔
    key.client = client ∧ ∃ options, a.sessions[key]? = some options := by
  rw [sessionsOf, List.mem_filter, decide_eq_true_iff, Std.ExtTreeMap.mem_keys,
    ← Std.ExtTreeMap.contains_iff_mem, contains_iff, and_comm]

lemma sessionsOf_nodup : (a.sessionsOf client).Nodup :=
  List.Nodup.filter _ Std.ExtTreeMap.nodup_keys

/-! ## One session -/

/-- **The stop of a session**: it needs no call; or the call succeeds, and if the session was the
only one the engine stops; or the call fails, and the sessions stay as they are. -/
lemma stopSession_cases (succeeds : ℕ → Bool) (hin : a.sessions.contains key = true) :
    let a' := (a.stopSession succeeds key).2
    (¬a.needsEngine key ∧ a'.sessions = a.sessions.erase key ∧ a'.engineCalls = a.engineCalls) ∨
      (a.needsEngine key ∧ succeeds a.engineCalls = true ∧
        a'.sessions = a.sessions.erase key ∧ a'.engineCalls = a.engineCalls + 1 ∧
        (a.sessions.size = 1 → a'.engine = none)) ∨
      (a.needsEngine key ∧ succeeds a.engineCalls = false ∧ a'.sessions = a.sessions) := by
  obtain ⟨current, hcur⟩ := contains_iff.mp hin
  simp only [needsEngine, stopSession, stopTrackingMultiplex, startTracking, stopTracking, hcur,
    Option.mem_def, Option.some.injEq, exists_eq_left']
  by_cases hok : succeeds a.engineCalls = true <;> by_cases hsize : a.sessions.size = 1 <;>
    by_cases hlt : current.minInterval < (a.smallestIntervalOptions (some key)).minInterval <;>
    simp [hok, hsize, hlt, eraseTrackingSession]

/-- Other sessions are left alone. -/
lemma stopSession_of_ne (succeeds : ℕ → Bool) (hin : a.sessions.contains key = true)
    {k : LocationSessionKey} (hk : k ≠ key) :
    (a.stopSession succeeds key).2.sessions[k]? = a.sessions[k]? := by
  rcases stopSession_cases succeeds hin with ⟨-, hses, -⟩ | ⟨-, -, hses, -, -⟩ | ⟨-, -, hses⟩
  · rw [hses, getElem?_erase_of_ne hk]
  · rw [hses, getElem?_erase_of_ne hk]
  · rw [hses]

/-! ## The sessions of a client -/

/-- The sessions of a list are stopped one after another. -/
def stopAll (succeeds : ℕ → Bool) (a : GnssAdapter) (keys : List LocationSessionKey) :
    GnssAdapter :=
  keys.foldl (fun b key => (b.stopSession succeeds key).2) a

/-- What is to be stopped later is still there after one stop. -/
lemma contains_after_stop (succeeds : ℕ → Bool) (hnodup : (key :: keys).Nodup)
    (hin : ∀ k ∈ key :: keys, a.sessions.contains k = true) :
    ∀ k ∈ keys, (a.stopSession succeeds key).2.sessions.contains k = true := by
  intro k hk
  have hne : k ≠ key := fun h => (List.nodup_cons.mp hnodup).1 (h ▸ hk)
  rw [contains_iff, stopSession_of_ne succeeds (hin key (by simp)) hne, ← contains_iff]
  exact hin k (List.mem_cons_of_mem _ hk)

lemma stopAll_of_not_mem (hnodup : keys.Nodup)
    (hin : ∀ k ∈ keys, a.sessions.contains k = true) {k : LocationSessionKey} (hk : k ∉ keys) :
    (a.stopAll succeeds keys).sessions[k]? = a.sessions[k]? := by
  induction keys generalizing a with
  | nil => rfl
  | cons key keys ih =>
      rw [List.mem_cons, not_or] at hk
      have hrest := ih hnodup.of_cons (contains_after_stop succeeds hnodup hin) hk.2
      exact hrest.trans (stopSession_of_ne succeeds (hin key (by simp)) hk.1)

/-- The first call that is needed, and those behind it. -/
lemma calls_succeed_iff {c n : ℕ} : (∀ i < 1 + n, succeeds (c + i) = true) ↔
    succeeds c = true ∧ ∀ i < n, succeeds (c + 1 + i) = true := by
  constructor
  · intro h
    refine ⟨h 0 (by omega), fun i hi => ?_⟩
    rw [Nat.add_assoc]
    exact h (1 + i) (by omega)
  · rintro ⟨hfirst, hothers⟩ i hi
    cases i with
    | zero => exact hfirst
    | succ i =>
        have hnext := hothers i (by omega)
        rwa [Nat.add_assoc, Nat.add_comm 1 i] at hnext

/-- **All sessions of the list are gone exactly if every call that is needed succeeds.**  A session
whose stop has failed is not touched again. -/
lemma stopAll_erases_iff (hnodup : keys.Nodup)
    (hin : ∀ k ∈ keys, a.sessions.contains k = true) :
    (∀ k ∈ keys, (a.stopAll succeeds keys).sessions[k]? = none) ↔
      ∀ i < a.callsNeeded keys, succeeds (a.engineCalls + i) = true := by
  induction keys generalizing a with
  | nil => simp [callsNeeded]
  | cons key keys ih =>
      have hkey : key ∉ keys := (List.nodup_cons.mp hnodup).1
      have hafter := contains_after_stop succeeds hnodup hin
      have hrest := ih hnodup.of_cons hafter
      -- the rest leaves this session as its own stop has left it
      have hfirst : (a.stopAll succeeds (key :: keys)).sessions[key]? =
          (a.stopSession succeeds key).2.sessions[key]? :=
        stopAll_of_not_mem hnodup.of_cons hafter hkey
      have herased : (a.stopSession succeeds key).2.sessions = a.sessions.erase key →
          (a.stopSession succeeds key).2.callsNeeded keys =
            (a.eraseTrackingSession key).callsNeeded keys :=
        fun h => callsNeeded_congr h
      rw [List.forall_mem_cons, hfirst]
      change _ ∧ (∀ k ∈ keys, ((a.stopSession succeeds key).2.stopAll succeeds keys).sessions[k]? =
        none) ↔ _
      rw [hrest, callsNeeded]
      rcases stopSession_cases succeeds (hin key (by simp)) with
        ⟨hneed, hses, hcalls⟩ | ⟨hneed, hok, hses, hcalls, -⟩ | ⟨hneed, hfail, hses⟩
      · rw [herased hses, hses, hcalls, if_neg hneed, Nat.zero_add]
        exact and_iff_right getElem?_erase_self
      · rw [herased hses, hses, hcalls, if_pos hneed, calls_succeed_iff, and_iff_right hok]
        exact and_iff_right getElem?_erase_self
      · obtain ⟨options, hoptions⟩ := contains_iff.mp (hin key (by simp))
        rw [hses, hoptions, if_pos hneed, calls_succeed_iff, hfail]
        exact iff_of_false (fun h => Option.some_ne_none _ h.1) fun h => Bool.false_ne_true h.1

/-- The stop of the last session stops the engine. -/
lemma stopAll_engine (hnodup : keys.Nodup) (hin : ∀ k ∈ keys, a.sessions.contains k = true)
    (hne : keys ≠ [])
    (hempty : ∀ k : LocationSessionKey, (a.stopAll succeeds keys).sessions[k]? = none) :
    (a.stopAll succeeds keys).engine = none := by
  induction keys generalizing a with
  | nil => exact absurd rfl hne
  | cons key keys ih =>
      cases keys with
      | cons next keys =>
          exact ih hnodup.of_cons (contains_after_stop succeeds hnodup hin) (List.cons_ne_nil _ _)
            hempty
      | nil =>
          have hkey := hin key (by simp)
          have hsize : a.sessions.size = 1 := by
            rw [size_eq_one_iff hkey]
            intro k hk
            rw [← stopSession_of_ne succeeds hkey hk]
            exact hempty k
          rcases stopSession_cases succeeds hkey with
            ⟨hneed, -, -⟩ | ⟨-, -, -, -, hengine⟩ | ⟨-, -, hses⟩
          · exact absurd (Or.inl hsize) hneed
          · exact hengine hsize
          · obtain ⟨options, hoptions⟩ := contains_iff.mp hkey
            have hnone : (a.stopSession succeeds key).2.sessions[key]? = none := hempty key
            rw [hses, hoptions] at hnone
            cases hnone

end GnssAdapter

/-! ## The removal -/

/-- A client is gone: it has no session and no callbacks any more, the sessions of all others are as
they were, and if it had all sessions there were then the engine has stopped. -/
structure Removed (client : ℕ) (a a' : GnssAdapter) : Prop where
  sessions : ∀ key : LocationSessionKey, key.client = client → a'.sessions[key]? = none
  data : a'.clientData[client]? = none
  others : ∀ key : LocationSessionKey, key.client ≠ client → a'.sessions[key]? = a.sessions[key]?
  engine : a.sessions.isEmpty = false →
    (∀ key : LocationSessionKey, key.client ≠ client → a.sessions[key]? = none) → a'.engine = none

open GnssAdapter in
/-- **A client is removed exactly if the engine does what it is asked.**  For every set of sessions,
every client and every outcome of the engine calls: after a remove-client message the client is gone
if and only if every call of the engine that the stops of its sessions need succeeds.  A session
needs a call when it is the only one left, or smaller than all others that are left. -/
theorem client_removed_iff (succeeds : ℕ → Bool) (a : GnssAdapter) (client : ℕ) :
    Removed client a (a.procMsg succeeds (.removeClient client)) ↔
      ∀ i < a.callsNeeded (a.sessionsOf client), succeeds (a.engineCalls + i) = true := by
  have hin : ∀ k ∈ a.sessionsOf client, a.sessions.contains k = true :=
    fun k hk => contains_iff.mpr (mem_sessionsOf.mp hk).2
  have hnodup : (a.sessionsOf client).Nodup := sessionsOf_nodup
  rw [← stopAll_erases_iff hnodup hin]
  constructor
  · intro h k hk
    exact h.sessions k (mem_sessionsOf.mp hk).1
  · intro h
    have hother : ∀ {k : LocationSessionKey}, k ∉ a.sessionsOf client →
        (a.stopAll succeeds (a.sessionsOf client)).sessions[k]? = a.sessions[k]? :=
      fun hk => stopAll_of_not_mem hnodup hin hk
    have hgone : ∀ key : LocationSessionKey, key.client = client →
        (a.stopAll succeeds (a.sessionsOf client)).sessions[key]? = none := by
      intro key hkey
      by_cases hk : key ∈ a.sessionsOf client
      · exact h key hk
      · rw [hother hk, ← Option.not_isSome_iff_eq_none, Option.isSome_iff_exists]
        exact fun hex => hk (mem_sessionsOf.mpr ⟨hkey, hex⟩)
    have hframe : ∀ key : LocationSessionKey, key.client ≠ client →
        (a.stopAll succeeds (a.sessionsOf client)).sessions[key]? = a.sessions[key]? :=
      fun key hkey => hother fun hk => hkey (mem_sessionsOf.mp hk).1
    refine ⟨hgone, ?_, hframe, fun hempty hall => stopAll_engine hnodup hin ?_ fun k => ?_⟩
    · exact Std.ExtTreeMap.getElem?_erase_self
    · intro (hnil : a.sessionsOf client = [])
      rw [Bool.eq_false_iff, ne_eq, isEmpty_iff] at hempty
      refine hempty fun k => ?_
      by_cases hk : k.client = client
      · rw [← hother (hnil ▸ List.not_mem_nil)]
        exact hgone k hk
      · exact hall k hk
    · by_cases hk : k.client = client
      · exact hgone k hk
      · exact (hframe k hk).trans (hall k hk)

open GnssAdapter in
/-- A client with one session is removed while the engine refuses to stop: its session stays, and
the engine goes on. -/
theorem refused_stop_keeps_session :
    ∃ (succeeds : ℕ → Bool) (inputs : List Input) (a : GnssAdapter),
    Run (Step succeeds) init inputs a ∧
      ¬Removed 1 a (a.procMsg succeeds (.removeClient 1)) ∧
      (a.procMsg succeeds (.removeClient 1)).engine.isSome = true ∧
      (a.procMsg succeeds (.removeClient 1)).clientData[1]? = none := by
  let succeeds : ℕ → Bool := fun n => n = 0
  let a : GnssAdapter := [Input.addClientCommand 1 ⟨true, false⟩, .proc,
    .startTrackingCommand 1 (every 100 .standalone), .proc].foldl (input succeeds) init
  have hstays : (a.procMsg succeeds (.removeClient 1)).sessions[(⟨1, 2⟩ : LocationSessionKey)]? =
      some (every 100 .standalone) := by decide +kernel
  refine ⟨succeeds, _, a, run_foldl _ _ _, fun h => ?_, by decide +kernel, by decide +kernel⟩
  have hgone := h.sessions ⟨1, 2⟩ rfl
  rw [hstays] at hgone
  cases hgone

end Gps.Tracking
