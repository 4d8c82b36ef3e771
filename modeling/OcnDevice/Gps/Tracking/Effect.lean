import OcnDevice.Core.Loop
import OcnDevice.Gps.Tracking.Model

/-!
# What a message does to sessions and engine

A message concerns one session at most, or, for the removal of a client, one after another.  As long
as the engine calls succeed it can go four ways (`Effect`): nothing changes; the engine is programmed
with the options of a session that is the smallest afterwards; the last session goes and the engine
stops; or the engine keeps its program, and then some *other* session is at least as small as the one
concerned, before and after.

The comparisons of the code rest on `smallestIntervalOptions`, which finds a smallest session if
there is any (`smallest_spec`).  It takes a size of zero for nothing found, and no saved session has
that (`Sized`).
-/

namespace Gps.Tracking

/-- `LocationSessionMap`. -/
abbrev LocationSessionMap := Std.ExtTreeMap LocationSessionKey LocationOptions

section Smallest

variable {m : LocationSessionMap} {key : LocationSessionKey}

/-- Every saved session has a size. -/
def Sized (m : LocationSessionMap) : Prop :=
  ∀ (key : LocationSessionKey) (options : LocationOptions), m[key]? = some options → options.size ≠ 0

/-- The options of a session that has the smallest interval of those not skipped. -/
def IsSmallest (m : LocationSessionMap) (skip : Option LocationSessionKey)
    (options : LocationOptions) : Prop :=
  (∃ key : LocationSessionKey, m[key]? = some options ∧ some key ≠ skip) ∧
    ∀ (key : LocationSessionKey) (o : LocationOptions), m[key]? = some o → some key ≠ skip →
      options.minInterval ≤ o.minInterval

/-- **The loop finds a smallest session**, if there is one that is not skipped. -/
lemma smallest_spec {a : GnssAdapter} (hs : Sized a.sessions) {skip : Option LocationSessionKey}
    (hex : ∃ (key : LocationSessionKey) (o : LocationOptions),
      a.sessions[key]? = some o ∧ some key ≠ skip) :
    IsSmallest a.sessions skip (a.smallestIntervalOptions skip) := by
  have hmem : ∀ (key : LocationSessionKey) (o : LocationOptions),
      (key, o) ∈ a.sessions.toList ↔ a.sessions[key]? = some o :=
    fun key o => Std.ExtTreeMap.mem_toList_iff_getElem?_eq_some
  rw [GnssAdapter.smallestIntervalOptions, Std.ExtTreeMap.foldl_eq_foldl_toList]
  -- over the part that the loop has seen: nothing found and all skipped, or a smallest one
  have hloop := foldl_invariant (l := a.sessions.toList)
    (f := fun (smallest : LocationOptions) (p : LocationSessionKey × LocationOptions) =>
      if some p.1 ≠ skip ∧ (smallest.size = 0 ∨ p.2.minInterval < smallest.minInterval) then p.2
      else smallest)
    (s := ⟨0, 0, 0, .standalone⟩)
    (P := fun done smallest =>
      (smallest.size = 0 ∧ ∀ p ∈ done, some p.1 = skip) ∨
        (smallest.size ≠ 0 ∧ (∃ p ∈ done, some p.1 ≠ skip ∧ p.2 = smallest) ∧
          ∀ p ∈ done, some p.1 ≠ skip → smallest.minInterval ≤ p.2.minInterval))
    (Or.inl ⟨rfl, by simp⟩) ?_
  · rcases hloop with ⟨-, hall⟩ | ⟨-, ⟨p, hp, hne, heq⟩, hle⟩
    · obtain ⟨key, o, hk, hne⟩ := hex
      exact absurd (hall (key, o) ((hmem key o).mpr hk)) hne
    · refine ⟨⟨p.1, ?_, hne⟩, fun key o hk hne' => hle (key, o) ((hmem key o).mpr hk) hne'⟩
      rw [← heq]
      exact (hmem p.1 p.2).mp hp
  · intro done p rest smallest hl hdone
    have hsize : p.2.size ≠ 0 := hs p.1 p.2 ((hmem p.1 p.2).mp (by rw [hl]; simp))
    split_ifs with hp
    · refine Or.inr ⟨hsize, ⟨p, by simp, hp.1, rfl⟩, ?_⟩
      intro q hq hne
      rcases List.mem_append.mp hq with hq | hq
      · rcases hdone with ⟨-, hall⟩ | ⟨hpos, -, hle⟩
        · exact absurd (hall q hq) hne
        · rcases hp.2 with hzero | hlt
          · exact absurd hzero hpos
          · exact hlt.le.trans (hle q hq hne)
      · rw [List.mem_singleton.mp hq]
    · rw [not_and, not_or, not_lt] at hp
      rcases hdone with ⟨hzero, hall⟩ | ⟨hpos, ⟨q, hq, hne, heq⟩, hle⟩
      · refine Or.inl ⟨hzero, fun q hq => ?_⟩
        rcases List.mem_append.mp hq with hq | hq
        · exact hall q hq
        · rw [List.mem_singleton.mp hq]
          by_contra hne
          exact (hp hne).1 hzero
      · refine Or.inr ⟨hpos, ⟨q, by simp [hq], hne, heq⟩, fun r hr hne' => ?_⟩
        rcases List.mem_append.mp hr with hr | hr
        · exact hle r hr hne'
        · rw [List.mem_singleton.mp hr] at hne' ⊢
          exact (hp hne').2

end Smallest

/-! ## The four ways -/

/-- What may happen to the sessions and the engine when the session `key` is concerned. -/
inductive Effect (key : LocationSessionKey) (m : LocationSessionMap) (e : Option LocPosMode) :
    LocationSessionMap → Option LocPosMode → Prop
  /-- Nothing changes. -/
  | same : Effect key m e m e
  /-- The engine is programmed with a session that is the smallest now. -/
  | retuned {m' options} : IsSmallest m' none options →
      Effect key m e m' (some (convertOptions options))
  /-- The last session goes. -/
  | stopped {m'} : (∀ k : LocationSessionKey, m'[k]? = none) → Effect key m e m' none
  /-- The engine keeps its program, and another session is at least as small as the one concerned. -/
  | kept {m' options} (other : IsSmallest m (some key) options)
      (frame : ∀ k : LocationSessionKey, k ≠ key → m'[k]? = m[k]?)
      (old : ∀ o, m[key]? = some o → options.minInterval ≤ o.minInterval)
      (new : ∀ o, m'[key]? = some o → options.minInterval ≤ o.minInterval) :
      Effect key m e m' e

section Lookups

variable {m : LocationSessionMap} {key k : LocationSessionKey} {options : LocationOptions}

lemma getElem?_insert_self : (m.insert key options)[key]? = some options :=
  Std.ExtTreeMap.getElem?_insert_self

lemma getElem?_insert_of_ne (h : k ≠ key) : (m.insert key options)[k]? = m[k]? := by
  rw [Std.ExtTreeMap.getElem?_insert, if_neg]
  rw [Std.LawfulEqCmp.compare_eq_iff_eq]
  exact Ne.symm h

lemma getElem?_erase_self : (m.erase key)[key]? = none := Std.ExtTreeMap.getElem?_erase_self

lemma getElem?_erase_of_ne (h : k ≠ key) : (m.erase key)[k]? = m[k]? := by
  rw [Std.ExtTreeMap.getElem?_erase, if_neg]
  rw [Std.LawfulEqCmp.compare_eq_iff_eq]
  exact Ne.symm h

lemma contains_iff : m.contains key = true ↔ ∃ o, m[key]? = some o := by
  rw [← Option.isSome_iff_exists, Std.ExtTreeMap.contains_eq_isSome_getElem?]

lemma isEmpty_iff : m.isEmpty = true ↔ ∀ k : LocationSessionKey, m[k]? = none := by
  rw [Std.ExtTreeMap.isEmpty_iff, Std.ExtTreeMap.eq_empty_iff_forall_contains]
  simp only [Std.ExtTreeMap.contains_eq_isSome_getElem?, Option.isSome_eq_false_iff,
    Option.isNone_iff_eq_none]

/-- A session is the only one exactly if the size of the map is one. -/
lemma size_eq_one_iff (h : m.contains key = true) :
    m.size = 1 ↔ ∀ k : LocationSessionKey, k ≠ key → m[k]? = none := by
  have hsize : (m.erase key).size = m.size - 1 := by
    rw [Std.ExtTreeMap.size_erase, if_pos h]
  have hpos : m.size ≠ 0 := by
    intro h0
    rw [← Std.ExtTreeMap.eq_empty_iff_size_eq_zero] at h0
    rw [h0] at h
    simp at h
  have hempty : m.size = 1 ↔ (m.erase key).isEmpty = true := by
    rw [Std.ExtTreeMap.isEmpty_eq_size_beq_zero, beq_iff_eq, hsize]
    omega
  rw [hempty, isEmpty_iff]
  constructor
  · intro hall k hk
    rw [← getElem?_erase_of_ne hk]
    exact hall k
  · intro hall k
    by_cases hk : k = key
    · rw [hk]
      exact getElem?_erase_self
    · rw [getElem?_erase_of_ne hk]
      exact hall k hk

/-- Saved sessions have a size. -/
lemma Sized.insert (h : Sized m) (hsize : options.size ≠ 0) :
    Sized (m.insert key options) := by
  intro k o hk
  by_cases hkk : k = key
  · rw [hkk, getElem?_insert_self] at hk
    cases hk
    exact hsize
  · rw [getElem?_insert_of_ne hkk] at hk
    exact h k o hk

lemma Sized.erase (h : Sized m) : Sized (m.erase key) := by
  intro k o hk
  by_cases hkk : k = key
  · rw [hkk, getElem?_erase_self] at hk
    cases hk
  · rw [getElem?_erase_of_ne hkk] at hk
    exact h k o hk

end Lookups

/-! ## The ways of the messages -/

namespace GnssAdapter

section Engine

variable {succeeds : ℕ → Bool} (hok : ∀ n, succeeds n = true) (a : GnssAdapter)

include hok

lemma startTracking_ok (options : LocationOptions) :
    a.startTracking succeeds options = (.success,
      { a with engine := some (convertOptions options), engineCalls := a.engineCalls + 1 }) := by
  rw [startTracking, if_pos (hok _)]

lemma stopTracking_ok : a.stopTracking succeeds =
    (.success, { a with engine := none, engineCalls := a.engineCalls + 1 }) := by
  rw [stopTracking, if_pos (hok _)]

end Engine

variable {succeeds : ℕ → Bool} (hok : ∀ n, succeeds n = true) {a : GnssAdapter}
  {key : LocationSessionKey} {options : LocationOptions}

/-- A session other than the one concerned. -/
lemma exists_other (hin : a.sessions.contains key = true) (hsize : a.sessions.size ≠ 1) :
    ∃ (k : LocationSessionKey) (o : LocationOptions),
      a.sessions[k]? = some o ∧ some k ≠ some key := by
  rw [ne_eq, size_eq_one_iff hin] at hsize
  push Not at hsize
  obtain ⟨k, hk, hne⟩ := hsize
  obtain ⟨o, ho⟩ := Option.ne_none_iff_exists'.mp hne
  exact ⟨k, o, ho, fun heq => hk (Option.some.inj heq)⟩

lemma exists_session (hne : ¬a.sessions.isEmpty = true) :
    ∃ (k : LocationSessionKey) (o : LocationOptions), a.sessions[k]? = some o ∧ some k ≠ none := by
  rw [isEmpty_iff] at hne
  push Not at hne
  obtain ⟨k, hk⟩ := hne
  obtain ⟨o, ho⟩ := Option.ne_none_iff_exists'.mp hk
  exact ⟨k, o, ho, Option.some_ne_none _⟩

include hok

omit hok in
/-- A new session, or one that is changed, and all others are no smaller. -/
lemma isSmallest_insert {m : LocationSessionMap}
    (h : ∀ (k : LocationSessionKey) (o : LocationOptions), k ≠ key → m[k]? = some o →
      options.minInterval ≤ o.minInterval) : IsSmallest (m.insert key options) none options := by
  refine ⟨⟨key, getElem?_insert_self, Option.some_ne_none _⟩, fun k o hk _ => ?_⟩
  by_cases hkk : k = key
  · rw [hkk, getElem?_insert_self] at hk
    cases hk
    exact le_rfl
  · rw [getElem?_insert_of_ne hkk] at hk
    exact h k o hkk hk

omit hok in
/-- The smallest of the others is the smallest, when the one concerned is not smaller or gone. -/
lemma isSmallest_of_other {m m' : LocationSessionMap} {o : LocationOptions}
    (h : IsSmallest m (some key) o) (hframe : ∀ k : LocationSessionKey, k ≠ key → m'[k]? = m[k]?)
    (hnew : ∀ o', m'[key]? = some o' → o.minInterval ≤ o'.minInterval) :
    IsSmallest m' none o := by
  obtain ⟨⟨k, hk, hne⟩, hle⟩ := h
  have hkk : k ≠ key := fun heq => hne (congrArg some heq)
  refine ⟨⟨k, (hframe k hkk).trans hk, Option.some_ne_none _⟩, fun k' o' hk' _ => ?_⟩
  by_cases hkk' : k' = key
  · rw [hkk'] at hk'
    exact hnew o' hk'
  · rw [hframe k' hkk'] at hk'
    exact hle k' o' hk' fun heq => hkk' (Option.some.inj heq)

/-- A session that is new: it is the only one, or smaller than all, or some other is as small. -/
lemma start_effect (options : LocationOptions) (hs : Sized a.sessions)
    (hnew : a.sessions[key]? = none) :
    ∃ a', a.startTrackingMultiplex succeeds options = (.success, a') ∧ a'.sessions = a.sessions ∧
      Effect key a.sessions a.engine (a.sessions.insert key options) a'.engine := by
  rw [startTrackingMultiplex, startTracking_ok hok]
  split_ifs with hempty hlt
  · refine ⟨_, rfl, rfl, .retuned (isSmallest_insert fun k o _ hk => ?_)⟩
    rw [isEmpty_iff.mp hempty k] at hk
    cases hk
  · refine ⟨_, rfl, rfl, .retuned (isSmallest_insert fun k o _ hk => ?_)⟩
    exact hlt.le.trans ((smallest_spec hs (exists_session hempty)).2 k o hk (Option.some_ne_none _))
  · obtain ⟨⟨k, hk, -⟩, hle⟩ := smallest_spec hs (exists_session hempty)
    refine ⟨_, rfl, rfl, .kept ⟨⟨k, hk, ?_⟩, fun k' o hk' _ => hle k' o hk' (Option.some_ne_none _)⟩
      (fun k' hk' => getElem?_insert_of_ne hk') ?_ ?_⟩
    · intro heq
      rw [Option.some.inj heq, hnew] at hk
      cases hk
    · intro o ho
      rw [hnew] at ho
      cases ho
    · intro o ho
      rw [getElem?_insert_self] at ho
      cases ho
      exact not_lt.mp hlt

/-- A session that changes. -/
lemma update_effect (options : LocationOptions) (hs : Sized a.sessions)
    (hin : a.sessions.contains key = true) :
    ∃ a', a.updateTrackingMultiplex succeeds key options = (.success, a') ∧
      a'.sessions = a.sessions ∧
      Effect key a.sessions a.engine (a.sessions.insert key options) a'.engine := by
  rw [updateTrackingMultiplex]
  simp only [startTracking_ok hok]
  by_cases hsize : a.sessions.size = 1
  · rw [if_pos hsize]
    refine ⟨_, rfl, rfl, .retuned (isSmallest_insert fun k o hk ho => ?_)⟩
    rw [(size_eq_one_iff hin).mp hsize k hk] at ho
    cases ho
  · obtain ⟨current, hcur⟩ := contains_iff.mp hin
    have hsm := smallest_spec hs (exists_other hin hsize)
    rw [if_neg hsize, hcur]
    dsimp only
    split_ifs with hlt hcl
    · refine ⟨_, rfl, rfl, .retuned (isSmallest_insert fun k o hk ho => ?_)⟩
      exact hlt.le.trans (hsm.2 k o ho fun heq => hk (Option.some.inj heq))
    · refine ⟨_, rfl, rfl, .retuned (isSmallest_of_other hsm
        (fun k hk => getElem?_insert_of_ne hk) fun o ho => ?_)⟩
      rw [getElem?_insert_self] at ho
      cases ho
      exact not_lt.mp hlt
    · refine ⟨_, rfl, rfl, .kept hsm (fun k hk => getElem?_insert_of_ne hk) ?_ ?_⟩
      · intro o ho
        rw [hcur] at ho
        cases ho
        exact not_lt.mp hcl
      · intro o ho
        rw [getElem?_insert_self] at ho
        cases ho
        exact not_lt.mp hlt

/-- A session that goes. -/
lemma stop_effect (hs : Sized a.sessions) (hin : a.sessions.contains key = true) :
    ∃ a', a.stopTrackingMultiplex succeeds key = (.success, a') ∧ a'.sessions = a.sessions ∧
      Effect key a.sessions a.engine (a.sessions.erase key) a'.engine := by
  rw [stopTrackingMultiplex]
  simp only [startTracking_ok hok, stopTracking_ok hok]
  by_cases hsize : a.sessions.size = 1
  · rw [if_pos hsize]
    refine ⟨_, rfl, rfl, .stopped fun k => ?_⟩
    by_cases hk : k = key
    · rw [hk]
      exact getElem?_erase_self
    · rw [getElem?_erase_of_ne hk]
      exact (size_eq_one_iff hin).mp hsize k hk
  · obtain ⟨current, hcur⟩ := contains_iff.mp hin
    have hsm := smallest_spec hs (exists_other hin hsize)
    rw [if_neg hsize, hcur]
    dsimp only
    have hgone : ∀ (b : LocationOptions) o, (a.sessions.erase key)[key]? = some o →
        b.minInterval ≤ o.minInterval := by
      intro b o ho
      rw [getElem?_erase_self] at ho
      cases ho
    split_ifs with hcl
    · exact ⟨_, rfl, rfl, .retuned (isSmallest_of_other hsm
        (fun k hk => getElem?_erase_of_ne hk) (hgone _))⟩
    · refine ⟨_, rfl, rfl, .kept hsm (fun k hk => getElem?_erase_of_ne hk) ?_ (hgone _)⟩
      intro o ho
      rw [hcur] at ho
      cases ho
      exact not_lt.mp hcl

/-! ## What becomes of a message -/

/-- Nothing is done, or the options of a session are saved, as one of the four ways. -/
def Saves (key : LocationSessionKey) (options : LocationOptions) (a a' : GnssAdapter) : Prop :=
  (a'.sessions = a.sessions ∧ a'.engine = a.engine) ∨
    (options.size ≠ 0 ∧ a'.sessions = a.sessions.insert key options ∧
      Effect key a.sessions a.engine a'.sessions a'.engine)

lemma procStartTracking_saves {client sessionId : ℕ} (options : LocationOptions)
    (hs : Sized a.sessions)
    (hnew : a.sessions[(⟨client, sessionId⟩ : LocationSessionKey)]? = none) :
    Saves ⟨client, sessionId⟩ options a
      (a.procStartTracking succeeds client sessionId options) := by
  rw [procStartTracking]
  split_ifs with hcb hsize
  · exact Or.inl ⟨rfl, rfl⟩
  · exact Or.inl ⟨rfl, rfl⟩
  · obtain ⟨a', heq, hsame, heff⟩ := start_effect hok options hs hnew
    rw [heq]
    refine Or.inr ⟨hsize, ?_, ?_⟩
    · simp only [reportResponse, saveTrackingSession, hsame]
    · simp only [reportResponse, saveTrackingSession, hsame]
      exact heff

lemma procUpdateTracking_saves (client sessionId : ℕ) (options : LocationOptions)
    (hs : Sized a.sessions) :
    Saves ⟨client, sessionId⟩ options a
      (a.procUpdateTracking succeeds client sessionId options) := by
  rw [procUpdateTracking]
  split_ifs with hin hsize
  · exact Or.inl ⟨rfl, rfl⟩
  · obtain ⟨a', heq, hsame, heff⟩ := update_effect hok options hs hin
    rw [heq]
    refine Or.inr ⟨hsize, ?_, ?_⟩
    · simp only [reportResponse, saveTrackingSession, hsame]
    · simp only [reportResponse, saveTrackingSession, hsame]
      exact heff
  · exact Or.inl ⟨rfl, rfl⟩

lemma stopSession_erases (hs : Sized a.sessions) (hin : a.sessions.contains key = true) :
    (a.stopSession succeeds key).2.sessions = a.sessions.erase key ∧
      Effect key a.sessions a.engine (a.sessions.erase key) (a.stopSession succeeds key).2.engine := by
  obtain ⟨a', heq, hsame, heff⟩ := stop_effect hok hs hin
  rw [stopSession, heq]
  exact ⟨congrArg (·.erase key) hsame, heff⟩

lemma restartSessions_effect (key : LocationSessionKey) (hs : Sized a.sessions) :
    (a.restartSessions succeeds).sessions = a.sessions ∧
      Effect key a.sessions a.engine a.sessions (a.restartSessions succeeds).engine := by
  rw [restartSessions]
  split_ifs with hempty
  · exact ⟨rfl, .same⟩
  · rw [startTracking_ok hok]
    exact ⟨rfl, .retuned (smallest_spec hs (exists_session hempty))⟩

omit hok in
/-- **What every stop of a session keeps, the removal of a client keeps**: the sessions of the
client are stopped one after another, each of them while it is there. -/
lemma stopClientSessions_invariant {P : GnssAdapter → Prop} {client : ℕ}
    (hstep : ∀ done key rest,
      (a.sessions.keys.filter fun k => k.client = client) = done ++ key :: rest →
      ∀ b, b = done.foldl (fun b k => (b.stopSession succeeds k).2) a →
      b.sessions.contains key = true → P b →
        P (b.stopSession succeeds key).2 ∧
          (b.stopSession succeeds key).2.sessions = b.sessions.erase key)
    (h : P a) : P (a.stopClientSessions succeeds client) := by
  have hnodup : (a.sessions.keys.filter fun k => k.client = client).Nodup :=
    List.Nodup.filter _ Std.ExtTreeMap.nodup_keys
  rw [stopClientSessions]
  refine (foldl_invariant (P := fun done b =>
    b = done.foldl (fun b k => (b.stopSession succeeds k).2) a ∧ P b ∧
      ∀ k : LocationSessionKey, k ∉ done → b.sessions[k]? = a.sessions[k]?)
    ⟨rfl, h, fun _ _ => rfl⟩ ?_).2.1
  rintro done key rest b hl ⟨hb, hP, hframe⟩
  rw [hl, List.nodup_append] at hnodup
  have hfresh : key ∉ done := fun hk => hnodup.2.2 key hk key (by simp) rfl
  have hin : b.sessions.contains key = true := by
    rw [Std.ExtTreeMap.contains_eq_isSome_getElem?, hframe key hfresh,
      ← Std.ExtTreeMap.contains_eq_isSome_getElem?, Std.ExtTreeMap.contains_iff_mem,
      ← Std.ExtTreeMap.mem_keys]
    exact List.mem_of_mem_filter (p := fun k => k.client = client) (by rw [hl]; simp)
  obtain ⟨hP', hsame⟩ := hstep done key rest hl b hb hin hP
  refine ⟨?_, hP', fun k hk => ?_⟩
  · rw [List.foldl_append, ← hb]
    rfl
  · rw [List.mem_append, List.mem_singleton, not_or] at hk
    rw [hsame, getElem?_erase_of_ne hk.2, hframe k hk.1]

end GnssAdapter

end Gps.Tracking
