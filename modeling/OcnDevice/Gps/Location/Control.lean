import OcnDevice.Core.Run
import OcnDevice.Gps.Location.Client

/-!
# Updates of the configuration

`LocationAPIControlClient` keeps the bytes of the configuration that it last gave to the engine, and
answers a call with the same bytes by success at once.  The bytes are kept before the engine is
asked: it may return no ids, and when it does, the response that comes later may still report an
error for a part of the configuration.

`submissions` is the history: what the engine was given, and what became of it.  The bytes that are
kept are those of the last submission (`Kept`), whatever became of it, so a call goes wrong just if
it repeats them when it should not (`right_iff`).  One of the members is a pointer to a host name,
and what is behind the pointer is not compared.
-/

namespace Gps.Location

/-! ## The client -/

/-- `GnssConfig`: the bytes of the structure, and the host name that its pointer points to. -/
structure GnssConfig (ι η : Type*) where
  bytes : ι
  hostName : η
  deriving DecidableEq, Repr

/-- A configuration that the engine was given, whether it returned ids for it, and the errors of the
response once it has come. -/
structure Submission (ι η : Type*) where
  config : GnssConfig ι η
  ids : Bool
  errors : Option (List LocationError)
  deriving DecidableEq, Repr

/-- The engine has refused the configuration, or reported an error for a part of it. -/
def Submission.failed {ι η : Type*} (x : Submission ι η) : Bool :=
  !x.ids || x.errors.any fun errors => errors.any (· ≠ .success)

/-- `CONFIG_SESSION_ID`. -/
def configSessionId : ℕ := 0xFFFFFFFF

/-- `LocationAPIControlClient`, as far as it is about configurations, and what the engine was
given. -/
structure LocationAPIControlClient (ι η : Type*) where
  /-- `mLocationControlAPI != nullptr`. -/
  locationControlAPI : Bool
  /-- `mConfig`. -/
  config : ι
  /-- The session of `mRequestQueues[CTRL_REQUEST_CONFIG]`. -/
  configSession : ℕ
  /-- How many requests wait in `mRequestQueues[CTRL_REQUEST_CONFIG]`. -/
  configRequests : ℕ
  /-- What the engine was given so far, the oldest first. -/
  submissions : List (Submission ι η)
  deriving DecidableEq, Repr

/-- A call, with what the engine will return if it is asked, or a response of the engine. -/
inductive ControlInput (ι η : Type*)
  | locAPIGnssUpdateConfig (config : GnssConfig ι η) (ids : Bool)
  | onCtrlCollectiveResponseCb (errors : List LocationError)
  deriving DecidableEq, Repr

/-- The response for the oldest submission that waits for one. -/
def answered {ι η : Type*} (errors : List LocationError) :
    List (Submission ι η) → List (Submission ι η)
  | [] => []
  | x :: xs =>
      if x.ids && x.errors.isNone then { x with errors := some errors } :: xs
      else x :: answered errors xs

namespace LocationAPIControlClient

variable {ι η : Type*} [Zero ι]

/-- The client as it is constructed: the bytes of `mConfig` are zero. -/
def init (locationControlAPI : Bool) : LocationAPIControlClient ι η :=
  ⟨locationControlAPI, 0, 0, 0, []⟩

variable [DecidableEq ι] (a : LocationAPIControlClient ι η)

/-- A request goes into the queue, which is emptied when it has another session. -/
def pushConfig : LocationAPIControlClient ι η :=
  { a with
    configSession := configSessionId
    configRequests := (if a.configSession = configSessionId then a.configRequests else 0) + 1 }

/-- `mLocationControlAPI->gnssUpdateConfig`, which returns ids or not. -/
def gnssUpdateConfig (config : GnssConfig ι η) (ids : Bool) : LocationAPIControlClient ι η :=
  { a with submissions := a.submissions ++ [⟨config, ids, none⟩] }

/-- `locAPIGnssUpdateConfig`. -/
def locAPIGnssUpdateConfig (config : GnssConfig ι η) (ids : Bool) :
    LocationError × LocationAPIControlClient ι η :=
  if a.config = config.bytes then (.success, a)
  else if a.locationControlAPI then
    let a := ({ a with config := config.bytes } : LocationAPIControlClient ι η)
    let a := a.gnssUpdateConfig config ids
    if ids then (.success, a.pushConfig) else (.generalFailure, a)
  else (.generalFailure, a)

/-- `onCtrlCollectiveResponseCb`, for the oldest submission that waits. -/
def onCtrlCollectiveResponseCb (errors : List LocationError) : LocationAPIControlClient ι η :=
  { a with
    submissions := answered errors a.submissions
    configRequests :=
      if a.configSession = configSessionId then a.configRequests - 1 else a.configRequests }

/-! ## Runs -/

/-- What an input does. -/
def input : ControlInput ι η → LocationAPIControlClient ι η
  | .locAPIGnssUpdateConfig config ids => (a.locAPIGnssUpdateConfig config ids).2
  | .onCtrlCollectiveResponseCb errors => a.onCtrlCollectiveResponseCb errors

/-- One input. -/
def Step (i : ControlInput ι η) (a' : LocationAPIControlClient ι η) : Prop := a' = a.input i

/-! ## What a call is for -/

/-- The last configuration that the engine has accepted, as far as is known. -/
def lastAccepted : Option (GnssConfig ι η) :=
  (a.submissions.filter fun x => !x.failed).getLast?.map Submission.config

/-- The last submission of these bytes. -/
def lastAttempt (bytes : ι) : Option (Submission ι η) :=
  (a.submissions.filter fun x => x.config.bytes = bytes).getLast?

/-- **No update is lost**: a call returns success only if its configuration is the last one that the
engine has accepted, and it submits a configuration whose last attempt has failed. -/
def Right : ControlInput ι η → Prop
  | .locAPIGnssUpdateConfig config ids =>
      ((a.locAPIGnssUpdateConfig config ids).1 = .success →
        (a.locAPIGnssUpdateConfig config ids).2.lastAccepted = some config) ∧
      ∀ x ∈ a.lastAttempt config.bytes, x.failed = true →
        (a.locAPIGnssUpdateConfig config ids).2.submissions =
          a.submissions ++ [⟨config, ids, none⟩]
  | .onCtrlCollectiveResponseCb _ => True

/-- **The condition**: when the bytes are those that were submitted last, that submission has not
failed, and the host name is the same. -/
def Careful : ControlInput ι η → Prop
  | .locAPIGnssUpdateConfig config _ => a.config = config.bytes →
      ∃ x, a.submissions.getLast? = some x ∧ x.failed = false ∧ x.config = config
  | .onCtrlCollectiveResponseCb _ => True

/-! ## The bytes that are kept -/

/-- The bytes of the configuration are those of the last submission, and there are submissions only
with an API. -/
structure Kept (a : LocationAPIControlClient ι η) : Prop where
  config_eq : a.config = (a.submissions.map fun x => x.config.bytes).getLast?.getD 0
  api : a.submissions ≠ [] → a.locationControlAPI = true

omit [Zero ι] [DecidableEq ι] in
lemma map_answered {β : Type*} {f : GnssConfig ι η → β} {errors : List LocationError}
    {xs : List (Submission ι η)} :
    (answered errors xs).map (fun x => f x.config) = xs.map fun x => f x.config := by
  induction xs with
  | nil => rfl
  | cons x xs ih =>
      simp only [answered]
      split_ifs
      · simp
      · simp [ih]

variable {a} {i : ControlInput ι η} {config : GnssConfig ι η} {ids : Bool}

omit [DecidableEq ι] in
lemma Kept.init {api : Bool} : (init api : LocationAPIControlClient ι η).Kept :=
  ⟨rfl, fun h => absurd rfl h⟩

omit [Zero ι] in
/-- What a call does with other bytes than those that are kept. -/
lemma locAPIGnssUpdateConfig_of_ne (ids : Bool) (hne : a.config ≠ config.bytes)
    (hapi : a.locationControlAPI = true) :
    (a.locAPIGnssUpdateConfig config ids).1 = (if ids then .success else .generalFailure) ∧
      (a.locAPIGnssUpdateConfig config ids).2.config = config.bytes ∧
      (a.locAPIGnssUpdateConfig config ids).2.submissions =
        a.submissions ++ [⟨config, ids, none⟩] ∧
      (a.locAPIGnssUpdateConfig config ids).2.locationControlAPI = true := by
  cases ids <;> simp [locAPIGnssUpdateConfig, hne, hapi, pushConfig, gnssUpdateConfig]

lemma Kept.input (h : a.Kept) : (a.input i).Kept := by
  cases i with
  | locAPIGnssUpdateConfig config ids =>
      by_cases heq : a.config = config.bytes
      · simpa [LocationAPIControlClient.input, locAPIGnssUpdateConfig, heq] using h
      · cases hapi : a.locationControlAPI with
        | true =>
            obtain ⟨-, hconfig, hsub, hapi'⟩ := locAPIGnssUpdateConfig_of_ne ids heq hapi
            refine ⟨?_, fun _ => hapi'⟩
            simp only [LocationAPIControlClient.input, hconfig, hsub, List.map_append]
            simp
        | false => simpa [LocationAPIControlClient.input, locAPIGnssUpdateConfig, heq, hapi] using h
  | onCtrlCollectiveResponseCb errors =>
      refine ⟨?_, fun hne => h.api fun hnil => hne ?_⟩
      · simpa [LocationAPIControlClient.input, onCtrlCollectiveResponseCb,
          map_answered (f := GnssConfig.bytes)] using h.config_eq
      · simp [LocationAPIControlClient.input, onCtrlCollectiveResponseCb, hnil, answered]

omit [Zero ι] in
/-- The last submission is the last attempt with its bytes. -/
lemma lastAttempt_of_getLast {x : Submission ι η} (h : a.submissions.getLast? = some x) :
    a.lastAttempt x.config.bytes = some x := by
  obtain ⟨xs, hxs⟩ := List.getLast?_eq_some_iff.mp h
  simp [lastAttempt, hxs]

omit [Zero ι] [DecidableEq ι] in
lemma lastAccepted_of_getLast {x : Submission ι η} (h : a.submissions.getLast? = some x)
    (hx : x.failed = false) : a.lastAccepted = some x.config := by
  obtain ⟨xs, hxs⟩ := List.getLast?_eq_some_iff.mp h
  simp [lastAccepted, hxs, hx]

/-- A call that repeats the bytes kept succeeds at once, so these must have been accepted. -/
lemma Kept.right_repeated_iff (h : a.Kept) (heq : a.config = config.bytes) :
    a.Right (.locAPIGnssUpdateConfig config ids) ↔
      a.Careful (.locAPIGnssUpdateConfig config ids) := by
  have hcall : a.locAPIGnssUpdateConfig config ids = (.success, a) := if_pos heq
  simp only [Right, Careful, hcall, heq, true_imp_iff]
  constructor
  · rintro ⟨hacc, hretry⟩
    cases hlast : a.submissions.getLast? with
    | none =>
        rw [List.getLast?_eq_none_iff] at hlast
        simp [lastAccepted, hlast] at hacc
    | some x =>
        have hbytes : x.config.bytes = config.bytes := by
          rw [← heq, h.config_eq, List.getLast?_map, hlast]
          rfl
        have hattempt := lastAttempt_of_getLast hlast
        rw [hbytes] at hattempt
        cases hx : x.failed with
        | true =>
            have hlen := congrArg List.length (hretry x hattempt hx)
            simp at hlen
        | false =>
            rw [lastAccepted_of_getLast hlast hx] at hacc
            exact ⟨x, rfl, hx, Option.some.inj hacc⟩
  · rintro ⟨x, hlast, hx, rfl⟩
    refine ⟨lastAccepted_of_getLast hlast hx, fun y hy hfail => ?_⟩
    rw [lastAttempt_of_getLast hlast] at hy
    obtain rfl := Option.some.inj hy
    rw [hx] at hfail
    exact Bool.noConfusion hfail

/-- A call with other bytes is submitted, or there is no API. -/
lemma Kept.right_of_ne (h : a.Kept) (hne : a.config ≠ config.bytes) :
    a.Right (.locAPIGnssUpdateConfig config ids) := by
  cases hapi : a.locationControlAPI with
  | true =>
      obtain ⟨hret, -, hsub, -⟩ := locAPIGnssUpdateConfig_of_ne ids hne hapi
      refine ⟨fun hsuccess => ?_, fun _ _ _ => hsub⟩
      cases ids with
      | true => simp [lastAccepted, hsub, Submission.failed]
      | false =>
          rw [hret] at hsuccess
          cases hsuccess
  | false =>
      have hcall : a.locAPIGnssUpdateConfig config ids = (.generalFailure, a) := by
        simp [locAPIGnssUpdateConfig, hne, hapi]
      have hnil : a.submissions = [] := by
        by_contra hsome
        rw [h.api hsome] at hapi
        cases hapi
      simp [Right, hcall, lastAttempt, hnil]

/-- **A call is right just if it is careful.** -/
lemma Kept.right_iff (h : a.Kept) : a.Right i ↔ a.Careful i := by
  cases i with
  | onCtrlCollectiveResponseCb errors => exact Iff.rfl
  | locAPIGnssUpdateConfig config ids =>
      by_cases heq : a.config = config.bytes
      · exact h.right_repeated_iff heq
      · exact iff_of_true (h.right_of_ne heq) fun hcontra => absurd hcontra heq

end LocationAPIControlClient

open LocationAPIControlClient in
/-- **No update is lost just if none repeats a configuration that has failed.**  In every run of
calls and responses, whatever the engine returns and reports: all calls are right if and only if
none is given the bytes of the last submission, unless that one has been accepted, no error has been
reported for it since, and the host name is the same. -/
theorem no_update_lost_iff {ι η : Type*} [Zero ι] [DecidableEq ι] (api : Bool)
    (is : List (ControlInput ι η)) (a : LocationAPIControlClient ι η) :
    Run (fun a i a' => a.Step i a' ∧ a.Right i) (init api) is a ↔
      Run (fun a i a' => a.Step i a' ∧ a.Careful i) (init api) is a :=
  Run.and_congr (I := Kept) (fun _ _ _ h hst => hst ▸ h.input) (fun _ _ _ h _ => h.right_iff)
    Kept.init

open LocationAPIControlClient in
/-- A configuration that the engine refuses is reported as set when it is given once more. -/
theorem refused_update_is_lost : ∃ a : LocationAPIControlClient ℕ ℕ,
    Run Step (init true) [.locAPIGnssUpdateConfig ⟨1, 0⟩ false] a ∧
      (a.locAPIGnssUpdateConfig ⟨1, 0⟩ true).1 = .success ∧ a.submissions.length = 1 ∧
      a.lastAccepted = none ∧ ¬a.Right (.locAPIGnssUpdateConfig ⟨1, 0⟩ true) := by
  refine ⟨_, .snoc (.nil _) rfl, by decide, by decide, by decide, fun h => ?_⟩
  exact absurd (h.1 (by decide)) (by decide)

end Gps.Location
