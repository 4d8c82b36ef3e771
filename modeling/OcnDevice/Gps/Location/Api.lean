import OcnDevice.Core.Loop
import OcnDevice.Core.Run

/-!
# The clients of the location API

`LocationAPI` is a front for up to three interface libraries: GNSS, FLP and geofence.  A client is
added to those that its callback set asks for, when it is created and whenever it updates its
callbacks; the libraries are loaded at the first use, and one that fails to load is not tried again.
When the client is destroyed it is removed from the interfaces that its *last* callback set asks
for.

`Registered` says in terms of the calls alone who is held by which interface: the clients that have
ever given a set asking for it.  The question is then when the last set speaks for all earlier ones
(`LastSpeaks`).
-/

namespace Gps.Location

/-! ## Callbacks and interfaces -/

/-- The three interfaces. -/
inductive Interface
  | gnss
  | flp
  | geofence
  deriving DecidableEq, Repr

/-- `LocationCallbacks`: which of the callbacks are set. -/
structure LocationCallbacks where
  capabilitiesCb : Bool
  responseCb : Bool
  collectiveResponseCb : Bool
  trackingCb : Bool
  batchingCb : Bool
  geofenceBreachCb : Bool
  geofenceStatusCb : Bool
  gnssNiCb : Bool
  gnssMeasurementsCb : Bool
  deriving DecidableEq, Repr

/-- `isGnssClient`. -/
def isGnssClient (cb : LocationCallbacks) : Bool :=
  cb.gnssNiCb || cb.trackingCb || cb.gnssMeasurementsCb

/-- `isFlpClient`. -/
def isFlpClient (cb : LocationCallbacks) : Bool := cb.trackingCb || cb.batchingCb

/-- `isGeofenceClient`. -/
def isGeofenceClient (cb : LocationCallbacks) : Bool := cb.geofenceBreachCb || cb.geofenceStatusCb

/-- The callback set asks for the interface. -/
def isClient : Interface → LocationCallbacks → Bool
  | .gnss => isGnssClient
  | .flp => isFlpClient
  | .geofence => isGeofenceClient

/-- The three callbacks without which a call does nothing are set. -/
def hasResponseCbs (cb : LocationCallbacks) : Bool :=
  cb.capabilitiesCb && cb.responseCb && cb.collectiveResponseCb

/-- `LocationAPIData`, with the load flags, and the clients that the interfaces hold. -/
structure LocationAPIData where
  /-- `clientData`, by the address of the client. -/
  clientData : Std.ExtTreeMap ℕ LocationCallbacks
  /-- The pointer to the interface is set. -/
  loaded : Interface → Bool
  /-- `gGnssLoadFailed` and its siblings. -/
  loadFailed : Interface → Bool
  /-- The clients of each interface, with the callbacks that it was given last. -/
  clients : Interface → Std.ExtTreeMap ℕ LocationCallbacks
  /-- The requests for capabilities so far. -/
  asked : List (Interface × ℕ)

namespace LocationAPIData

/-- `gData` at the start. -/
def init : LocationAPIData := ⟨∅, fun _ => false, fun _ => false, fun _ => ∅, []⟩

section Model

/- The libraries that can be loaded. -/
variable (available : Interface → Bool)

/-- An interface is loaded unless it is there or has failed to load. -/
def load (i : Interface) (d : LocationAPIData) : LocationAPIData :=
  if !d.loaded i && !d.loadFailed i then
    if available i then { d with loaded := Function.update d.loaded i true }
    else { d with loadFailed := Function.update d.loadFailed i true }
  else d

/-- `addClient` of an interface, which adds the client or replaces its callbacks. -/
def addClient (i : Interface) (client : ℕ) (cb : LocationCallbacks) (d : LocationAPIData) :
    LocationAPIData :=
  { d with clients := Function.update d.clients i ((d.clients i).insert client cb) }

/-- `removeClient` of an interface. -/
def removeClient (i : Interface) (client : ℕ) (d : LocationAPIData) : LocationAPIData :=
  { d with clients := Function.update d.clients i ((d.clients i).erase client) }

/-- The block of `updateCallbacks` for one interface. -/
def addTo (client : ℕ) (cb : LocationCallbacks) (d : LocationAPIData) (i : Interface) :
    LocationAPIData :=
  if isClient i cb then
    if (d.load available i).loaded i then (d.load available i).addClient i client cb
    else d.load available i
  else d

/-- The block of `createInstance` for one interface: the first one that the client is added to is
asked for its capabilities. -/
def addNewTo (client : ℕ) (cb : LocationCallbacks) (p : LocationAPIData × Bool) (i : Interface) :
    LocationAPIData × Bool :=
  let d := p.1.addTo available client cb i
  if isClient i cb && d.loaded i && !p.2 then
    ({ d with asked := d.asked ++ [(i, client)] }, true)
  else (d, p.2)

/-- `createInstance`, for the address of the new object. -/
def createInstance (client : ℕ) (cb : LocationCallbacks) (d : LocationAPIData) : LocationAPIData :=
  if hasResponseCbs cb then
    let d := ([Interface.gnss, .flp, .geofence].foldl (addNewTo available client cb) (d, false)).1
    { d with clientData := d.clientData.insert client cb }
  else d

/-- `updateCallbacks`. -/
def updateCallbacks (client : ℕ) (cb : LocationCallbacks) (d : LocationAPIData) :
    LocationAPIData :=
  if hasResponseCbs cb then
    let d := [Interface.gnss, .flp, .geofence].foldl (addTo available client cb) d
    { d with clientData := d.clientData.insert client cb }
  else d

/-- The removal of a client from one interface, by the destructor. -/
def removeFrom (client : ℕ) (cb : LocationCallbacks) (d : LocationAPIData) (i : Interface) :
    LocationAPIData :=
  if isClient i cb && d.loaded i then d.removeClient i client else d

/-- `destroy`, which runs `~LocationAPI`. -/
def destroy (client : ℕ) (d : LocationAPIData) : LocationAPIData :=
  match d.clientData[client]? with
  | some cb =>
      let d := [Interface.gnss, .flp, .geofence].foldl (removeFrom client cb) d
      { d with clientData := d.clientData.erase client }
  | none => d

end Model

end LocationAPIData

/-! ## Runs -/

/-- A call of the API. -/
inductive ApiCall
  | createInstance (client : ℕ) (cb : LocationCallbacks)
  | updateCallbacks (client : ℕ) (cb : LocationCallbacks)
  | destroy (client : ℕ)
  deriving DecidableEq, Repr

namespace LocationAPIData

variable (available : Interface → Bool)

/-- What a call does. -/
def call (d : LocationAPIData) : ApiCall → LocationAPIData
  | .createInstance client cb => d.createInstance available client cb
  | .updateCallbacks client cb => d.updateCallbacks available client cb
  | .destroy client => d.destroy client

/-- A new object is not at the address of one that exists; the other calls are made on objects that
exist. -/
def Possible (d : LocationAPIData) : ApiCall → Prop
  | .createInstance client _ => client ∉ d.clientData
  | .updateCallbacks client _ => client ∈ d.clientData
  | .destroy client => client ∈ d.clientData

instance (d : LocationAPIData) : (op : ApiCall) → Decidable (d.Possible op)
  | .createInstance client _ => inferInstanceAs (Decidable (client ∉ d.clientData))
  | .updateCallbacks client _ => inferInstanceAs (Decidable (client ∈ d.clientData))
  | .destroy client => inferInstanceAs (Decidable (client ∈ d.clientData))

/-- One call of a client. -/
def Step (d : LocationAPIData) (op : ApiCall) (d' : LocationAPIData) : Prop :=
  d.Possible op ∧ d' = d.call available op

/-- **Every interface holds existing clients only.** -/
def NoneDangles (d : LocationAPIData) : Prop :=
  ∀ i client, client ∈ d.clients i → client ∈ d.clientData

end LocationAPIData

/-- The callback sets that a client has given since it was created, the newest last. -/
def givenAfter (g : ℕ → List LocationCallbacks) : ApiCall → ℕ → List LocationCallbacks
  | .createInstance client cb => if hasResponseCbs cb then Function.update g client [cb] else g
  | .updateCallbacks client cb =>
      if hasResponseCbs cb then Function.update g client (g client ++ [cb]) else g
  | .destroy client => Function.update g client []

/-- The callback sets that each client has given in a run. -/
def given (ops : List ApiCall) : ℕ → List LocationCallbacks := ops.foldl givenAfter fun _ => []

/-! ## Who is held by whom -/

namespace LocationAPIData

variable {available : Interface → Bool} {d : LocationAPIData} {i j : Interface} {client : ℕ}
  {cb : LocationCallbacks}

/-- The load flags tell the truth about the libraries. -/
structure Loads (available : Interface → Bool) (d : LocationAPIData) : Prop where
  loaded : ∀ i, d.loaded i = true → available i = true
  failed : ∀ i, d.loadFailed i = true → available i = false

lemma load_clients : (d.load available i).clients = d.clients := by
  rw [load]
  split_ifs <;> rfl

lemma load_clientData : (d.load available i).clientData = d.clientData := by
  rw [load]
  split_ifs <;> rfl

lemma load_mono (h : d.loaded j = true) : (d.load available i).loaded j = true := by
  rw [load]
  split_ifs
  · by_cases hj : j = i
    · rw [hj]
      exact Function.update_self _ _ _
    · exact (Function.update_of_ne hj _ _).trans h
  · exact h
  · exact h

namespace Loads

lemma init : Loads available init := ⟨fun _ h => Bool.noConfusion h, fun _ h => Bool.noConfusion h⟩

lemma load (h : d.Loads available) (i : Interface) : (d.load available i).Loads available := by
  rw [LocationAPIData.load]
  split_ifs with hn ha
  · refine ⟨fun k hk => ?_, h.failed⟩
    by_cases hki : k = i
    · rw [hki, ha]
    · exact h.loaded k ((Function.update_of_ne hki _ _).symm.trans hk)
  · refine ⟨h.loaded, fun k hk => ?_⟩
    by_cases hki : k = i
    · rw [hki]
      exact Bool.eq_false_iff.mpr ha
    · exact h.failed k ((Function.update_of_ne hki _ _).symm.trans hk)
  · exact h

/-- **After a load the interface is there exactly if its library is.** -/
lemma loaded_load (h : d.Loads available) (i : Interface) :
    (d.load available i).loaded i = available i := by
  rw [LocationAPIData.load]
  split_ifs with hn ha
  · rw [ha]
    exact Function.update_self _ _ _
  · have hd : d.loaded i = false := by simpa using (Bool.and_eq_true_iff.mp hn).1
    rw [Bool.eq_false_iff.mpr ha, hd]
  · rw [Bool.and_eq_true_iff, not_and_or] at hn
    rcases hn with hn | hn
    · have hd : d.loaded i = true := by simpa using hn
      rw [hd, h.loaded i hd]
    · have hf : d.loadFailed i = true := by simpa using hn
      rw [h.failed i hf, Bool.eq_false_iff]
      intro hd
      exact Bool.noConfusion ((h.loaded i hd).symm.trans (h.failed i hf))

lemma addTo (h : d.Loads available) (client : ℕ) (cb : LocationCallbacks) (i : Interface) :
    (d.addTo available client cb i).Loads available := by
  rw [LocationAPIData.addTo]
  split_ifs
  · exact ⟨(h.load i).loaded, (h.load i).failed⟩
  · exact h.load i
  · exact h

end Loads

lemma addTo_clientData : (d.addTo available client cb i).clientData = d.clientData := by
  rw [addTo]
  split_ifs
  · exact load_clientData
  · exact load_clientData
  · rfl

lemma addTo_mono (h : d.loaded j = true) : (d.addTo available client cb i).loaded j = true := by
  rw [addTo]
  split_ifs
  · exact load_mono h
  · exact load_mono h
  · exact h

lemma mem_addClient {c : ℕ} :
    c ∈ (d.addClient i client cb).clients j ↔ c ∈ d.clients j ∨ i = j ∧ c = client := by
  rw [addClient]
  dsimp only
  by_cases hj : j = i
  · subst hj
    rw [Function.update_self, Std.ExtTreeMap.mem_insert, Nat.compare_eq_eq]
    simp only [true_and, eq_comm, or_comm]
  · rw [Function.update_of_ne hj]
    simp only [Ne.symm hj, false_and, or_false]

lemma mem_removeClient {c : ℕ} :
    c ∈ (d.removeClient i client).clients j ↔ c ∈ d.clients j ∧ ¬(i = j ∧ c = client) := by
  rw [removeClient]
  dsimp only
  by_cases hj : j = i
  · subst hj
    rw [Function.update_self, Std.ExtTreeMap.mem_erase, ne_eq, Nat.compare_eq_eq]
    simp only [true_and, eq_comm, and_comm]
  · rw [Function.update_of_ne hj]
    simp only [Ne.symm hj, false_and, not_false_iff, and_true]

/-- An interface that is asked for, and has a library, gets the client. -/
lemma mem_addTo (hl : d.Loads available) {c : ℕ} :
    c ∈ (d.addTo available client cb i).clients j ↔
      c ∈ d.clients j ∨ i = j ∧ c = client ∧ available j = true ∧ isClient j cb = true := by
  rw [addTo, hl.loaded_load]
  split_ifs with hc ha
  · rw [mem_addClient, load_clients]
    refine or_congr_right ⟨?_, fun h => ⟨h.1, h.2.1⟩⟩
    rintro ⟨rfl, hcl⟩
    exact ⟨rfl, hcl, ha, hc⟩
  · rw [load_clients]
    constructor
    · exact Or.inl
    · rintro (h | ⟨rfl, -, h, -⟩)
      · exact h
      · exact absurd h ha
  · constructor
    · exact Or.inl
    · rintro (h | ⟨rfl, -, -, h⟩)
      · exact h
      · exact absurd h hc

lemma loaded_addTo (hl : d.Loads available) (hc : isClient i cb = true) :
    (d.addTo available client cb i).loaded i = available i := by
  rw [addTo, if_pos hc, hl.loaded_load]
  split_ifs
  · exact hl.loaded_load i
  · exact hl.loaded_load i

/-- Only interfaces that are there hold clients. -/
def HeldByLoaded (d : LocationAPIData) : Prop := ∀ i client, client ∈ d.clients i → d.loaded i = true

lemma HeldByLoaded.addTo (hl : d.Loads available) (h : d.HeldByLoaded) :
    (d.addTo available client cb i).HeldByLoaded := by
  intro j c hc
  rcases (mem_addTo hl).mp hc with hc | ⟨rfl, -, ha, hcl⟩
  · exact addTo_mono (h j c hc)
  · rw [loaded_addTo hl hcl, ha]

/-- What the blocks for the interfaces of a list have done. -/
structure Added (available : Interface → Bool) (client : ℕ) (cb : LocationCallbacks)
    (d : LocationAPIData) (done : List Interface) (t : LocationAPIData) : Prop where
  loads : t.Loads available
  held : t.HeldByLoaded
  clientData : t.clientData = d.clientData
  mem : ∀ j c, c ∈ t.clients j ↔
    c ∈ d.clients j ∨ j ∈ done ∧ c = client ∧ available j = true ∧ isClient j cb = true

lemma added (client : ℕ) (cb : LocationCallbacks) (hl : d.Loads available) (h : d.HeldByLoaded) (l : List Interface) :
    Added available client cb d l (l.foldl (addTo available client cb) d) := by
  refine foldl_invariant (P := Added available client cb d) ?_ ?_
  · exact ⟨hl, h, rfl, by simp⟩
  · intro done i rest t _ ht
    refine ⟨ht.loads.addTo client cb i, ht.held.addTo ht.loads,
      addTo_clientData.trans ht.clientData, ?_⟩
    intro j c
    rw [mem_addTo ht.loads, ht.mem, List.mem_append, List.mem_singleton, or_assoc]
    refine or_congr_right ?_
    constructor
    · rintro (⟨hj, hrest⟩ | ⟨rfl, hrest⟩)
      · exact ⟨Or.inl hj, hrest⟩
      · exact ⟨Or.inr rfl, hrest⟩
    · rintro ⟨hj | rfl, hrest⟩
      · exact Or.inl ⟨hj, hrest⟩
      · exact Or.inr ⟨rfl, hrest⟩

/-- The blocks of `createInstance` are those of `updateCallbacks` but for the request for the
capabilities. -/
lemma addNewTo_foldl (available : Interface → Bool) (client : ℕ) (cb : LocationCallbacks)
    (l : List Interface) (p : LocationAPIData × Bool) :
    ∃ asked, (l.foldl (addNewTo available client cb) p).1 =
      { l.foldl (addTo available client cb) p.1 with asked := asked } := by
  have hcomm : ∀ (e : LocationAPIData) (i : Interface) (asked : List (Interface × ℕ)),
      ({ e with asked := asked } : LocationAPIData).addTo available client cb i =
        { e.addTo available client cb i with asked := asked } := by
    intro e i asked
    simp only [addTo, load, addClient]
    split_ifs <;> rfl
  refine foldl_invariant (P := fun done (q : LocationAPIData × Bool) => ∃ asked,
    q.1 = { done.foldl (addTo available client cb) p.1 with asked := asked }) ⟨_, rfl⟩ ?_
  rintro done i rest q - ⟨asked, hq⟩
  rw [List.foldl_append, addNewTo, hq, hcomm]
  dsimp only
  split_ifs
  · exact ⟨_, rfl⟩
  · exact ⟨_, rfl⟩

/-- What the removals from the interfaces of a list have done. -/
lemma mem_removeFrom_foldl (h : d.HeldByLoaded) (l : List Interface) {j : Interface} {c : ℕ} :
    c ∈ (l.foldl (removeFrom client cb) d).clients j ↔
      c ∈ d.clients j ∧ ¬(j ∈ l ∧ c = client ∧ isClient j cb = true) := by
  suffices hall : (l.foldl (removeFrom client cb) d).loaded = d.loaded ∧
      ∀ c, c ∈ (l.foldl (removeFrom client cb) d).clients j ↔
        c ∈ d.clients j ∧ ¬(j ∈ l ∧ c = client ∧ isClient j cb = true) from hall.2 c
  refine foldl_invariant (P := fun done (t : LocationAPIData) => t.loaded = d.loaded ∧
    ∀ c, c ∈ t.clients j ↔ c ∈ d.clients j ∧ ¬(j ∈ done ∧ c = client ∧ isClient j cb = true))
    ⟨rfl, by simp⟩ ?_
  rintro done i rest t - ⟨hload, hmem⟩
  rw [removeFrom]
  split_ifs with hi
  · refine ⟨hload, fun c => ?_⟩
    rw [Bool.and_eq_true_iff] at hi
    rw [mem_removeClient, hmem, List.mem_append, List.mem_singleton, and_assoc]
    refine and_congr_right fun _ => ?_
    constructor
    · rintro ⟨h1, h2⟩ ⟨hj | rfl, hc, hcl⟩
      · exact h1 ⟨hj, hc, hcl⟩
      · exact h2 ⟨rfl, hc⟩
    · intro hno
      refine ⟨fun hj => hno ⟨Or.inl hj.1, hj.2⟩, ?_⟩
      rintro ⟨rfl, hc⟩
      exact hno ⟨Or.inr rfl, hc, hi.1⟩
  · refine ⟨hload, fun c => ?_⟩
    rw [hmem, List.mem_append, List.mem_singleton]
    refine and_congr_right fun hc => not_congr ?_
    constructor
    · rintro ⟨hj, hrest⟩
      exact ⟨Or.inl hj, hrest⟩
    · rintro ⟨hj | rfl, hrest⟩
      · exact ⟨hj, hrest⟩
      · refine absurd ?_ hi
        rw [hload, hrest.2, h j c hc]
        rfl

lemma removeFrom_foldl_clientData (d : LocationAPIData) (client : ℕ) (cb : LocationCallbacks)
    (l : List Interface) :
    (l.foldl (removeFrom client cb) d).clientData = d.clientData ∧
      (l.foldl (removeFrom client cb) d).loaded = d.loaded ∧
      (l.foldl (removeFrom client cb) d).loadFailed = d.loadFailed := by
  refine foldl_invariant (P := fun _ (t : LocationAPIData) => t.clientData = d.clientData ∧
    t.loaded = d.loaded ∧ t.loadFailed = d.loadFailed) ⟨rfl, rfl, rfl⟩ ?_
  intro done i rest t _ ht
  rw [removeFrom]
  split_ifs
  · exact ht
  · exact ht

end LocationAPIData

lemma mem_interfaces (i : Interface) : i ∈ [Interface.gnss, .flp, .geofence] := by
  cases i <;> decide

/-! ## Registered by the calls -/

namespace LocationAPIData

variable {available : Interface → Bool} {d d' : LocationAPIData} {g : ℕ → List LocationCallbacks}
  {client : ℕ} {cb : LocationCallbacks} {op : ApiCall} {ops : List ApiCall}

/-- An interface holds the clients that have given it a callback set, and the client data has the
last set of each. -/
structure Registered (available : Interface → Bool) (g : ℕ → List LocationCallbacks)
    (d : LocationAPIData) : Prop where
  loads : d.Loads available
  held : d.HeldByLoaded
  last : ∀ c, d.clientData[c]? = (g c).getLast?
  mem : ∀ i c, c ∈ d.clients i ↔ available i = true ∧ ∃ cb ∈ g c, isClient i cb = true

/-- The last callback set of a client asks for every interface that an earlier one has asked for, as
far as there is a library. -/
def LastSpeaks (available : Interface → Bool) (g : ℕ → List LocationCallbacks) (client : ℕ) : Prop :=
  ∀ i, available i = true → (∃ cb ∈ g client, isClient i cb = true) →
    ∃ cb, (g client).getLast? = some cb ∧ isClient i cb = true

namespace Registered

lemma init : Registered available (fun _ => []) init :=
  ⟨.init, by simp [HeldByLoaded, LocationAPIData.init], by simp [LocationAPIData.init],
    by simp [LocationAPIData.init]⟩

lemma mem_clientData (h : d.Registered available g) {c : ℕ} : c ∈ d.clientData ↔ g c ≠ [] := by
  rw [Std.ExtTreeMap.mem_iff_isSome_getElem?, h.last, List.getLast?_isSome]

/-- Nobody who is registered dangles. -/
lemma noneDangles (h : d.Registered available g) : d.NoneDangles := by
  intro i c hc
  obtain ⟨-, cb, hcb, -⟩ := (h.mem i c).mp hc
  rw [h.mem_clientData]
  exact List.ne_nil_of_mem hcb

/-- `updateCallbacks` adds one more set to those of the client. -/
lemma updateCallbacks (client : ℕ) (h : d.Registered available g) (hcb : hasResponseCbs cb = true) :
    (d.updateCallbacks available client cb).Registered available
      (Function.update g client (g client ++ [cb])) := by
  have ha := added client cb h.loads h.held [Interface.gnss, .flp, .geofence]
  rw [LocationAPIData.updateCallbacks, if_pos hcb]
  refine ⟨⟨ha.loads.loaded, ha.loads.failed⟩, ha.held, ?_, ?_⟩
  · intro c
    dsimp only
    rw [Std.ExtTreeMap.getElem?_insert, ha.clientData]
    simp only [Nat.compare_eq_eq]
    by_cases hc : client = c
    · subst hc
      simp
    · rw [if_neg hc, Function.update_of_ne (Ne.symm hc), h.last]
  · intro i c
    dsimp only
    rw [ha.mem, h.mem]
    by_cases hc : c = client
    · subst hc
      rw [Function.update_self]
      simp only [mem_interfaces, List.mem_append, List.mem_singleton, true_and]
      constructor
      · rintro (⟨hav, cb', hcb', hcl⟩ | ⟨hav, hcl⟩)
        · exact ⟨hav, cb', Or.inl hcb', hcl⟩
        · exact ⟨hav, cb, Or.inr rfl, hcl⟩
      · rintro ⟨hav, cb', hcb' | rfl, hcl⟩
        · exact Or.inl ⟨hav, cb', hcb', hcl⟩
        · exact Or.inr ⟨hav, hcl⟩
    · rw [Function.update_of_ne hc]
      simp [hc]

/-- What is asked for is not looked at. -/
lemma asked (h : d.Registered available g) (asked : List (Interface × ℕ)) :
    ({ d with asked := asked } : LocationAPIData).Registered available g :=
  ⟨⟨h.loads.loaded, h.loads.failed⟩, h.held, h.last, h.mem⟩

lemma createInstance (h : d.Registered available g) (hcb : hasResponseCbs cb = true)
    (hnew : client ∉ d.clientData) :
    (d.createInstance available client cb).Registered available (Function.update g client [cb]) := by
  have hg : g client = [] := by
    rw [h.mem_clientData] at hnew
    simpa using hnew
  obtain ⟨asked, heq⟩ := addNewTo_foldl available client cb
    [Interface.gnss, .flp, .geofence] (d, false)
  have hu := (h.updateCallbacks client hcb).asked asked
  rw [hg, List.nil_append, LocationAPIData.updateCallbacks, if_pos hcb] at hu
  rw [LocationAPIData.createInstance, if_pos hcb]
  dsimp only at heq ⊢
  rw [heq]
  exact hu

/-- `destroy` of a client whose last callback set speaks for all. -/
lemma destroy (h : d.Registered available g) (hin : client ∈ d.clientData)
    (hlast : LastSpeaks available g client) :
    (d.destroy client).Registered available (Function.update g client []) := by
  obtain ⟨cb, hcb⟩ := Option.isSome_iff_exists.mp (Std.ExtTreeMap.mem_iff_isSome_getElem?.mp hin)
  obtain ⟨hdata, hload, hfail⟩ := removeFrom_foldl_clientData d client cb
    [Interface.gnss, .flp, .geofence]
  rw [LocationAPIData.destroy, hcb]
  dsimp only
  refine ⟨⟨fun i hi => h.loads.loaded i (hload ▸ hi), fun i hi => h.loads.failed i (hfail ▸ hi)⟩,
    fun i c hc => ?_, ?_, ?_⟩
  · dsimp only at hc ⊢
    rw [hload]
    exact h.held i c ((mem_removeFrom_foldl h.held _).mp hc).1
  · intro c
    dsimp only
    rw [hdata, Std.ExtTreeMap.getElem?_erase]
    simp only [Nat.compare_eq_eq]
    by_cases hc : client = c
    · subst hc
      simp
    · rw [if_neg hc, Function.update_of_ne (Ne.symm hc), h.last]
  · intro i c
    dsimp only
    rw [mem_removeFrom_foldl h.held]
    by_cases hc : c = client
    · subst hc
      simp only [mem_interfaces, true_and, Function.update_self, List.not_mem_nil, false_and,
        exists_false, and_false, iff_false, not_and, not_not]
      intro hmem
      obtain ⟨hav, hex⟩ := (h.mem i c).mp hmem
      obtain ⟨cb', hl, hcl⟩ := hlast i hav hex
      rw [← h.last, hcb] at hl
      cases hl
      exact hcl
    · rw [Function.update_of_ne hc, ← h.mem]
      simp [hc]

/-- **A destroyed client is forgotten only if its last callback set speaks for all.** -/
lemma lastSpeaks (h : d.Registered available g) (hin : client ∈ d.clientData)
    (hnone : (d.destroy client).NoneDangles) : LastSpeaks available g client := by
  obtain ⟨cb, hcb⟩ := Option.isSome_iff_exists.mp (Std.ExtTreeMap.mem_iff_isSome_getElem?.mp hin)
  intro i hav hex
  refine ⟨cb, by rw [← h.last, hcb], ?_⟩
  by_contra hcl
  have hmem : client ∈ (d.destroy client).clients i := by
    rw [LocationAPIData.destroy, hcb]
    dsimp only
    rw [mem_removeFrom_foldl h.held]
    exact ⟨(h.mem i client).mpr ⟨hav, hex⟩, fun hno => hcl hno.2.2⟩
  have hgone := hnone i client hmem
  rw [LocationAPIData.destroy, hcb] at hgone
  dsimp only at hgone
  rw [Std.ExtTreeMap.mem_erase] at hgone
  exact hgone.1 (Nat.compare_eq_eq.mpr rfl)

/-- **One call**, where a destroyed client has a last callback set that speaks for all. -/
lemma step (h : d.Registered available g) (hs : Step available d op d')
    (hlast : ∀ client, op = .destroy client → LastSpeaks available g client) :
    d'.Registered available (givenAfter g op) := by
  obtain ⟨hposs, rfl⟩ := hs
  cases op with
  | createInstance client cb =>
      by_cases hcb : hasResponseCbs cb = true
      · rw [givenAfter, if_pos hcb]
        exact h.createInstance hcb hposs
      · rw [givenAfter, if_neg hcb, call, LocationAPIData.createInstance, if_neg hcb]
        exact h
  | updateCallbacks client cb =>
      by_cases hcb : hasResponseCbs cb = true
      · rw [givenAfter, if_pos hcb]
        exact h.updateCallbacks client hcb
      · rw [givenAfter, if_neg hcb, call, LocationAPIData.updateCallbacks, if_neg hcb]
        exact h
  | destroy client => exact h.destroy hposs (hlast client rfl)

end Registered

lemma given_snoc : given (ops ++ [op]) = givenAfter (given ops) op := by
  rw [given, List.foldl_append]
  rfl

/-- Every client that is destroyed in the run has a last callback set that speaks for all. -/
def LastsSpeak (available : Interface → Bool) (ops : List ApiCall) : Prop :=
  ∀ pre client, pre ++ [ApiCall.destroy client] <+: ops → LastSpeaks available (given pre) client

lemma lastsSpeak_nil : LastsSpeak available [] := by
  intro pre client hpre
  simp at hpre

/-- **One more call.** -/
lemma lastsSpeak_concat (ops : List ApiCall) (op : ApiCall) : LastsSpeak available (ops ++ [op]) ↔
    LastsSpeak available ops ∧
      ∀ client, op = .destroy client → LastSpeaks available (given ops) client := by
  constructor
  · intro h
    refine ⟨fun pre client hpre => h pre client (hpre.trans (List.prefix_append _ _)), ?_⟩
    rintro client rfl
    exact h ops client List.prefix_rfl
  · rintro ⟨hops, hop⟩ pre client hpre
    rcases List.prefix_concat_iff.mp hpre with heq | hpre
    · obtain ⟨rfl, hsame⟩ := List.append_inj' heq rfl
      exact hop client (List.singleton_inj.mp hsame).symm
    · exact hops pre client hpre

/-- In a run where the last callback sets speak for all, the calls tell who is registered. -/
lemma registered_of_run (hr : Run (Step available) LocationAPIData.init ops d)
    (h : LastsSpeak available ops) : d.Registered available (given ops) := by
  induction hr with
  | nil => exact .init
  | @snoc t u ops op hr hs ih =>
      obtain ⟨hops, hop⟩ := (lastsSpeak_concat ops op).mp h
      rw [given_snoc]
      exact (ih hops).step hs hop

end LocationAPIData

open LocationAPIData in
/-- **No client dangles exactly when the last callback sets speak for all.**  In every run of calls
of clients that exist, for any libraries that are absent: after each call every interface holds
existing clients only, if and only if every client that is destroyed has a last callback set that
asks for each interface (with a library) that one of its sets has asked for. -/
theorem none_dangles_iff {available : Interface → Bool} {ops : List ApiCall} {d : LocationAPIData}
    (hr : Run (Step available) LocationAPIData.init ops d) :
    (∀ pre t, pre <+: ops → Run (Step available) LocationAPIData.init pre t → t.NoneDangles) ↔
      LastsSpeak available ops := by
  constructor
  · intro h
    induction hr with
    | nil => exact lastsSpeak_nil
    | @snoc t u ops op hr hs ih =>
        have hops := ih fun pre s hpre => h pre s (hpre.trans (List.prefix_append _ _))
        refine (lastsSpeak_concat ops op).mpr ⟨hops, ?_⟩
        rintro client rfl
        have hu := h _ _ List.prefix_rfl (hr.snoc hs)
        obtain ⟨hin, rfl⟩ := hs
        exact (registered_of_run hr hops).lastSpeaks hin hu
  · intro h pre t hpre ht
    exact (registered_of_run ht fun pre' client hpre' => h pre' client (hpre'.trans hpre)).noneDangles

/-- A client that only asks for tracking. -/
def trackingOnly : LocationCallbacks :=
  ⟨true, true, true, true, false, false, false, false, false⟩

/-- A client that only asks for batching. -/
def batchingOnly : LocationCallbacks :=
  ⟨true, true, true, false, true, false, false, false, false⟩

/-- A client that asks for both. -/
def trackingAndBatching : LocationCallbacks := { trackingOnly with batchingCb := true }

namespace LocationAPIData

/-- The calls as a function, for runs on fixed inputs. -/
def next (d : LocationAPIData) (op : ApiCall) : Option (LocationAPIData × ApiCall) :=
  if d.Possible op then some (d.call (fun _ => true) op, op) else none

lemma step_of_next {p : LocationAPIData × ApiCall} {d : LocationAPIData} {op : ApiCall}
    (h : d.next op = some p) : Step (fun _ => true) d p.2 p.1 := by
  rw [next] at h
  split_ifs at h with hp
  cases h
  exact ⟨hp, rfl⟩

end LocationAPIData

open LocationAPIData in
/-- A client that gives up tracking for batching before it is destroyed stays with the GNSS
interface. -/
theorem destroyed_client_dangles : ∃ ops d, Run (Step fun _ => true) LocationAPIData.init ops d ∧
    ¬d.NoneDangles := by
  have hrun : ((execBy next LocationAPIData.init [.createInstance 1 trackingOnly,
      .updateCallbacks 1 batchingOnly, .destroy 1]).map fun p =>
        decide (1 ∈ p.1.clients .gnss ∧ 1 ∉ p.1.clientData)) = some true := by decide +kernel
  obtain ⟨⟨d, ops⟩, hp, hd⟩ := Option.map_eq_some_iff.mp hrun
  have hdangles := of_decide_eq_true hd
  exact ⟨ops, d, Run.of_execBy (fun _ _ _ h => step_of_next h) hp,
    fun hnone => hdangles.2 (hnone _ _ hdangles.1)⟩

open LocationAPIData in
/-- A client that is given batching as well, and is then destroyed, is held by nobody. -/
theorem none_dangles_one : ∃ ops d, Run (Step fun _ => true) LocationAPIData.init ops d ∧
    ops = [.createInstance 1 trackingOnly, .updateCallbacks 1 trackingAndBatching, .destroy 1] ∧
    d.NoneDangles := by
  have hrun : ((execBy next LocationAPIData.init [.createInstance 1 trackingOnly,
      .updateCallbacks 1 trackingAndBatching, .destroy 1]).map fun p =>
        decide (p.2 = [.createInstance 1 trackingOnly, .updateCallbacks 1 trackingAndBatching,
          .destroy 1])) = some true := by decide +kernel
  obtain ⟨⟨d, ops⟩, hp, hd⟩ := Option.map_eq_some_iff.mp hrun
  have hops : ops = [.createInstance 1 trackingOnly, .updateCallbacks 1 trackingAndBatching,
    .destroy 1] := of_decide_eq_true hd
  have hr : Run (Step fun _ => true) LocationAPIData.init ops d :=
    Run.of_execBy (fun _ _ _ h => step_of_next h) hp
  have hlast : LastSpeaks (fun _ => true)
      (given [.createInstance 1 trackingOnly, .updateCallbacks 1 trackingAndBatching]) 1 := by
    intro i _ hex
    refine ⟨trackingAndBatching, by decide +kernel, ?_⟩
    cases i with
    | gnss => decide
    | flp => decide
    | geofence =>
        obtain ⟨cb, hcb, hcl⟩ := hex
        have hno : ∀ cb ∈ given [.createInstance 1 trackingOnly,
            .updateCallbacks 1 trackingAndBatching] 1, isClient .geofence cb = false := by
          decide +kernel
        exact Bool.noConfusion ((hno cb hcb).symm.trans hcl)
  refine ⟨ops, d, hr, hops, (none_dangles_iff hr).mpr ?_ ops d List.prefix_rfl hr⟩
  rw [hops]
  refine (lastsSpeak_concat [_, _] _).mpr ⟨?_, fun client hcl => ?_⟩
  · refine (lastsSpeak_concat [_] _).mpr ⟨?_, fun client hcl => ApiCall.noConfusion hcl⟩
    exact (lastsSpeak_concat [] _).mpr ⟨lastsSpeak_nil, fun client hcl => ApiCall.noConfusion hcl⟩
  · cases hcl
    exact hlast

end Gps.Location
