import OcnDevice.Gps.Location.BiDict

/-!
# Geofences of the location client

A client names its geofences by ids of its own, and `mGeofenceBiDict` keeps the session of the
engine and the breach mask of each.  The calls for several geofences share a loop: the sessions of
the ids that are known are written one behind another into an array, and some calls store a mask for
each on the way (`sessionsOf`).  The engine is given that array.

What comes with the ids in a second array is not moved along.  `locAPIModifyGeofences` passes that
array on as it is, so the options that the engine finds beside the sessions are the first ones,
whoever they were for (`own_options_iff`).
-/

namespace Gps.Location

/-- `GEOFENCE_SESSION_ID`. -/
def geofenceSessionId : ℕ := 0xFFFFFFFF

/-- `GeofenceOption`. -/
structure GeofenceOption where
  breachTypeMask : ℕ
  responsiveness : ℕ
  dwellTime : ℕ
  deriving DecidableEq, Repr

/-- The subclasses of `LocationAPIRequest` for geofences. -/
inductive GeofenceRequest
  | addGeofences
  | removeGeofences
  | modifyGeofences
  | pauseGeofences
  | resumeGeofences
  deriving DecidableEq, Repr

/-- What the engine is asked for: its sessions, and the options beside them.  An added geofence is
written with the id that the client has for it. -/
inductive GeofenceCall
  | addGeofences (items : List (ℕ × ℕ × GeofenceOption))
  | removeGeofences (sessions : List ℕ)
  | modifyGeofences (items : List (ℕ × GeofenceOption))
  | pauseGeofences (sessions : List ℕ)
  | resumeGeofences (sessions : List ℕ)
  deriving DecidableEq, Repr

namespace GeofenceCall

/-- The request that is made for a call. -/
def request : GeofenceCall → GeofenceRequest
  | addGeofences _ => .addGeofences
  | removeGeofences _ => .removeGeofences
  | modifyGeofences _ => .modifyGeofences
  | pauseGeofences _ => .pauseGeofences
  | resumeGeofences _ => .resumeGeofences

/-- The sessions that a call is about. -/
def sessions : GeofenceCall → List ℕ
  | addGeofences items => items.map Prod.fst
  | modifyGeofences items => items.map Prod.fst
  | removeGeofences sessions | pauseGeofences sessions | resumeGeofences sessions => sessions

end GeofenceCall

/-- `LocationAPIClientBase`, as far as it is about geofences. -/
structure GeofenceClient where
  /-- `mLocationAPI != nullptr`. -/
  locationAPI : Bool
  /-- `mGeofenceBreachCallback != nullptr`. -/
  geofenceBreachCallback : Bool
  /-- The session of `mRequestQueues[REQUEST_GEOFENCE]`. -/
  session : ℕ
  /-- What waits in `mRequestQueues[REQUEST_GEOFENCE]`, the front first. -/
  requests : List GeofenceRequest
  /-- `mGeofenceBiDict`. -/
  geofenceBiDict : BiDict ℕ

namespace GeofenceClient

variable (a : GeofenceClient)

/-! ## The calls -/

/-- `locAPIAddGeofences`, with the sessions that the engine returns. -/
def locAPIAddGeofences (items : List (ℕ × GeofenceOption)) (sessions : Option (List ℕ)) :
    GeofenceClient × Option GeofenceCall :=
  if a.locationAPI then
    let a : GeofenceClient :=
      if a.session = geofenceSessionId then a
      else { a with session := geofenceSessionId, requests := [] }
    match sessions with
    | some sessions =>
        ({ a with
            requests := a.requests ++ [.addGeofences]
            geofenceBiDict := (sessions.zip items).foldl
              (fun d p => d.set p.2.1 p.1 p.2.2.breachTypeMask) a.geofenceBiDict },
          some (.addGeofences (sessions.zip items)))
    | none => (a, none)
  else (a, none)

/-- One round of the loop that the other calls share, for an id and the mask that is stored for
it, if the call stores any: the dictionary and the array of the sessions. -/
def collect (p : BiDict ℕ × List ℕ) (item : ℕ × Option ℕ) : BiDict ℕ × List ℕ :=
  let session := p.1.getSession item.1
  if session > 0 then
    (match item.2 with
      | some mask => p.1.set item.1 session mask
      | none => p.1,
      p.2 ++ [session])
  else p

/-- The loop. -/
def sessionsOf (items : List (ℕ × Option ℕ)) (d : BiDict ℕ) : BiDict ℕ × List ℕ :=
  items.foldl collect (d, [])

/-- The API is there and geofences have been added. -/
def ready : Bool := a.locationAPI && a.session = geofenceSessionId

/-- A call for the sessions of known ids. -/
def callFor (items : List (ℕ × Option ℕ)) (call : List ℕ → GeofenceCall) :
    GeofenceClient × Option GeofenceCall :=
  if a.ready then
    let p := sessionsOf items a.geofenceBiDict
    let a : GeofenceClient := { a with geofenceBiDict := p.1 }
    if p.2 = [] then (a, none)
    else ({ a with requests := a.requests ++ [(call p.2).request] }, some (call p.2))
  else (a, none)

/-- `locAPIRemoveGeofences`. -/
def locAPIRemoveGeofences (ids : List ℕ) : GeofenceClient × Option GeofenceCall :=
  a.callFor (ids.map fun id => (id, none)) .removeGeofences

/-- `locAPIModifyGeofences`: the engine is given the array of the options as it is. -/
def locAPIModifyGeofences (items : List (ℕ × GeofenceOption)) :
    GeofenceClient × Option GeofenceCall :=
  a.callFor (items.map fun item => (item.1, some item.2.breachTypeMask))
    fun sessions => .modifyGeofences (sessions.zip (items.map Prod.snd))

/-- `locAPIPauseGeofences`. -/
def locAPIPauseGeofences (ids : List ℕ) : GeofenceClient × Option GeofenceCall :=
  a.callFor (ids.map fun id => (id, none)) .pauseGeofences

/-- `locAPIResumeGeofences`; without an array of masks no mask is stored. -/
def locAPIResumeGeofences (ids : List ℕ) (mask : Option (List ℕ)) :
    GeofenceClient × Option GeofenceCall :=
  a.callFor
    (match mask with
      | some mask => ids.zip (mask.map some)
      | none => ids.map fun id => (id, none))
    .resumeGeofences

/-- The options that the engine is given, each with its session. -/
def modified : Option GeofenceCall → List (ℕ × GeofenceOption)
  | some (.modifyGeofences items) => items
  | _ => []

/-- The sessions that the engine is to resume. -/
def resumed : Option GeofenceCall → List ℕ
  | some (.resumeGeofences sessions) => sessions
  | _ => []

/-- One call of `locAPIModifyGeofences` for each geofence. -/
def modifySingly (items : List (ℕ × GeofenceOption)) :
    GeofenceClient × List (ℕ × GeofenceOption) :=
  items.foldl (fun p item =>
    ((p.1.locAPIModifyGeofences [item]).1,
      p.2 ++ modified (p.1.locAPIModifyGeofences [item]).2)) (a, [])

/-- One call of `locAPIResumeGeofences` for each geofence. -/
def resumeSingly (items : List (ℕ × ℕ)) : GeofenceClient × List ℕ :=
  items.foldl (fun p item =>
    ((p.1.locAPIResumeGeofences [item.1] (some [item.2])).1,
      p.2 ++ resumed (p.1.locAPIResumeGeofences [item.1] (some [item.2])).2)) (a, [])

/-- What is listed for known ids. -/
def known {β : Type*} (items : List (ℕ × β)) : List (ℕ × β) :=
  items.filter fun item => a.geofenceBiDict.getSession item.1 > 0

/-- **Every known geofence is modified with its own option**, as by a call for each of them, and
nothing else is. -/
structure ModifiesOwn (items : List (ℕ × GeofenceOption)) : Prop where
  engine : a.ready = true → modified (a.locAPIModifyGeofences items).2 =
    (a.known items).map fun item => (a.geofenceBiDict.getSession item.1, item.2)
  singly : modified (a.locAPIModifyGeofences items).2 = (a.modifySingly (a.known items)).2
  stored : (a.locAPIModifyGeofences items).1.geofenceBiDict =
    (a.modifySingly (a.known items)).1.geofenceBiDict

/-- Every known geofence is resumed with its own mask, as by a call for each of them. -/
structure ResumesOwn (items : List (ℕ × ℕ)) : Prop where
  engine : a.ready = true →
    resumed (a.locAPIResumeGeofences (items.map Prod.fst) (some (items.map Prod.snd))).2 =
      (a.known items).map fun item => a.geofenceBiDict.getSession item.1
  singly : resumed (a.locAPIResumeGeofences (items.map Prod.fst) (some (items.map Prod.snd))).2 =
    (a.resumeSingly (a.known items)).2
  stored : (a.locAPIResumeGeofences (items.map Prod.fst)
      (some (items.map Prod.snd))).1.geofenceBiDict =
    (a.resumeSingly (a.known items)).1.geofenceBiDict

end GeofenceClient

/-! ## The loop -/

section Loop

variable {d e : BiDict ℕ} {id session mask : ℕ} {items : List (ℕ × Option ℕ)}

/-- Setting an id for the session that it has. -/
lemma BiDict.getSession_set_self (i : ℕ) :
    (d.set id (d.getSession id) mask).getSession i = d.getSession i := by
  simp only [BiDict.getSession, BiDict.set, Std.ExtTreeMap.getElem?_insert, Nat.compare_eq_eq]
  split_ifs with hi
  · rw [hi, Option.getD_some]
  · rfl

namespace GeofenceClient

/-- The mask of an item is stored, if it has one. -/
def store (d e : BiDict ℕ) (item : ℕ × Option ℕ) : BiDict ℕ :=
  match item.2 with
  | some mask => e.set item.1 (d.getSession item.1) mask
  | none => e

lemma getSession_store {item : ℕ × Option ℕ} (he : ∀ i, e.getSession i = d.getSession i) (i : ℕ) :
    (store d e item).getSession i = d.getSession i := by
  obtain ⟨id, mask⟩ := item
  cases mask with
  | none => exact he i
  | some mask => rw [store, ← he id, BiDict.getSession_set_self, he]

lemma collect_of_known {item : ℕ × Option ℕ} {acc : List ℕ}
    (he : ∀ i, e.getSession i = d.getSession i) (h : d.getSession item.1 > 0) :
    collect (e, acc) item = (store d e item, acc ++ [d.getSession item.1]) := by
  obtain ⟨id, mask⟩ := item
  cases mask <;> simp [collect, store, he, h]

lemma collect_of_unknown {item : ℕ × Option ℕ} {acc : List ℕ}
    (he : ∀ i, e.getSession i = d.getSession i) (h : ¬d.getSession item.1 > 0) :
    collect (e, acc) item = (e, acc) := by
  simp only [collect, he, if_neg h]

/-- **What the loop does**: it stores the masks of the known ids and collects their sessions. -/
lemma sessionsOf_eq : sessionsOf items d =
    ((items.filter fun item => d.getSession item.1 > 0).foldl (store d) d,
      (items.filter fun item => d.getSession item.1 > 0).map fun item => d.getSession item.1) := by
  suffices hgo : ∀ (e : BiDict ℕ) (acc : List ℕ), (∀ i, e.getSession i = d.getSession i) →
      items.foldl collect (e, acc) =
        ((items.filter fun item => d.getSession item.1 > 0).foldl (store d) e,
          acc ++ (items.filter fun item => d.getSession item.1 > 0).map
            fun item => d.getSession item.1) by
    simpa [sessionsOf] using hgo d [] fun _ => rfl
  induction items with
  | nil => simp
  | cons item items ih =>
      intro e acc he
      rw [List.foldl_cons]
      by_cases h : d.getSession item.1 > 0
      · rw [collect_of_known he h, ih _ _ (getSession_store he),
          List.filter_cons_of_pos (by simpa using h), List.foldl_cons, List.map_cons,
          List.append_assoc, List.singleton_append]
      · rw [collect_of_unknown he h, ih _ _ he, List.filter_cons_of_neg (by simpa using h)]

end GeofenceClient

end Loop

/-! ## Own options -/

namespace GeofenceClient

section Own

variable {a : GeofenceClient} {β : Type*} {items : List (ℕ × β)} {mask : β → Option ℕ}
  {call : List ℕ → GeofenceCall}

/-- The masks of the known ids are stored. -/
def storeAll (a : GeofenceClient) (mask : β → Option ℕ) (items : List (ℕ × β)) : BiDict ℕ :=
  ((a.known items).map fun item => (item.1, mask item.2)).foldl (store a.geofenceBiDict)
    a.geofenceBiDict

lemma sessionsOf_map : sessionsOf (items.map fun item => (item.1, mask item.2)) a.geofenceBiDict =
    (a.storeAll mask items,
      (a.known items).map fun item => a.geofenceBiDict.getSession item.1) := by
  rw [sessionsOf_eq, List.filter_map, List.map_map]
  rfl

/-- What a call for sessions does. -/
lemma callFor_eq (items : List (ℕ × β)) (mask : β → Option ℕ) (call : List ℕ → GeofenceCall)
    (hr : a.ready = true) :
    (a.callFor (items.map fun item => (item.1, mask item.2)) call).1.geofenceBiDict =
        a.storeAll mask items ∧
      (a.callFor (items.map fun item => (item.1, mask item.2)) call).1.ready = true ∧
      (a.callFor (items.map fun item => (item.1, mask item.2)) call).2 =
        if a.known items = [] then none
        else some (call ((a.known items).map fun item => a.geofenceBiDict.getSession item.1)) := by
  simp only [callFor, hr, if_true, sessionsOf_map, List.map_eq_nil_iff]
  split_ifs with h
  · exact ⟨rfl, hr, rfl⟩
  · exact ⟨rfl, hr, rfl⟩

/-- A call that the engine is given has a request in the queue. -/
lemma callFor_requests (l : List (ℕ × Option ℕ)) (call : List ℕ → GeofenceCall) :
    (a.callFor l call).1.requests =
        a.requests ++ (a.callFor l call).2.toList.map GeofenceCall.request ∧
      (a.callFor l call).1.session = a.session := by
  simp only [callFor]
  split_ifs <;> simp

lemma callFor_of_not_ready (hr : a.ready = false) {l : List (ℕ × Option ℕ)} :
    a.callFor l call = (a, none) := by
  simp [callFor, hr]

/-- The options of known ids stay beside them just if they are the first options. -/
lemma zip_known_iff : ((a.known items).map fun item => a.geofenceBiDict.getSession item.1).zip
      (items.map Prod.snd) =
        (a.known items).map (fun item => (a.geofenceBiDict.getSession item.1, item.2)) ↔
    (a.known items).map Prod.snd = (items.map Prod.snd).take (a.known items).length := by
  have hlen : (a.known items).length ≤ (items.map Prod.snd).length := by
    rw [List.length_map]
    exact List.length_filter_le _ _
  generalize a.known items = ks at hlen ⊢
  generalize items.map Prod.snd = os at hlen ⊢
  induction ks generalizing os with
  | nil => simp
  | cons k ks ih =>
      cases os with
      | nil => simp at hlen
      | cons o os =>
          simp only [List.map_cons, List.zip_cons_cons, List.length_cons, List.take_succ_cons,
            List.cons.injEq, Prod.mk.injEq, true_and, ih os (by simpa using hlen)]
          exact and_congr_left fun _ => eq_comm

lemma store_congr {d d' e : BiDict ℕ} {item : ℕ × Option ℕ}
    (h : d.getSession item.1 = d'.getSession item.1) : store d e item = store d' e item := by
  simp only [store, h]

/-- A call for one known geofence. -/
lemma callFor_single (mask : β → Option ℕ) (call : List ℕ → GeofenceCall) {item : ℕ × β}
    (hr : a.ready = true)
    (hk : a.geofenceBiDict.getSession item.1 > 0) :
    (a.callFor [(item.1, mask item.2)] call).1.geofenceBiDict =
        store a.geofenceBiDict a.geofenceBiDict (item.1, mask item.2) ∧
      (a.callFor [(item.1, mask item.2)] call).1.ready = true ∧
      (a.callFor [(item.1, mask item.2)] call).2 =
        some (call [a.geofenceBiDict.getSession item.1]) := by
  have hknown : a.known [item] = [item] := by simp [known, hk]
  obtain ⟨hdict, hready, hcall⟩ := callFor_eq [item] mask call hr
  rw [hknown] at hcall
  refine ⟨hdict.trans ?_, hready, hcall.trans (by simp)⟩
  simp [storeAll, hknown]

/-- **Call after call**, for known geofences. -/
lemma foldl_single {γ : Type*} (a : GeofenceClient) (ks : List (ℕ × β)) (mask : β → Option ℕ)
    (call : ℕ × β → List ℕ → GeofenceCall) (out : Option GeofenceCall → List γ)
    (own : ℕ → ℕ × β → γ)
    (hout : ∀ session item, out (some (call item [session])) = [own session item])
    (hr : a.ready = true) (hk : ∀ k ∈ ks, a.geofenceBiDict.getSession k.1 > 0) :
    (ks.foldl (fun p item => ((p.1.callFor [(item.1, mask item.2)] (call item)).1,
        p.2 ++ out (p.1.callFor [(item.1, mask item.2)] (call item)).2)) (a, [])).2 =
      ks.map (fun item => own (a.geofenceBiDict.getSession item.1) item) ∧
    (ks.foldl (fun p item => ((p.1.callFor [(item.1, mask item.2)] (call item)).1,
        p.2 ++ out (p.1.callFor [(item.1, mask item.2)] (call item)).2)) (a, [])).1.geofenceBiDict =
      (ks.map fun item => (item.1, mask item.2)).foldl (store a.geofenceBiDict)
        a.geofenceBiDict := by
  -- the dictionary changes from call to call, but not the sessions of its ids
  suffices hgo : ∀ (c : GeofenceClient) (acc : List γ), c.ready = true →
      (∀ i, c.geofenceBiDict.getSession i = a.geofenceBiDict.getSession i) →
      (ks.foldl (fun p item => ((p.1.callFor [(item.1, mask item.2)] (call item)).1,
          p.2 ++ out (p.1.callFor [(item.1, mask item.2)] (call item)).2)) (c, acc)).2 =
        acc ++ ks.map (fun item => own (a.geofenceBiDict.getSession item.1) item) ∧
      (ks.foldl (fun p item => ((p.1.callFor [(item.1, mask item.2)] (call item)).1,
          p.2 ++ out (p.1.callFor [(item.1, mask item.2)] (call item)).2))
          (c, acc)).1.geofenceBiDict =
        (ks.map fun item => (item.1, mask item.2)).foldl (store a.geofenceBiDict)
          c.geofenceBiDict by
    simpa using hgo a [] hr fun _ => rfl
  induction ks with
  | nil => intro c acc _ _; simp
  | cons k ks ih =>
      intro c acc hc hsame
      have hkc : c.geofenceBiDict.getSession k.1 > 0 := hsame k.1 ▸ hk k List.mem_cons_self
      obtain ⟨hdict, hready, hcall⟩ := callFor_single mask (call k) hc hkc
      have hstore : store c.geofenceBiDict c.geofenceBiDict (k.1, mask k.2) =
          store a.geofenceBiDict c.geofenceBiDict (k.1, mask k.2) := store_congr (hsame k.1)
      have hgo := ih (fun k hk' => hk k (List.mem_cons_of_mem _ hk'))
        (c.callFor [(k.1, mask k.2)] (call k)).1
        (acc ++ out (c.callFor [(k.1, mask k.2)] (call k)).2) hready
        (by rw [hdict, hstore]; exact getSession_store hsame)
      rw [List.foldl_cons, List.map_cons, List.map_cons, List.foldl_cons, hgo.1, hgo.2, hcall,
        hout, hsame, hdict, hstore]
      simp

lemma getSession_of_known {k : ℕ × β} (h : k ∈ a.known items) :
    a.geofenceBiDict.getSession k.1 > 0 := by
  simpa using (List.mem_filter.mp h).2

end Own

section Calls

variable {a : GeofenceClient}

lemma modifySingly_eq {items : List (ℕ × GeofenceOption)} (hr : a.ready = true) :
    (a.modifySingly (a.known items)).2 =
        (a.known items).map (fun item => (a.geofenceBiDict.getSession item.1, item.2)) ∧
      (a.modifySingly (a.known items)).1.geofenceBiDict =
        a.storeAll (fun o => some o.breachTypeMask) items := by
  exact foldl_single a (a.known items) (fun o => some o.breachTypeMask)
    (fun item sessions => .modifyGeofences (sessions.zip [item.2])) modified
    (fun session item => (session, item.2)) (fun _ _ => rfl) hr fun _ => getSession_of_known

lemma resumeSingly_eq {items : List (ℕ × ℕ)} (hr : a.ready = true) :
    (a.resumeSingly (a.known items)).2 =
        (a.known items).map (fun item => a.geofenceBiDict.getSession item.1) ∧
      (a.resumeSingly (a.known items)).1.geofenceBiDict = a.storeAll some items := by
  simp only [resumeSingly, locAPIResumeGeofences, List.map_cons, List.map_nil,
    List.zip_cons_cons, List.zip_nil_left]
  exact foldl_single a (a.known items) some (fun _ sessions => .resumeGeofences sessions) resumed
    (fun session _ => session) (fun _ _ => rfl) hr fun _ => getSession_of_known

/-- When the call does nothing, neither do the calls one by one. -/
lemma foldl_idle {α γ : Type*} (f : GeofenceClient → α → GeofenceClient × Option GeofenceCall)
    (out : Option GeofenceCall → List γ) (hf : ∀ x, f a x = (a, none)) (hout : out none = [])
    (l : List α) :
    l.foldl (fun p x => ((f p.1 x).1, p.2 ++ out (f p.1 x).2)) (a, []) = (a, []) := by
  induction l with
  | nil => rfl
  | cons x l ih => simpa [hf, hout] using ih

lemma modifySingly_of_not_ready {items : List (ℕ × GeofenceOption)} (hr : a.ready = false) :
    a.modifySingly items = (a, []) :=
  foldl_idle (fun c item => c.locAPIModifyGeofences [item]) modified
    (fun _ => callFor_of_not_ready hr) rfl items

lemma resumeSingly_of_not_ready {items : List (ℕ × ℕ)} (hr : a.ready = false) :
    a.resumeSingly items = (a, []) :=
  foldl_idle (fun (c : GeofenceClient) (item : ℕ × ℕ) =>
    c.locAPIResumeGeofences [item.1] (some [item.2])) resumed
    (fun _ => callFor_of_not_ready hr) rfl items

/-- What the engine is given, and what is stored. -/
lemma modify_eq {items : List (ℕ × GeofenceOption)} (hr : a.ready = true) :
    modified (a.locAPIModifyGeofences items).2 =
        ((a.known items).map fun item => a.geofenceBiDict.getSession item.1).zip
          (items.map Prod.snd) ∧
      (a.locAPIModifyGeofences items).1.geofenceBiDict =
        a.storeAll (fun o => some o.breachTypeMask) items := by
  obtain ⟨hdict, -, hcall⟩ := callFor_eq items (fun o => some o.breachTypeMask)
    (fun sessions => .modifyGeofences (sessions.zip (items.map Prod.snd))) hr
  refine ⟨?_, hdict⟩
  rw [locAPIModifyGeofences, hcall]
  split_ifs with hnil
  · simp [hnil, modified]
  · rfl

lemma resumesOwn (items : List (ℕ × ℕ)) : a.ResumesOwn items := by
  have hitems : (items.map Prod.fst).zip ((items.map Prod.snd).map some) =
      items.map fun item => (item.1, some item.2) := by
    induction items with
    | nil => rfl
    | cons item items ih => simpa using ih
  cases hr : a.ready with
  | true =>
      obtain ⟨hdict, -, hcall⟩ := callFor_eq items some .resumeGeofences hr
      have hengine : resumed (a.locAPIResumeGeofences (items.map Prod.fst)
          (some (items.map Prod.snd))).2 =
            (a.known items).map fun item => a.geofenceBiDict.getSession item.1 := by
        simp only [locAPIResumeGeofences, hitems, hcall]
        split_ifs with hnil
        · simp [hnil, resumed]
        · rfl
      refine ⟨fun _ => hengine, hengine.trans (resumeSingly_eq hr).1.symm, ?_⟩
      simp only [locAPIResumeGeofences, hitems, hdict, (resumeSingly_eq hr).2]
  | false =>
      have hcall : a.locAPIResumeGeofences (items.map Prod.fst) (some (items.map Prod.snd)) =
          (a, none) := callFor_of_not_ready hr
      refine ⟨fun h => ?_, ?_, ?_⟩
      · rw [hr] at h
        cases h
      · rw [hcall, resumeSingly_of_not_ready hr]
        rfl
      · rw [hcall, resumeSingly_of_not_ready hr]

end Calls

end GeofenceClient

open GeofenceClient in
/-- **Every known geofence gets its own option just if the options of the known ones come first.**
For every client and list of ids and options, with unknown ids among them: the call modifies the
known geofences each with the option at its own position, as the calls one by one do, if and only
if the options of the known ids are the first ones of the array, in this order.  A mask that a
geofence is resumed with is always its own. -/
theorem own_options_iff (a : GeofenceClient) (items : List (ℕ × GeofenceOption))
    (masks : List (ℕ × ℕ)) :
    (a.ModifiesOwn items ↔ (a.ready = true →
      (a.known items).map Prod.snd = (items.map Prod.snd).take (a.known items).length)) ∧
      a.ResumesOwn masks := by
  refine ⟨?_, resumesOwn masks⟩
  cases hr : a.ready with
  | true =>
      have hengine : modified (a.locAPIModifyGeofences items).2 =
          (a.known items).map (fun item => (a.geofenceBiDict.getSession item.1, item.2)) ↔
            (a.known items).map Prod.snd =
              (items.map Prod.snd).take (a.known items).length := by
        rw [(modify_eq hr).1, zip_known_iff]
      constructor
      · exact fun h _ => hengine.mp (h.engine hr)
      · intro h
        have heq := hengine.mpr (h rfl)
        exact ⟨fun _ => heq, heq.trans (modifySingly_eq hr).1.symm,
          (modify_eq hr).2.trans (modifySingly_eq hr).2.symm⟩
  | false =>
      have hcall : a.locAPIModifyGeofences items = (a, none) := callFor_of_not_ready hr
      refine iff_of_true ⟨fun h => ?_, ?_, ?_⟩ fun h => Bool.noConfusion h
      · rw [hr] at h
        cases h
      · rw [hcall, modifySingly_of_not_ready hr]
        rfl
      · rw [hcall, modifySingly_of_not_ready hr]

open GeofenceClient in
/-- A client with geofence 2 alone: with an unknown geofence in front of it in the list, it is
modified with the option of the other one. -/
theorem unknown_id_shifts_options : ∃ (a : GeofenceClient) (o o' : GeofenceOption),
    a.ready = true ∧ o ≠ o' ∧ a.geofenceBiDict.getSession 2 = 7 ∧
      modified (a.locAPIModifyGeofences [(1, o), (2, o')]).2 = [(7, o)] ∧
      ¬a.ModifiesOwn [(1, o), (2, o')] := by
  refine ⟨⟨true, true, geofenceSessionId, [], BiDict.empty.set 2 7 1⟩, ⟨1, 0, 0⟩, ⟨2, 0, 0⟩,
    by decide, by decide, by decide +kernel, by decide +kernel, fun h => ?_⟩
  exact absurd (h.engine (by decide)) (by decide +kernel)

end Gps.Location
