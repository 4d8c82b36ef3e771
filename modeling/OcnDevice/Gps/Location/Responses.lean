import OcnDevice.Gps.Location.Client

/-!
# Responses reach their own request

**Sessions.**  Ids and sessions of the dictionary go together (`Sessions`), apart from session zero,
which stands for modes that no session can be started in.

**What waits.**  The queues hold the requests of the engine calls that have not been answered:
`trackingQueue` those of its own session, `sessionQueue` those of all others, in the order of the
calls (`Inv`).  `Inv.issue` is what every call of a client session comes down to, `Inv.deliver` what a
response does.

**What goes wrong.**  The code pops the front of `sessionQueue` for whichever session a response
names, and drops what waits when the tracking session is started anew or a session changes between
tracking and batching.  `Careful` says which inputs do not get there.
-/

namespace Gps.Location

/-! ## The sessions of the dictionary -/

/-- The session that an entity is for. -/
def SessionEntity.session (e : SessionEntity) : ℕ :=
  if e.sessionMode.batches then e.batchingSession else e.trackingSession

/-- The entity of a session: a batching session has no tracking session beside it. -/
structure SessionEntity.Of (e : SessionEntity) (session : ℕ) : Prop where
  session_eq : e.session = session
  single : e.sessionMode.batches = true → e.trackingSession = 0

namespace BiDict

variable {d : BiDict SessionEntity} {id session s : ℕ} {e : SessionEntity}

/-- Ids and sessions other than zero go together. -/
structure Sessions (d : BiDict SessionEntity) : Prop where
  forward : ∀ id s : ℕ, d.forwardMap[id]? = some s → s ≠ 0 →
    d.backwardMap[s]? = some id ∧ ∃ e, d.extMap[s]? = some e ∧ e.Of s
  backward : ∀ id s : ℕ, d.backwardMap[s]? = some id → s ≠ 0 → d.forwardMap[id]? = some s

lemma Sessions.empty : (BiDict.empty : BiDict SessionEntity).Sessions where
  forward := by
    intro id s h
    simp [BiDict.empty] at h
  backward := by
    intro id s h
    simp [BiDict.empty] at h

/-- The entity of a known id is that of its session, and looking it up changes nothing. -/
lemma Sessions.getExtById (h : d.Sessions) (hid : d.hasId id = true) :
    (d.getExtById id).2 = d ∧ ∃ s, d.forwardMap[id]? = some s ∧ (d.getExtById id).1.Of s ∧
      (s = 0 → (d.getExtById id).1 = 0) := by
  obtain ⟨s, hs⟩ := mem_iff_exists.mp hid
  obtain ⟨hsame, hget⟩ := insertIfNew_of_some (z := 0) hs
  simp only [BiDict.getExtById, hsame, hget]
  refine ⟨trivial, s, hs, ?_, fun h0 => by simp [h0]⟩
  split_ifs with hpos
  · obtain ⟨-, e, he, hof⟩ := h.forward id s hs (by omega)
    rwa [he]
  · obtain rfl : s = 0 := by omega
    exact ⟨rfl, fun _ => rfl⟩

/-- The entity of an unknown id is empty. -/
lemma getExtById_of_unknown (hid : d.hasId id = false) : (d.getExtById id).1 = 0 := by
  simp only [BiDict.getExtById, (insertIfNew_of_none (eq_none_of_not_contains hid)).2, lt_irrefl,
    if_false]

/-- Setting an id that is not there, for a session that is not there. -/
lemma Sessions.set (h : d.Sessions) (hid : d.forwardMap[id]? = none) (he : e.Of session)
    (hnew : session = 0 ∨ d.hasSession session = false) : (d.set id session e).Sessions := by
  have hfree : session ≠ 0 → d.backwardMap[session]? = none :=
    fun h0 => eq_none_of_not_contains (hnew.resolve_left h0)
  constructor
  · intro id' s hs h0
    simp only [BiDict.set, Std.ExtTreeMap.getElem?_insert, Nat.compare_eq_eq] at hs ⊢
    by_cases hii : id = id'
    · subst hii
      rw [if_pos rfl] at hs
      cases hs
      simp [he]
    · rw [if_neg hii] at hs
      obtain ⟨hb, e', he', hof⟩ := h.forward id' s hs h0
      have hss : session ≠ s := by
        rintro rfl
        rw [hfree h0] at hb
        cases hb
      rw [if_neg hss, if_neg hss]
      exact ⟨hb, e', he', hof⟩
  · intro id' s hb h0
    simp only [BiDict.set, Std.ExtTreeMap.getElem?_insert, Nat.compare_eq_eq] at hb ⊢
    by_cases hss : session = s
    · subst hss
      rw [if_pos rfl] at hb
      cases hb
      rw [if_pos rfl]
    · rw [if_neg hss] at hb
      have hf := h.backward id' s hb h0
      have hii : id ≠ id' := by
        rintro rfl
        rw [hid] at hf
        cases hf
      rwa [if_neg hii]

/-- Erasing an id with its session. -/
lemma Sessions.erase (h : d.Sessions) (hid : d.forwardMap[id]? = some session)
    (hback : session ≠ 0 → d.backwardMap[session]? = some id) :
    (⟨d.forwardMap.erase id, d.backwardMap.erase session, d.extMap.erase session⟩ :
      BiDict SessionEntity).Sessions := by
  constructor
  · intro id' s hs h0
    simp only [Std.ExtTreeMap.getElem?_erase, Nat.compare_eq_eq] at hs ⊢
    by_cases hii : id = id'
    · rw [if_pos hii] at hs
      cases hs
    · rw [if_neg hii] at hs
      obtain ⟨hb, e', he', hof⟩ := h.forward id' s hs h0
      have hss : session ≠ s := by
        rintro rfl
        exact hii (Option.some.inj ((hback h0).symm.trans hb))
      rw [if_neg hss, if_neg hss]
      exact ⟨hb, e', he', hof⟩
  · intro id' s hb h0
    simp only [Std.ExtTreeMap.getElem?_erase, Nat.compare_eq_eq] at hb ⊢
    by_cases hss : session = s
    · rw [if_pos hss] at hb
      cases hb
    · rw [if_neg hss] at hb
      have hf := h.backward id' s hb h0
      have hii : id ≠ id' := by
        rintro rfl
        exact hss (Option.some.inj (hid.symm.trans hf))
      rwa [if_neg hii]

lemma Sessions.rmById (h : d.Sessions) (hid : d.forwardMap[id]? = some session) :
    (d.rmById id).Sessions ∧ (d.rmById id).forwardMap[id]? = none := by
  rw [rmById_of_some hid]
  refine ⟨h.erase hid fun h0 => (h.forward id session hid h0).1, ?_⟩
  simp

lemma Sessions.rmBySession (h : d.Sessions) (hs : d.hasSession session = true) (h0 : session ≠ 0) :
    (d.rmBySession session).Sessions := by
  obtain ⟨id, hb⟩ := mem_iff_exists.mp hs
  rw [rmBySession_of_some hb]
  exact h.erase (h.backward id session hb h0) fun _ => hb

lemma compare_beq_eq : (compare session s == .eq) = decide (session = s) := by
  rw [Bool.eq_iff_iff, beq_iff_eq, Nat.compare_eq_eq, decide_eq_true_eq]

lemma hasSession_set : (d.set id session e).hasSession s = (session = s || d.hasSession s) := by
  rw [BiDict.set, hasSession, Std.ExtTreeMap.contains_insert, compare_beq_eq]
  rfl

lemma hasSession_rmById (hid : d.forwardMap[id]? = some session) :
    (d.rmById id).hasSession s = (!decide (session = s) && d.hasSession s) := by
  rw [rmById_of_some hid]
  rw [hasSession, Std.ExtTreeMap.contains_erase, bne, compare_beq_eq]
  rfl

lemma hasSession_rmBySession (hs : d.hasSession session = true) :
    (d.rmBySession session).hasSession s = (!decide (session = s) && d.hasSession s) := by
  obtain ⟨id, hb⟩ := mem_iff_exists.mp hs
  rw [rmBySession_of_some hb]
  rw [hasSession, Std.ExtTreeMap.contains_erase, bne, compare_beq_eq]
  rfl

end BiDict

/-! ## What is claimed of a response -/

/-- The call was made for a request that removes its session. -/
def EngineCall.stops (c : EngineCall) : Bool := c.request.any LocationAPIRequest.stops

/-- A response reached the request of the call that it answers, and took away the session of that
call, and no other, if the session has been stopped. -/
structure Delivery.Right (r : Delivery) : Prop where
  request_eq : r.request = r.call.request
  removed : ∀ s, r.after.hasSession s = true ↔
    r.before.hasSession s = true ∧
      ¬(s = r.call.session ∧ r.call.stops = true ∧ r.error = .success)

namespace LocationAPIClientBase

variable {a a' : LocationAPIClientBase}

/-- The requests that wait for a response. -/
def waiting (a : LocationAPIClientBase) : List LocationAPIRequest :=
  a.trackingQueue.requests ++ a.sessionQueue.requests ++ a.niResponseQueue.requests

/-- Responses and requests match: every request issued waits or has been answered once, those that
wait are those of the calls that the engine has not answered, and every response was right. -/
structure Matched (a : LocationAPIClientBase) : Prop where
  once : ((a.deliveries.filterMap Delivery.request ++ a.waiting).map LocationAPIRequest.number).Perm
    (List.range a.issued)
  awaited : a.waiting.Perm (a.unanswered.filterMap EngineCall.request)
  right : ∀ r ∈ a.deliveries, r.Right

/-! ## The condition on the inputs -/

/-- All calls for a session have been answered. -/
def Answered (a : LocationAPIClientBase) (session : ℕ) : Prop :=
  ∀ c ∈ a.unanswered, c.session ≠ session

/-- A session that is in no use. -/
structure Unused (a : LocationAPIClientBase) (session : ℕ) : Prop where
  pos : 0 < session
  tracking : a.trackingQueue.session ≠ session
  bound : a.sessionBiDict.hasSession session = false
  answered : a.Answered session

/-- An update of a session: it can be updated, and if it changes between tracking and batching then
its calls have been answered, and the engine gives it an unused session. -/
def CarefulUpdate (a : LocationAPIClientBase) (sessionMode : SessionMode) (given : ℕ)
    (entity : SessionEntity) : Prop :=
  (sessionMode.known = true → entity.sessionMode.known = true) ∧
    (sessionMode.batches ≠ entity.sessionMode.batches →
      a.Answered entity.session ∧ (sessionMode.known = true → a.Unused given))

/-- The next call made for a request of a client session. -/
def nextInTurn (a : LocationAPIClientBase) : Option EngineCall :=
  a.unanswered.find? fun c => c.session ≠ a.trackingQueue.session ∧ c.request.isSome = true

/-- A response to a call for a client session answers the oldest request of all these sessions, and
if the session is gone with it, nothing else is expected for it. -/
def InTurn (a : LocationAPIClientBase) (c : EngineCall) (error : LocationError) : Prop :=
  c.session ≠ a.trackingQueue.session →
    (c.request.isSome = true → a.nextInTurn = some c) ∧
    (c.stops = true → error = .success →
      ∀ x ∈ a.unanswered.eraseP (fun x => x.session = c.session), x.session ≠ c.session)

/-- The condition on an input. -/
def Careful (a : LocationAPIClientBase) : Input → Prop
  | .startTracking given => a.locationAPI = true → a.tracking = false →
      a.Answered a.trackingQueue.session ∧ a.Unused given
  | .startSession id sessionMode given => a.locationAPI = true →
      a.sessionBiDict.hasId id = false → sessionMode.known = true → a.Unused given
  | .updateSessionOptions id sessionMode given => a.locationAPI = true →
      a.sessionBiDict.hasId id = true →
        a.CarefulUpdate sessionMode given (a.sessionBiDict.getExtById id).1
  | .getBatchedLocations id => a.locationAPI = true → a.sessionQueue.session > 0 →
      (a.sessionBiDict.getExtById id).1.sessionMode.batches = true
  | .response session error => ∀ c, a.answered session = some c → a.InTurn c error
  | _ => True

/-- A step on an input that meets the condition. -/
def CarefulStep (a : LocationAPIClientBase) (i : Input) (a' : LocationAPIClientBase) : Prop :=
  Step a i a' ∧ a.Careful i

/-! ## The invariant -/

/-- The requests of the calls in a list that satisfy a predicate. -/
def requestsOf (p : EngineCall → Bool) (l : List EngineCall) : List LocationAPIRequest :=
  (l.filter p).filterMap EngineCall.request

/-- The queues hold what is expected. -/
structure Inv (a : LocationAPIClientBase) : Prop where
  trackingQueue : a.trackingQueue.requests =
    requestsOf (fun c => c.session = a.trackingQueue.session) a.unanswered
  sessionQueue : a.sessionQueue.requests =
    requestsOf (fun c => c.session ≠ a.trackingQueue.session) a.unanswered
  niResponseQueue : a.niResponseQueue.requests = []
  /-- The calls for the tracking session all have a request. -/
  asked : ∀ c ∈ a.unanswered, c.session = a.trackingQueue.session → c.request.isSome = true
  /-- Of the others, those with a request are those whose session is known. -/
  bound : ∀ c ∈ a.unanswered, c.session ≠ a.trackingQueue.session →
    c.request.isSome = a.sessionBiDict.hasSession c.session
  pos : ∀ c ∈ a.unanswered, 0 < c.session
  sessions : a.sessionBiDict.Sessions
  apart : 0 < a.trackingQueue.session → a.sessionBiDict.hasSession a.trackingQueue.session = false
  once : ((a.deliveries.filterMap Delivery.request ++ a.waiting).map LocationAPIRequest.number).Perm
    (List.range a.issued)
  right : ∀ r ∈ a.deliveries, r.Right

lemma Inv.init : init.Inv where
  trackingQueue := rfl
  sessionQueue := rfl
  niResponseQueue := rfl
  asked := by
    intro c hc
    cases hc
  bound := by
    intro c hc
    cases hc
  pos := by
    intro c hc
    cases hc
  sessions := .empty
  apart := by
    intro h
    exact absurd h (lt_irrefl 0)
  once := .nil
  right := by
    intro r hr
    cases hr

lemma Inv.matched (h : a.Inv) : a.Matched where
  once := h.once
  right := h.right
  awaited := by
    have hsplit := (List.filter_append_perm
      (fun c : EngineCall => decide (c.session = a.trackingQueue.session)) a.unanswered).filterMap
        EngineCall.request
    rw [List.filterMap_append] at hsplit
    rw [waiting, h.niResponseQueue, List.append_nil, h.trackingQueue, h.sessionQueue]
    simpa [requestsOf] using hsplit

/-! ## A call -/

/-- Numbers that are given out in order. -/
lemma once_append {l rs : List LocationAPIRequest} {n : ℕ}
    (h : (l.map LocationAPIRequest.number).Perm (List.range n))
    (hrs : rs.map LocationAPIRequest.number = List.range' n rs.length) :
    ((l ++ rs).map LocationAPIRequest.number).Perm (List.range (n + rs.length)) := by
  rw [List.map_append, hrs, List.range_eq_range', ← List.range'_append_1, Nat.zero_add,
    ← List.range_eq_range']
  exact h.append_right _

/-- **Calls for client sessions**: engine calls `cs` are made, their requests are queued, and the
sessions change so that those with a request, and no others, are known. -/
lemma Inv.issue (h : a.Inv) (cs : List EngineCall) (rs : List LocationAPIRequest) {session : ℕ}
    {d : BiDict SessionEntity} (hrs : cs.filterMap EngineCall.request = rs)
    (hnum : rs.map LocationAPIRequest.number = List.range' a.issued rs.length)
    (hcs : ∀ c ∈ cs, 0 < c.session ∧ c.session ≠ a.trackingQueue.session ∧
      c.request.isSome = d.hasSession c.session)
    (hd : d.Sessions) (hold : ∀ c ∈ a.unanswered, c.session ≠ a.trackingQueue.session →
      d.hasSession c.session = a.sessionBiDict.hasSession c.session)
    (htag : 0 < a.trackingQueue.session → d.hasSession a.trackingQueue.session = false) :
    ({ a with
        sessionQueue := ⟨session, a.sessionQueue.requests ++ rs⟩
        issued := a.issued + rs.length
        unanswered := a.unanswered ++ cs
        sessionBiDict := d } : LocationAPIClientBase).Inv where
  trackingQueue := by
    have hnone : cs.filter (fun c => decide (c.session = a.trackingQueue.session)) = [] := by
      rw [List.filter_eq_nil_iff]
      intro c hc
      simpa using (hcs c hc).2.1
    simp only [requestsOf, List.filter_append, hnone, List.append_nil]
    exact h.trackingQueue
  sessionQueue := by
    have hall : cs.filter (fun c => decide (c.session ≠ a.trackingQueue.session)) = cs := by
      rw [List.filter_eq_self]
      intro c hc
      simpa using (hcs c hc).2.1
    simp only [requestsOf, List.filter_append, hall, List.filterMap_append, hrs]
    exact congrArg (· ++ rs) h.sessionQueue
  niResponseQueue := h.niResponseQueue
  asked := by
    intro c hc htrack
    rcases List.mem_append.mp hc with hc | hc
    · exact h.asked c hc htrack
    · exact absurd htrack (hcs c hc).2.1
  bound := by
    intro c hc hne
    rcases List.mem_append.mp hc with hc | hc
    · exact (h.bound c hc hne).trans (hold c hc hne).symm
    · exact (hcs c hc).2.2
  pos := by
    intro c hc
    rcases List.mem_append.mp hc with hc | hc
    · exact h.pos c hc
    · exact (hcs c hc).1
  sessions := hd
  apart := htag
  once := by
    have hnew := once_append h.once hnum
    simp only [waiting, h.niResponseQueue, List.append_nil] at hnew ⊢
    simpa only [List.append_assoc] using hnew
  right := h.right

/-- A call for the tracking session. -/
lemma Inv.track (h : a.Inv) (hpos : 0 < a.trackingQueue.session) (kind : RequestKind)
    (tracking : Bool) :
    ({ a with
        tracking := tracking
        trackingQueue := a.trackingQueue.push (a.newRequest kind)
        issued := a.issued + 1
        unanswered := a.unanswered ++ [⟨a.trackingQueue.session, some (a.newRequest kind)⟩] } :
      LocationAPIClientBase).Inv where
  trackingQueue := by
    simp only [requestsOf, RequestQueue.push, List.filter_append, List.filterMap_append]
    refine congrArg₂ (· ++ ·) h.trackingQueue ?_
    simp
  sessionQueue := by
    have hnone : ([⟨a.trackingQueue.session, some (a.newRequest kind)⟩] : List EngineCall).filter
        (fun c => decide (c.session ≠ a.trackingQueue.session)) = [] := by simp
    change a.sessionQueue.requests = ((a.unanswered ++ [_]).filter fun c : EngineCall =>
      decide (c.session ≠ a.trackingQueue.session)).filterMap _
    rw [List.filter_append, hnone, List.append_nil]
    exact h.sessionQueue
  niResponseQueue := h.niResponseQueue
  asked := by
    intro c hc htrack
    rcases List.mem_append.mp hc with hc | hc
    · exact h.asked c hc htrack
    · rw [List.mem_singleton.mp hc]
      rfl
  bound := by
    intro c hc hne
    rcases List.mem_append.mp hc with hc | hc
    · exact h.bound c hc hne
    · rw [List.mem_singleton.mp hc] at hne
      exact absurd rfl hne
  pos := by
    intro c hc
    rcases List.mem_append.mp hc with hc | hc
    · exact h.pos c hc
    · rw [List.mem_singleton.mp hc]
      exact hpos
  sessions := h.sessions
  apart := h.apart
  once := by
    have hnew := once_append h.once (Eq.refl ([a.newRequest kind].map LocationAPIRequest.number))
    refine List.Perm.trans (List.Perm.map _ ?_) hnew
    simp only [waiting, RequestQueue.push, List.append_assoc]
    refine List.Perm.append_left _ (List.Perm.append_left _ ?_)
    rw [← List.append_assoc a.sessionQueue.requests]
    exact List.perm_append_comm
  right := h.right

/-- The queue of the tracking session is reset when nothing waits in it. -/
lemma Inv.reset (h : a.Inv) {given : ℕ} (hold : a.Answered a.trackingQueue.session)
    (hnew : a.Unused given) :
    ({ a with trackingQueue := a.trackingQueue.reset given } : LocationAPIClientBase).Inv where
  trackingQueue := by
    have hnone : a.unanswered.filter (fun c => decide (c.session = given)) = [] := by
      rw [List.filter_eq_nil_iff]
      intro c hc
      simpa using hnew.answered c hc
    change [] = (a.unanswered.filter fun c => decide (c.session = given)).filterMap _
    rw [hnone, List.filterMap_nil]
  sessionQueue := by
    refine h.sessionQueue.trans (congrArg (List.filterMap _) (List.filter_congr ?_))
    intro c hc
    simp [hold c hc, hnew.answered c hc, RequestQueue.reset]
  niResponseQueue := h.niResponseQueue
  asked := fun c hc htrack => absurd htrack (hnew.answered c hc)
  bound := fun c hc _ => h.bound c hc (hold c hc)
  pos := h.pos
  sessions := h.sessions
  apart := fun _ => hnew.bound
  once := by
    have hempty : a.trackingQueue.requests = [] := by
      rw [h.trackingQueue, requestsOf, List.filterMap_eq_nil_iff]
      intro c hc
      rw [List.mem_filter, decide_eq_true_eq] at hc
      exact absurd hc.2 (hold c hc.1)
    have honce := h.once
    rw [waiting, hempty] at honce
    exact honce
  right := h.right

/-- What is known of a known id. -/
lemma Inv.known (h : a.Inv) {id : ℕ} (hid : a.sessionBiDict.hasId id = true) :
    (a.sessionBiDict.getExtById id).2 = a.sessionBiDict ∧
      ∃ s, a.sessionBiDict.forwardMap[id]? = some s ∧ (a.sessionBiDict.getExtById id).1.Of s ∧
        ((a.sessionBiDict.getExtById id).1.sessionMode.known = true → 0 < s) ∧
        (0 < s → a.sessionBiDict.hasSession s = true ∧ s ≠ a.trackingQueue.session) := by
  obtain ⟨hsame, s, hs, hof, hzero⟩ := h.sessions.getExtById hid
  refine ⟨hsame, s, hs, hof, fun hk => Nat.pos_of_ne_zero fun h0 => ?_, fun hpos => ?_⟩
  · rw [hzero h0] at hk
    cases hk
  · have hb := (h.sessions.forward id s hs hpos.ne').1
    have hin : a.sessionBiDict.hasSession s = true := mem_iff_exists.mpr ⟨id, hb⟩
    refine ⟨hin, ?_⟩
    rintro rfl
    exact Bool.noConfusion ((h.apart hpos).symm.trans hin)

/-- A call for the session of a known id. -/
lemma Inv.callKnown (h : a.Inv) {s : ℕ} (hpos : 0 < s)
    (hs : a.sessionBiDict.hasSession s = true ∧ s ≠ a.trackingQueue.session) (kind : RequestKind) :
    ((a.pushSession kind).engine s (some (a.newRequest kind))).Inv := by
  refine h.issue [⟨s, some (a.newRequest kind)⟩] [a.newRequest kind] rfl rfl ?_ h.sessions (fun _ _ _ => rfl)
    h.apart
  intro c hc
  rw [List.mem_singleton.mp hc]
  exact ⟨hpos, hs.2, hs.1.symm⟩

lemma Inv.stopSession (h : a.Inv) (id : ℕ) : (a.locAPIStopSession id).2.Inv := by
  rw [locAPIStopSession]
  split_ifs with hapi hid
  · obtain ⟨hsame, s, -, hof, hknown, hin⟩ := h.known hid
    generalize a.sessionBiDict.getExtById id = r at hsame hof hknown
    obtain ⟨e, d⟩ := r
    dsimp only at hsame hof hknown ⊢
    subst hsame
    have heq := hof.session_eq
    rw [SessionEntity.session] at heq
    split_ifs with hfix hb
    · have hpos := hknown (by rw [SessionMode.known, hfix]; rfl)
      rw [hfix, if_neg (by decide)] at heq
      rw [heq]
      exact h.callKnown hpos (hin hpos) _
    · have hpos := hknown (by rw [SessionMode.known, hb, Bool.or_true])
      rw [if_pos hb] at heq
      rw [heq]
      exact h.callKnown hpos (hin hpos) _
    · exact h
  · exact h
  · exact h

lemma Inv.getBatchedLocations (h : a.Inv) {id : ℕ} (hc : a.Careful (.getBatchedLocations id)) :
    (a.locAPIGetBatchedLocations id).Inv := by
  rw [locAPIGetBatchedLocations]
  split_ifs with hapi hq
  · have hb := hc hapi hq
    have hid : a.sessionBiDict.hasId id = true := by
      by_contra hno
      rw [BiDict.getExtById_of_unknown (Bool.eq_false_iff.mpr hno)] at hb
      cases hb
    obtain ⟨hsame, s, -, hof, hknown, hin⟩ := h.known hid
    generalize a.sessionBiDict.getExtById id = r at hsame hof hknown hb
    obtain ⟨e, d⟩ := r
    dsimp only at hsame hof hknown hb ⊢
    subst hsame
    have heq := hof.session_eq
    rw [SessionEntity.session, if_pos hb] at heq
    have hpos := hknown (by rw [SessionMode.known, hb, Bool.or_true])
    rw [heq]
    exact h.callKnown hpos (hin hpos) _
  · exact h
  · exact h

/-- The dictionary after an id, bound before to `old` if anything, has been set. -/
def rebound (a : LocationAPIClientBase) (id session : ℕ) (old : Option ℕ) (e : SessionEntity) :
    BiDict SessionEntity :=
  (if old = none then a.sessionBiDict else a.sessionBiDict.rmById id).set id session e

lemma hasSession_rebound {id session s : ℕ} {old : Option ℕ} {e : SessionEntity}
    (hold : a.sessionBiDict.forwardMap[id]? = old) :
    (a.rebound id session old e).hasSession s =
      (session = s || (old ≠ some s && a.sessionBiDict.hasSession s)) := by
  rw [rebound, BiDict.hasSession_set]
  cases old with
  | none => simp
  | some s' =>
      rw [if_neg (Option.some_ne_none s'), BiDict.hasSession_rmById hold]
      simp

/-- The session of a bound id is known. -/
lemma Inv.hasSession_of_bound (h : a.Inv) {id session : ℕ}
    (hs : a.sessionBiDict.forwardMap[id]? = some session) (h0 : session ≠ 0) :
    a.sessionBiDict.hasSession session = true :=
  mem_iff_exists.mpr ⟨id, (h.sessions.forward id session hs h0).1⟩

lemma Inv.sessions_rebound (h : a.Inv) {id session : ℕ} {old : Option ℕ} {e : SessionEntity}
    (hold : a.sessionBiDict.forwardMap[id]? = old) (he : e.Of session)
    (hses : session = 0 ∨ old = some session ∨ a.Unused session) :
    (a.rebound id session old e).Sessions := by
  rw [rebound]
  cases old with
  | none =>
      rw [if_pos rfl]
      refine h.sessions.set hold he ?_
      rcases hses with h0 | hs | hnew
      · exact Or.inl h0
      · cases hs
      · exact Or.inr hnew.bound
  | some s =>
      rw [if_neg (Option.some_ne_none s)]
      obtain ⟨hses', hid⟩ := h.sessions.rmById hold
      refine hses'.set hid he ?_
      rw [BiDict.hasSession_rmById hold]
      rcases hses with h0 | hs | hnew
      · exact Or.inl h0
      · cases hs
        simp
      · simp [hnew.bound]

/-- **Calls that set the session of an id.**  The session that the id had before may only go when
nothing is expected for it. -/
lemma Inv.rebind (h : a.Inv) (cs : List EngineCall) (rs : List LocationAPIRequest)
    {id session q : ℕ} {old : Option ℕ} {e : SessionEntity}
    (hold : a.sessionBiDict.forwardMap[id]? = old) (he : e.Of session)
    (hses : session = 0 ∨ old = some session ∨ a.Unused session)
    (hgone : ∀ s, old = some s → s ≠ session → 0 < s → a.Answered s)
    (hrs : cs.filterMap EngineCall.request = rs)
    (hnum : rs.map LocationAPIRequest.number = List.range' a.issued rs.length)
    (hcs : ∀ c ∈ cs, 0 < c.session ∧ c.session ≠ a.trackingQueue.session ∧
      c.request.isSome =
        (session = c.session || (old ≠ some c.session && a.sessionBiDict.hasSession c.session))) :
    ({ a with
        sessionQueue := ⟨q, a.sessionQueue.requests ++ rs⟩
        issued := a.issued + rs.length
        unanswered := a.unanswered ++ cs
        sessionBiDict := a.rebound id session old e } : LocationAPIClientBase).Inv := by
  refine h.issue cs rs hrs hnum (fun c hc => ?_) (h.sessions_rebound hold he hses) (fun c hc hne => ?_)
    fun htag => ?_
  · rw [hasSession_rebound hold]
    exact hcs c hc
  · rw [hasSession_rebound hold]
    have hpos := h.pos c hc
    by_cases hs : session = c.session
    · subst hs
      rw [decide_eq_true rfl, Bool.true_or]
      rcases hses with h0 | hb | hnew
      · omega
      · exact (h.hasSession_of_bound (hold.trans hb) hpos.ne').symm
      · exact absurd rfl (hnew.answered c hc)
    · by_cases ho : old = some c.session
      · exact absurd rfl (hgone _ ho (Ne.symm hs) hpos c hc)
      · simp [hs, ho]
  · rw [hasSession_rebound hold, h.apart htag, Bool.and_false, Bool.or_false, decide_eq_false_iff_not]
    rintro rfl
    rcases hses with h0 | hb | hnew
    · omega
    · exact Bool.noConfusion ((h.apart htag).symm.trans
        (h.hasSession_of_bound (hold.trans hb) htag.ne'))
    · exact hnew.tracking rfl

lemma Inv.startTracking (h : a.Inv) {given : ℕ} (hc : a.Careful (.startTracking given)) :
    (a.locAPIStartTracking given).2.Inv := by
  rw [locAPIStartTracking]
  split_ifs with hapi htrack
  · exact h
  · obtain ⟨hold, hnew⟩ := hc hapi (Bool.eq_false_iff.mpr htrack)
    exact (h.reset hold hnew).track hnew.pos .startTracking true
  · exact h

lemma Inv.stopTracking (h : a.Inv) : a.locAPIStopTracking.Inv := by
  rw [locAPIStopTracking]
  dsimp only
  split_ifs with hapi hpos
  · exact h.track hpos .stopTracking false
  · exact h
  · exact h

lemma Inv.updateTrackingOptions (h : a.Inv) : a.locAPIUpdateTrackingOptions.Inv := by
  rw [locAPIUpdateTrackingOptions]
  dsimp only
  split_ifs with hapi hpos
  · exact h.track hpos .updateTrackingOptions a.tracking
  · exact h
  · exact h

/-- The same without a call. -/
lemma Inv.rebindOnly (h : a.Inv) {id session : ℕ} {old : Option ℕ} {e : SessionEntity}
    (hold : a.sessionBiDict.forwardMap[id]? = old) (he : e.Of session)
    (hses : session = 0 ∨ old = some session ∨ a.Unused session)
    (hgone : ∀ s, old = some s → s ≠ session → 0 < s → a.Answered s) :
    ({ a with sessionBiDict := a.rebound id session old e } : LocationAPIClientBase).Inv := by
  have hre := h.rebind (q := a.sessionQueue.session) [] [] hold he hses hgone rfl rfl (by simp)
  simp only [List.append_nil, List.length_nil, Nat.add_zero] at hre
  exact hre

lemma Inv.startSession (h : a.Inv) {id given : ℕ} {sessionMode : SessionMode}
    (hc : a.Careful (.startSession id sessionMode given)) :
    (a.locAPIStartSession id sessionMode given).2.Inv := by
  rw [locAPIStartSession]
  by_cases hapi : a.locationAPI = true
  · rw [if_pos hapi]
    by_cases hid : a.sessionBiDict.hasId id = true
    · rw [if_pos hid]
      exact h
    · rw [if_neg hid]
      have hold : a.sessionBiDict.forwardMap[id]? = none :=
        eq_none_of_not_contains (Bool.eq_false_iff.mpr hid)
      have hnew := hc hapi (Bool.eq_false_iff.mpr hid)
      by_cases hfix : sessionMode = .onFix
      · subst hfix
        have hun := hnew rfl
        exact h.rebind [⟨given, some (a.newRequest .startTracking)⟩] [a.newRequest .startTracking]
          hold ⟨rfl, by simp [SessionMode.batches]⟩ (Or.inr (Or.inr hun)) (by simp) rfl rfl
          (by simp [hun.pos, hun.tracking.symm, SessionMode.batches])
      · by_cases hb : sessionMode.batches = true
        · have hun := hnew (by rw [SessionMode.known, hb, Bool.or_true])
          simp only [if_neg hfix, if_pos hb]
          refine h.rebind [⟨given, some (a.newRequest .startBatching)⟩]
            [a.newRequest .startBatching] hold ⟨?_, fun _ => rfl⟩ (Or.inr (Or.inr hun)) (by simp) rfl
            rfl (by simp [hun.pos, hun.tracking.symm])
          rw [SessionEntity.session, if_pos hb]
        · simp only [if_neg hfix, if_neg hb]
          exact h.rebindOnly hold ⟨by simp [SessionEntity.session], fun _ => rfl⟩ (Or.inl rfl) (by simp)
  · rw [if_neg hapi]
    exact h

/-- The three ways of an update: the session is kept, changed, or, for a mode that is not known,
nothing is called. -/
lemma updateSession_cases (a : LocationAPIClientBase) {sessionMode : SessionMode} (given : ℕ)
    {e : SessionEntity} (hknown : sessionMode.known = true → e.sessionMode.known = true) :
    (∃ kind, sessionMode.known = true ∧ sessionMode.batches = e.sessionMode.batches ∧
      a.updateSession sessionMode given e =
        ((a.pushSession kind).engine e.session (some (a.newRequest kind)), e.trackingSession,
          e.batchingSession)) ∨
    (∃ kind q, sessionMode.known = true ∧ sessionMode.batches ≠ e.sessionMode.batches ∧
      a.updateSession sessionMode given e =
        ((((a.pushSession kind).engine e.session none).engine given
            (some (a.newRequest kind))).setSession q,
          if sessionMode.batches then 0 else given, if sessionMode.batches then given else 0)) ∨
    (sessionMode.known = false ∧
      a.updateSession sessionMode given e = (a, e.trackingSession, e.batchingSession)) := by
  rw [updateSession, SessionEntity.session]
  by_cases hfix : sessionMode = .onFix
  · subst hfix
    rw [if_pos rfl]
    by_cases hefix : e.sessionMode = .onFix
    · rw [if_pos hefix, hefix]
      exact Or.inl ⟨.updateTrackingOptions, rfl, rfl, rfl⟩
    · have heb : e.sessionMode.batches = true := by
        have hk := hknown rfl
        rwa [SessionMode.known, decide_eq_false hefix, Bool.false_or] at hk
      rw [if_neg hefix, if_pos heb, if_pos heb]
      exact Or.inr (Or.inl ⟨.updateTrackingOptions, 0, rfl, by rw [heb]; decide, rfl⟩)
  · rw [if_neg hfix]
    by_cases hb : sessionMode.batches = true
    · have hk : sessionMode.known = true := by rw [SessionMode.known, hb, Bool.or_true]
      rw [if_pos hb, hb]
      by_cases hefix : e.sessionMode = .onFix
      · rw [if_pos hefix, hefix]
        exact Or.inr (Or.inl ⟨.updateBatchingOptions, given, hk, by decide, rfl⟩)
      · have heb : e.sessionMode.batches = true := by
          have hk := hknown hk
          rwa [SessionMode.known, decide_eq_false hefix, Bool.false_or] at hk
        rw [if_neg hefix, if_pos heb, if_pos heb]
        exact Or.inl ⟨.updateBatchingOptions, hk, heb.symm, rfl⟩
    · rw [if_neg hb]
      refine Or.inr (Or.inr ⟨?_, rfl⟩)
      rw [SessionMode.known, decide_eq_false hfix, Bool.eq_false_iff.mpr hb, Bool.false_or]

lemma engine_engine {s s' : ℕ} {r r' : Option LocationAPIRequest} :
    (a.engine s r).engine s' r' = { a with unanswered := a.unanswered ++ [⟨s, r⟩, ⟨s', r'⟩] } := by
  simp [engine]

lemma Inv.updateSessionOptions (h : a.Inv) {id given : ℕ} {sessionMode : SessionMode}
    (hc : a.Careful (.updateSessionOptions id sessionMode given)) :
    (a.locAPIUpdateSessionOptions id sessionMode given).2.Inv := by
  rw [locAPIUpdateSessionOptions]
  by_cases hapi : a.locationAPI = true
  · rw [if_pos hapi]
    by_cases hid : a.sessionBiDict.hasId id = true
    · rw [if_pos hid]
      obtain ⟨hsame, s, hs, hof, hknown, hin⟩ := h.known hid
      obtain ⟨hk, hchange⟩ := hc hapi hid
      generalize a.sessionBiDict.getExtById id = r at hsame hof hknown hk hchange
      obtain ⟨e, d⟩ := r
      dsimp only at hsame hof hknown hk hchange ⊢
      subst hsame
      have heq := hof.session_eq
      rw [SessionEntity.session] at heq
      rcases updateSession_cases a given hk with
        ⟨kind, hmode, hsame, hup⟩ | ⟨kind, q, hmode, hne, hup⟩ | ⟨hmode, hup⟩
      · have hpos := hknown (hk hmode)
        rw [hup, hsame, heq, hof.session_eq]
        refine h.rebind [⟨s, some (a.newRequest kind)⟩] [a.newRequest kind] hs
          ⟨?_, fun hb => hof.single (hsame ▸ hb)⟩ (Or.inr (Or.inl rfl)) ?_ rfl rfl ?_
        · rw [SessionEntity.session, hsame, heq]
        · intro s' hs' hne
          exact absurd (Option.some.inj hs').symm hne
        · simp [hpos, (hin hpos).2]
      · have hpos := hknown (hk hmode)
        obtain ⟨hans, hun⟩ := hchange hne
        have hun := hun hmode
        rw [hof.session_eq] at hans
        have hgs : given ≠ s := by
          rintro rfl
          exact Bool.noConfusion (hun.bound.symm.trans (hin hpos).1)
        have hnew : (if sessionMode.batches = true then
            (if sessionMode.batches = true then given else 0)
          else if sessionMode.batches = true then 0 else given) = given := by
          split_ifs <;> rfl
        rw [hup, hof.session_eq, engine_engine]
        dsimp only
        rw [hnew]
        refine h.rebind [⟨s, none⟩, ⟨given, some (a.newRequest kind)⟩] [a.newRequest kind] hs
          ⟨?_, ?_⟩ (Or.inr (Or.inr hun)) ?_ rfl rfl ?_
        · exact hnew
        · exact fun hb => if_pos hb
        · intro s' hs' _ _
          exact Option.some.inj hs' ▸ hans
        · simp [hpos, (hin hpos).2, hun.pos, hun.tracking.symm, hgs]
      · have hb : sessionMode.batches = false := by
          rw [SessionMode.known, Bool.or_eq_false_iff] at hmode
          exact hmode.2
        rw [hup]
        dsimp only
        rw [hb, if_neg Bool.false_ne_true]
        refine h.rebindOnly hs ⟨?_, fun hb' => ?_⟩ ?_ ?_
        · rw [SessionEntity.session, hb, if_neg Bool.false_ne_true]
        · exact Bool.noConfusion (hb.symm.trans hb')
        · by_cases heb : e.sessionMode.batches = true
          · exact Or.inl (hof.single heb)
          · rw [if_neg heb] at heq
            exact Or.inr (Or.inl (congrArg some heq.symm))
        · intro s' hs' hne _
          cases hs'
          have heb : sessionMode.batches ≠ e.sessionMode.batches := by
            intro heb
            rw [← heb, hb, if_neg Bool.false_ne_true] at heq
            exact hne heq.symm
          exact hof.session_eq ▸ (hchange heb).1
    · rw [if_neg hid]
      exact h
  · rw [if_neg hapi]
    exact h

/-! ## A response -/

lemma RequestQueue.pop_of_nil {q : RequestQueue} (h : q.requests = []) : q.pop = (none, q) := by
  obtain ⟨session, requests⟩ := q
  subst h
  rfl

/-- No queue but that of the tracking session gives a request before the sessions are asked. -/
lemma Inv.popBySession (h : a.Inv) {session : ℕ} (hne : session ≠ a.trackingQueue.session) :
    a.popBySession session = (none, a) := by
  rw [LocationAPIClientBase.popBySession, if_neg (Ne.symm hne)]
  split_ifs
  · rw [RequestQueue.pop_of_nil h.niResponseQueue]
  · rfl

/-- The calls around the one that a response answers. -/
lemma answered_split {session : ℕ} {c : EngineCall} (h : a.answered session = some c) :
    ∃ before after, a.unanswered = before ++ c :: after ∧ (∀ x ∈ before, x.session ≠ session) ∧
      c.session = session ∧
      a.unanswered.eraseP (fun x => x.session = session) = before ++ after := by
  rw [answered, List.find?_eq_some_iff_append] at h
  obtain ⟨hc, before, after, hsplit, hbefore⟩ := h
  have hb : ∀ x ∈ before, x.session ≠ session := by
    intro x hx
    simpa using hbefore x hx
  refine ⟨before, after, hsplit, hb, by simpa using hc, ?_⟩
  rw [hsplit, List.eraseP_append_right _ (by simpa using hb), 
    List.eraseP_cons_of_pos (p := fun x : EngineCall => decide (x.session = session)) hc]

/-- The oldest call of a session, when it is also the next in turn, comes before all others of
client sessions that have a request. -/
lemma none_before {session : ℕ} {c : EngineCall} {before after : List EngineCall}
    (hsplit : a.unanswered = before ++ c :: after) (hb : ∀ x ∈ before, x.session ≠ session)
    (hc : c.session = session) (hturn : a.nextInTurn = some c) :
    ∀ x ∈ before, x.session ≠ a.trackingQueue.session → x.request = none := by
  rw [nextInTurn, hsplit, List.find?_append] at hturn
  intro x hx hne
  by_contra hsome
  have hfound : (before.find? fun c => decide (c.session ≠ a.trackingQueue.session ∧
      c.request.isSome = true)).isSome = true := by
    rw [List.find?_isSome]
    exact ⟨x, hx, decide_eq_true ⟨hne, Option.isSome_iff_ne_none.mpr hsome⟩⟩
  obtain ⟨y, hy⟩ := Option.isSome_iff_exists.mp hfound
  rw [hy, Option.some_or] at hturn
  cases hturn
  exact hb c (List.mem_of_find?_eq_some hy) hc

section RequestsOf

variable {p : EngineCall → Bool} {c : EngineCall} {before after : List EngineCall}

/-- A call that is not among them, or has no request, can be left out. -/
lemma requestsOf_skip (h : p c = true → c.request = none) :
    requestsOf p (before ++ c :: after) = requestsOf p (before ++ after) := by
  simp only [requestsOf, List.filter_append, List.filterMap_append, List.filter_cons]
  split_ifs with hp
  · rw [List.filterMap_cons_none (h hp)]
  · rfl

/-- A call with a request, before which there is none, is at the front. -/
lemma requestsOf_front {r : LocationAPIRequest} (hc : p c = true) (hr : c.request = some r)
    (hb : ∀ x ∈ before, p x = true → x.request = none) :
    requestsOf p (before ++ c :: after) = r :: requestsOf p (before ++ after) := by
  have hnone : requestsOf p before = [] := by
    rw [requestsOf, List.filterMap_eq_nil_iff]
    intro x hx
    rw [List.mem_filter] at hx
    exact hb x hx.1 hx.2
  rw [requestsOf] at hnone
  simp only [requestsOf, List.filter_append, List.filterMap_append, hnone, List.nil_append]
  rw [List.filter_cons_of_pos hc, List.filterMap_cons_some hr]

end RequestsOf

section Found

variable {session : ℕ} {r : LocationAPIRequest} {t : List LocationAPIRequest}

lemma found_tracking (htag : session = a.trackingQueue.session)
    (hq : a.trackingQueue.requests = r :: t) : a.getRequestBySession session =
      (some r, { a with trackingQueue := ⟨a.trackingQueue.session, t⟩ }) := by
  rw [getRequestBySession, popBySession, if_pos htag.symm, RequestQueue.pop, hq]
  rfl

lemma Inv.found_session (h : a.Inv) (htag : session ≠ a.trackingQueue.session)
    (hs : a.sessionBiDict.hasSession session = true) (hq : a.sessionQueue.requests = r :: t) :
    a.getRequestBySession session =
      (some r, { a with sessionQueue := ⟨a.sessionQueue.session, t⟩ }) := by
  rw [LocationAPIClientBase.getRequestBySession, h.popBySession htag]
  dsimp only
  rw [if_pos hs, RequestQueue.pop, hq]
  rfl

lemma Inv.found_none (h : a.Inv) (htag : session ≠ a.trackingQueue.session)
    (hs : a.sessionBiDict.hasSession session = false) :
    a.getRequestBySession session = (none, a) := by
  rw [LocationAPIClientBase.getRequestBySession, h.popBySession htag]
  dsimp only
  rw [hs, if_neg Bool.false_ne_true]

end Found

/-- **The request that a response finds** is that of the call it answers, and the queues go on to
hold what is expected. -/
lemma Inv.getRequestBySession (h : a.Inv) {session : ℕ} {c : EngineCall}
    {before after : List EngineCall} (hsplit : a.unanswered = before ++ c :: after)
    (hb : ∀ x ∈ before, x.session ≠ session) (hc : c.session = session)
    (hturn : session ≠ a.trackingQueue.session → c.request.isSome = true → a.nextInTurn = some c) :
    ∃ t s, a.getRequestBySession session = (c.request,
        { a with trackingQueue := ⟨a.trackingQueue.session, t⟩
                 sessionQueue := ⟨a.sessionQueue.session, s⟩ }) ∧
      t = requestsOf (fun x => x.session = a.trackingQueue.session) (before ++ after) ∧
      s = requestsOf (fun x => x.session ≠ a.trackingQueue.session) (before ++ after) ∧
      (c.request.toList ++ (t ++ s)).Perm (a.trackingQueue.requests ++ a.sessionQueue.requests) := by
  have hmem : c ∈ a.unanswered := by rw [hsplit]; simp
  have ht := h.trackingQueue
  have hs := h.sessionQueue
  rw [hsplit] at ht hs
  by_cases htag : session = a.trackingQueue.session
  · -- it is the tracking session, whose calls before this one have been answered
    have hct := hc.trans htag
    obtain ⟨r, hr⟩ := Option.isSome_iff_exists.mp (h.asked c hmem hct)
    rw [requestsOf_front (decide_eq_true hct) hr fun x hx hx' =>
      absurd ((of_decide_eq_true hx').trans htag.symm) (hb x hx)] at ht
    rw [requestsOf_skip fun hc' => absurd hct (of_decide_eq_true hc')] at hs
    refine ⟨_, _, ?_, rfl, rfl, ?_⟩
    · rw [found_tracking htag ht, ← hs, hr]
    · rw [ht, hs, hr]
      exact .refl _
  · have hne : c.session ≠ a.trackingQueue.session := fun heq => htag (hc.symm.trans heq)
    have hbound := hc ▸ h.bound c hmem hne
    rw [requestsOf_skip fun hc' => absurd (of_decide_eq_true hc') hne] at ht
    cases hr : c.request with
    | none =>
        rw [hr] at hbound
        rw [requestsOf_skip fun _ => hr] at hs
        refine ⟨_, _, ?_, rfl, rfl, ?_⟩
        · rw [h.found_none htag hbound.symm, ← ht, ← hs]
        · rw [← ht, ← hs]
          exact .refl _
    | some r =>
        -- it is the next in turn of all client sessions, so it is at the front
        have hnone := none_before hsplit hb hc (hturn htag (by rw [hr]; rfl))
        rw [hr] at hbound
        rw [requestsOf_front (decide_eq_true hne) hr fun x hx hx' =>
          hnone x hx (of_decide_eq_true hx')] at hs
        refine ⟨_, _, ?_, rfl, rfl, ?_⟩
        · rw [h.found_session htag hbound.symm hs, ← ht]
        · rw [← ht, hs, Option.toList_some, List.singleton_append]
          exact List.perm_middle.symm

/-- What `onResponse` leaves of the sessions. -/
lemma onResponseCb_eq {error : LocationError} {session : ℕ} {request : Option LocationAPIRequest}
    (h : a.getRequestBySession session = (request, a')) :
    a.onResponseCb error session = (request,
      { a' with sessionBiDict :=
          if (request.any LocationAPIRequest.stops = true ∧ error = .success) ∧
              a'.sessionBiDict.hasSession session = true then
            a'.sessionBiDict.rmBySession session
          else a'.sessionBiDict }) := by
  rw [onResponseCb, h]
  cases request with
  | none => simp
  | some r =>
      simp only [onResponse, removeSession, Option.any_some]
      by_cases hr : r.stops = true ∧ error = .success
      · rw [if_pos hr]
        by_cases hs : a'.sessionBiDict.hasSession session = true
        · rw [if_pos hs, if_pos ⟨hr, hs⟩]
        · rw [if_neg hs, if_neg fun hn => hs hn.2]
      · rw [if_neg hr, if_neg fun hn => hr hn.1]

/-- **A response.** -/
lemma Inv.respond (h : a.Inv) {session : ℕ} {error : LocationError}
    (hc : a.Careful (.response session error)) (hs : a.respond session error = some a') :
    a'.Inv := by
  obtain ⟨c, hans, rfl⟩ := Option.map_eq_some_iff.mp hs
  have hturn := hc c hans
  obtain ⟨before, after, hsplit, hb, rfl, herase⟩ := answered_split hans
  have hmem : c ∈ a.unanswered := by rw [hsplit]; simp
  have hsub : ∀ x ∈ before ++ after, x ∈ a.unanswered := by
    intro x hx
    rw [hsplit]
    rcases List.mem_append.mp hx with hx | hx
    · exact List.mem_append_left _ hx
    · exact List.mem_append_right _ (List.mem_cons_of_mem _ hx)
  have hpos := h.pos c hmem
  obtain ⟨t, s, hget, ht, hs', hperm⟩ :=
    h.getRequestBySession hsplit hb rfl fun hne hr => (hturn hne).1 hr
  rw [onResponseCb_eq hget, herase]
  dsimp only
  -- the session goes if it is stopped, and nothing is expected for it then
  generalize hd : (if (c.request.any LocationAPIRequest.stops = true ∧ error = .success) ∧
      a.sessionBiDict.hasSession c.session = true then
    a.sessionBiDict.rmBySession c.session else a.sessionBiDict) = d
  have hhas : ∀ x, d.hasSession x = true ↔ a.sessionBiDict.hasSession x = true ∧
      ¬(x = c.session ∧ c.stops = true ∧ error = .success) := by
    intro x
    rw [← hd]
    split_ifs with hgo
    · rw [BiDict.hasSession_rmBySession hgo.2, Bool.and_eq_true, Bool.not_eq_true',
        decide_eq_false_iff_not, and_comm]
      refine and_congr_right fun _ => not_congr ?_
      exact ⟨fun hx => ⟨hx.symm, hgo.1.1, hgo.1.2⟩, fun hx => hx.1.symm⟩
    · refine ⟨fun hx => ⟨hx, ?_⟩, fun hx => hx.1⟩
      rintro ⟨rfl, hstop, herr⟩
      exact hgo ⟨⟨hstop, herr⟩, hx⟩
  have hgone : ∀ x ∈ before ++ after, x.session ≠ a.trackingQueue.session →
      d.hasSession x.session = a.sessionBiDict.hasSession x.session := by
    intro x hx hne
    rw [Bool.eq_iff_iff, hhas]
    refine ⟨fun hx' => hx'.1, fun hx' => ⟨hx', ?_⟩⟩
    rintro ⟨hxc, hstop, herr⟩
    exact (hturn (hxc ▸ hne)).2 hstop herr x (herase ▸ hx) hxc
  constructor
  · exact ht
  · exact hs'
  · exact h.niResponseQueue
  · exact fun x hx => h.asked x (hsub x hx)
  · exact fun x hx hne => (h.bound x (hsub x hx) hne).trans (hgone x hx hne).symm
  · exact fun x hx => h.pos x (hsub x hx)
  · dsimp only
    rw [← hd]
    split_ifs with hgo
    · exact h.sessions.rmBySession hgo.2 hpos.ne'
    · exact h.sessions
  · intro htag
    rw [Bool.eq_false_iff]
    intro hin
    exact Bool.noConfusion ((h.apart htag).symm.trans ((hhas _).mp hin).1)
  · refine List.Perm.trans (List.Perm.map _ ?_) h.once
    simp only [waiting, h.niResponseQueue, List.append_nil, List.filterMap_append]
    rw [List.append_assoc]
    refine List.Perm.append_left _ ?_
    cases hr : c.request <;> simpa [hr] using hperm
  · intro x hx
    rcases List.mem_append.mp hx with hx | hx
    · exact h.right x hx
    · rw [List.mem_singleton.mp hx]
      exact ⟨rfl, hhas⟩

lemma Inv.step {i : Input} (h : a.Inv) (hs : CarefulStep a i a') : a'.Inv := by
  obtain ⟨hs, hc⟩ := hs
  rw [Step] at hs
  cases i with
  | setCallbacks created =>
      cases hs
      exact ⟨h.1, h.2, h.3, h.4, h.5, h.6, h.7, h.8, h.9, h.10⟩
  | startTracking given =>
      cases hs
      exact h.startTracking hc
  | stopTracking =>
      cases hs
      exact h.stopTracking
  | updateTrackingOptions =>
      cases hs
      exact h.updateTrackingOptions
  | startSession id sessionMode given =>
      cases hs
      exact h.startSession hc
  | stopSession id =>
      cases hs
      exact h.stopSession id
  | updateSessionOptions id sessionMode given =>
      cases hs
      exact h.updateSessionOptions hc
  | getBatchedLocations id =>
      cases hs
      exact h.getBatchedLocations hc
  | response session error => exact h.respond hc hs

/-! ## Runs on fixed inputs -/

instance (a : LocationAPIClientBase) (session : ℕ) : Decidable (a.Answered session) :=
  inferInstanceAs (Decidable (∀ c ∈ a.unanswered, c.session ≠ session))

instance (a : LocationAPIClientBase) (session : ℕ) : Decidable (a.Unused session) :=
  decidable_of_iff
    (0 < session ∧ a.trackingQueue.session ≠ session ∧
      a.sessionBiDict.hasSession session = false ∧ a.Answered session)
    ⟨fun ⟨hpos, htrack, hbound, hans⟩ => ⟨hpos, htrack, hbound, hans⟩,
      fun h => ⟨h.pos, h.tracking, h.bound, h.answered⟩⟩

instance (a : LocationAPIClientBase) (sessionMode : SessionMode) (given : ℕ) (e : SessionEntity) :
    Decidable (a.CarefulUpdate sessionMode given e) :=
  inferInstanceAs (Decidable (_ ∧ (_ → _)))

instance (a : LocationAPIClientBase) (c : EngineCall) (error : LocationError) :
    Decidable (a.InTurn c error) :=
  inferInstanceAs (Decidable (_ → _ ∧ _))

instance (a : LocationAPIClientBase) : (i : Input) → Decidable (a.Careful i)
  | .startTracking _ => inferInstanceAs (Decidable (_ → _ → _))
  | .startSession _ _ _ => inferInstanceAs (Decidable (_ → _ → _ → _))
  | .updateSessionOptions _ _ _ => inferInstanceAs (Decidable (_ → _ → _))
  | .getBatchedLocations _ => inferInstanceAs (Decidable (_ → _ → _))
  | .response session error =>
      inferInstanceAs (Decidable (∀ c ∈ a.answered session, a.InTurn c error))
  | .setCallbacks _ => isTrue trivial
  | .stopTracking => isTrue trivial
  | .updateTrackingOptions => isTrue trivial
  | .stopSession _ => isTrue trivial

/-- A step, as a function. -/
def next (a : LocationAPIClientBase) (i : Input) : Option (LocationAPIClientBase × Input) :=
  (a.input i).map fun a' => (a', i)

/-- A step on an input that meets the condition, as a function. -/
def nextCareful (a : LocationAPIClientBase) (i : Input) : Option (LocationAPIClientBase × Input) :=
  if a.Careful i then a.next i else none

lemma step_of_next {i : Input} {p : LocationAPIClientBase × Input} (h : a.next i = some p) :
    Step a p.2 p.1 := by
  obtain ⟨a', ha', rfl⟩ := Option.map_eq_some_iff.mp h
  exact ha'

lemma carefulStep_of_next {i : Input} {p : LocationAPIClientBase × Input}
    (h : a.nextCareful i = some p) : CarefulStep a p.2 p.1 := by
  rw [nextCareful] at h
  split_ifs at h with hc
  obtain ⟨a', ha', rfl⟩ := Option.map_eq_some_iff.mp h
  exact ⟨ha', hc⟩

end LocationAPIClientBase

open LocationAPIClientBase in
/-- **Responses reach their own request.**  In every run of tracking calls, session calls and
responses whose inputs meet the condition: every request is waiting or has been answered exactly
once, the requests that wait are those of the engine calls not yet answered, and every response was
delivered to the request of the oldest unanswered call for its session, and removed that session if
it had been stopped and nothing else. -/
theorem responses_reach_requests {inputs : List Input} {a : LocationAPIClientBase}
    (hr : Run CarefulStep init inputs a) : a.Matched :=
  (hr.invariant (P := Inv) (fun _ _ _ h hs => h.step hs) .init).matched

open LocationAPIClientBase in
/-- A tracking session and two client sessions, of which one changes from batching to tracking while
the other is stopped. -/
theorem responses_reach_requests_three : ∃ inputs a, Run CarefulStep init inputs a ∧
    a.deliveries.length = 7 ∧ a.waiting = [] ∧ a.Matched := by
  have hrun : ((execBy nextCareful init [.setCallbacks true, .startTracking 9,
      .startSession 1 .onFix 5, .startSession 2 .onFull 6, .getBatchedLocations 2,
      .response 5 .success, .response 6 .success, .response 6 .generalFailure,
      .updateSessionOptions 2 .onFix 7, .stopSession 1, .response 7 .success, .response 5 .success,
      .response 6 .success, .response 9 .success]).map fun p =>
        decide (p.1.deliveries.length = 7 ∧ p.1.waiting = [])) = some true := by
    decide +kernel
  obtain ⟨⟨a, inputs⟩, hp, ha⟩ := Option.map_eq_some_iff.mp hrun
  have hr : Run CarefulStep init inputs a := Run.of_execBy (fun _ _ _ h => carefulStep_of_next h) hp
  obtain ⟨hlen, hwait⟩ := of_decide_eq_true ha
  exact ⟨inputs, a, hr, hlen, hwait, responses_reach_requests hr⟩

open LocationAPIClientBase in
/-- Session 5 is stopped and session 6 updated; the answer to the update comes first, is taken for the
answer to the stop, and removes session 6, which goes on. -/
theorem response_stops_other_session : ∃ inputs a, Run Step init inputs a ∧
    ∃ r ∈ a.deliveries, r.call = ⟨6, some ⟨3, .updateTrackingOptions⟩⟩ ∧
      r.request = some ⟨2, .stopTracking⟩ ∧ r.before.hasSession 6 = true ∧
      r.after.hasSession 6 = false ∧ ¬r.Right := by
  have hrun : ((execBy next init [.setCallbacks true, .startSession 1 .onFix 5,
      .startSession 2 .onFix 6, .response 5 .success, .response 6 .success, .stopSession 1,
      .updateSessionOptions 2 .onFix 0, .response 6 .success]).map fun p =>
        decide (∃ r ∈ p.1.deliveries, r.call = ⟨6, some ⟨3, .updateTrackingOptions⟩⟩ ∧
          r.request = some ⟨2, .stopTracking⟩ ∧ r.before.hasSession 6 = true ∧
          r.after.hasSession 6 = false)) = some true := by
    decide +kernel
  obtain ⟨⟨a, inputs⟩, hp, ha⟩ := Option.map_eq_some_iff.mp hrun
  have hr : Run Step init inputs a := Run.of_execBy (fun _ _ _ h => step_of_next h) hp
  obtain ⟨r, hmem, hcall, hreq, hbefore, hafter⟩ := of_decide_eq_true ha
  refine ⟨inputs, a, hr, r, hmem, hcall, hreq, hbefore, hafter, fun hright => ?_⟩
  have heq := hright.request_eq
  rw [hreq, hcall] at heq
  cases heq

end Gps.Location
