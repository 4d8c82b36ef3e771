import OcnDevice.Core.Run
import OcnDevice.Gps.Location.Client
import OcnDevice.Gps.Location.Geofences

/-!
# The dictionary and the engine

Geofences are written into `mGeofenceBiDict` when the engine is asked to add them and taken out when
a response for their removal comes, and the errors of a response are not looked at.  So the
dictionary is in step with the engine as long as nothing is refused.

**The books.**  `promised` is what the engine will hold once it has answered all calls, apart from
removals.  In the runs where all goes well the dictionary is at every moment the other view of that:
an id is bound to a session and a mask just if they are promised (`Kept.ledger`).  A session that no
call waits for has what is promised (`promised_of_not_mem`), and that is the result.

**Steps.**  An added geofence and a modified one enter the promises with the call, and the answer
changes nothing (`answer_promised`); a removed one leaves with the answer, and `Kept.apart` says
that no call that waits behind it is about to bring its session back.
-/

namespace Gps.Location

/-! ## The engine -/

/-- The geofences of the engine by their sessions, each with the id that it was added for and its
breach mask. -/
abbrev Held : Type := ℕ → Option (ℕ × ℕ)

/-- `GeofenceBreachType`. -/
inductive GeofenceBreachType
  | enter
  | exit
  | dwellIn
  | dwellOut
  | unknown
  deriving DecidableEq, Repr

/-- The number of the bit of a breach type. -/
def GeofenceBreachType.bit : GeofenceBreachType → ℕ
  | enter => 0
  | exit => 1
  | dwellIn => 2
  | dwellOut => 3
  | unknown => 4

namespace Held

variable (h : Held)

/-- A geofence is added. -/
def add (item : ℕ × ℕ × GeofenceOption) : Held :=
  Function.update h item.1 (some (item.2.1, item.2.2.breachTypeMask))

/-- A geofence is modified, if there is one. -/
def modify (item : ℕ × GeofenceOption) : Held :=
  Function.update h item.1 ((h item.1).map fun p => (p.1, item.2.breachTypeMask))

/-- A geofence is removed. -/
def remove (session : ℕ) : Held := Function.update h session none

/-- What the engine does about one item of a call. -/
def unlessFailed {α : Type*} (f : Held → α → Held) (p : α × LocationError) : Held :=
  if p.2 = .success then f h p.1 else h

end Held

namespace GeofenceCall

/-- What the engine does about a call, with the error that it reports for each item. -/
def perform (errors : List LocationError) (h : Held) : GeofenceCall → Held
  | addGeofences items => (items.zip errors).foldl (Held.unlessFailed · Held.add) h
  | removeGeofences sessions => (sessions.zip errors).foldl (Held.unlessFailed · Held.remove) h
  | modifyGeofences items => (items.zip errors).foldl (Held.unlessFailed · Held.modify) h
  | pauseGeofences _ | resumeGeofences _ => h

/-- What a call will have added and modified, if all goes well. -/
def promise (h : Held) : GeofenceCall → Held
  | addGeofences items => items.foldl Held.add h
  | modifyGeofences items => items.foldl Held.modify h
  | removeGeofences _ | pauseGeofences _ | resumeGeofences _ => h

end GeofenceCall

namespace GeofenceClient

/-- `onCollectiveResponseCb`: the errors are passed on to the client only. -/
def onCollectiveResponseCb (sessions : List ℕ) (a : GeofenceClient) : GeofenceClient :=
  if a.session = geofenceSessionId then
    { a with
      requests := a.requests.tail
      geofenceBiDict :=
        if a.requests.head? = some .removeGeofences then
          sessions.foldl BiDict.rmBySession a.geofenceBiDict
        else a.geofenceBiDict }
  else a

/-- The mask asks for a notification of the type. -/
def wants (type : GeofenceBreachType) (mask : ℕ) : Bool :=
  (type = .enter && mask.testBit 0) || (type = .exit && mask.testBit 1)

/-- `beforeGeofenceBreachCb`: the ids that the callback is called with, if there is one. -/
def beforeGeofenceBreachCb (type : GeofenceBreachType) (sessions : List ℕ) (a : GeofenceClient) :
    Option (List ℕ) :=
  if a.geofenceBreachCallback then
    some ((sessions.filter fun s => wants type (a.geofenceBiDict.getExtBySession s)).map
      a.geofenceBiDict.getId)
  else none

end GeofenceClient

/-! ## Runs -/

/-- A client, the engine, and the calls between them. -/
structure GeofenceSys where
  client : GeofenceClient
  held : Held
  /-- The calls that have not been answered, the oldest first. -/
  calls : List GeofenceCall

/-- A call of the client, with what the engine returns, or an event of the engine. -/
inductive GeofenceInput
  | addGeofences (items : List (ℕ × GeofenceOption)) (sessions : Option (List ℕ))
  | removeGeofences (ids : List ℕ)
  | modifyGeofences (items : List (ℕ × GeofenceOption))
  /-- The call with this number is answered, with an error for each of its items. -/
  | answer (k : ℕ) (errors : List LocationError)
  | breach (type : GeofenceBreachType) (sessions : List ℕ)
  deriving DecidableEq, Repr

namespace GeofenceSys

variable (s : GeofenceSys)

/-- The client as it is constructed. -/
def init (locationAPI callback : Bool) : GeofenceSys :=
  ⟨⟨locationAPI, callback, 0, [], BiDict.empty⟩, fun _ => none, []⟩

/-- A client has made a call, of the engine too or not. -/
def after (p : GeofenceClient × Option GeofenceCall) : GeofenceSys :=
  { s with client := p.1, calls := s.calls ++ p.2.toList }

/-- What an input does. -/
def input : GeofenceInput → GeofenceSys
  | .addGeofences items sessions => s.after (s.client.locAPIAddGeofences items sessions)
  | .removeGeofences ids => s.after (s.client.locAPIRemoveGeofences ids)
  | .modifyGeofences items => s.after (s.client.locAPIModifyGeofences items)
  | .answer k errors =>
      match s.calls[k]? with
      | some call =>
          { client := s.client.onCollectiveResponseCb call.sessions
            held := call.perform errors s.held
            calls := s.calls.eraseIdx k }
      | none => s
  | .breach _ _ => s

/-- What the engine keeps to: the sessions that it gives are its own to give, an answer has an error
for each item, and a notification is about geofences that it holds with a mask for it. -/
def Possible : GeofenceInput → Prop
  | .addGeofences items sessions => ∀ l ∈ sessions, l.length = items.length ∧ l.Nodup ∧
      ∀ session ∈ l, session ≠ 0 ∧ s.held session = none ∧
        ∀ call ∈ s.calls, session ∉ call.sessions
  | .answer k errors => ∃ call, s.calls[k]? = some call ∧ errors.length = call.sessions.length
  | .breach type sessions => ∀ session ∈ sessions,
      ∃ id mask, s.held session = some (id, mask) ∧ mask.testBit type.bit = true
  | _ => True

/-- One input. -/
def Step (i : GeofenceInput) (s' : GeofenceSys) : Prop := s.Possible i ∧ s' = s.input i

/-! ## What the dictionary is for -/

/-- **The dictionary is in step with the engine**: an id resolves to a session that no call waits
for just if the engine holds its geofence there. -/
def Matches : Prop :=
  ∀ id session, session ≠ 0 → (∀ call ∈ s.calls, session ∉ call.sessions) →
    (s.client.geofenceBiDict.getSession id = session ↔
      ∃ mask, s.held session = some (id, mask))

/-- **A notification reaches the client** with the ids that the geofences were added for, when none
of them is being modified. -/
def Notifies (type : GeofenceBreachType) (sessions : List ℕ) : Prop :=
  s.client.geofenceBreachCallback = true →
    (∀ session ∈ sessions, ∀ call ∈ s.calls, call.request = .modifyGeofences →
      session ∉ call.sessions) →
    s.client.beforeGeofenceBreachCb type sessions =
      some (sessions.map fun session => ((s.held session).map Prod.fst).getD 0)

/-- **The condition**: an id is added when it is not in use, and removed once; options are those of
the first ids; answers come in the order of the calls and report no error, except for the
modification of a geofence that is gone; and notifications are of geofences entered or left. -/
def Careful : GeofenceInput → Prop
  | .addGeofences items sessions => sessions ≠ none → (items.map Prod.fst).Nodup ∧
      ∀ item ∈ items, s.client.geofenceBiDict.hasId item.1 = false
  | .removeGeofences ids => ids.Nodup ∧ ∀ id ∈ ids, ∀ call ∈ s.calls,
      call.request = .removeGeofences → s.client.geofenceBiDict.getSession id ∉ call.sessions
  | .modifyGeofences items => (s.client.known items).map Prod.snd =
      (items.map Prod.snd).take (s.client.known items).length
  | .answer k errors => k = 0 ∧ ∀ call ∈ s.calls.head?, ∀ p ∈ call.sessions.zip errors,
      p.2 = .success ∨ call.request = .modifyGeofences ∧ s.held p.1 = none
  | .breach type _ => type = .enter ∨ type = .exit

end GeofenceSys

/-! ## Promises -/

section Promises

variable {h h' : Held} {call : GeofenceCall} {calls : List GeofenceCall} {session : ℕ}
  {errors : List LocationError}

/-- A promise for a session depends on what is there only. -/
lemma promise_congr (heq : h session = h' session) :
    call.promise h session = call.promise h' session := by
  cases call with
  | addGeofences items =>
      simp only [GeofenceCall.promise]
      induction items generalizing h h' with
      | nil => exact heq
      | cons item items ih =>
          refine ih ?_
          simp only [Held.add, Function.update_apply, heq]
  | modifyGeofences items =>
      simp only [GeofenceCall.promise]
      induction items generalizing h h' with
      | nil => exact heq
      | cons item items ih =>
          refine ih ?_
          simp only [Held.modify, Function.update_apply]
          split_ifs with hs
          · rw [← hs, heq]
          · exact heq
  | removeGeofences _ | pauseGeofences _ | resumeGeofences _ => exact heq

lemma promise_of_not_mem (hs : session ∉ call.sessions) :
    call.promise h session = h session := by
  cases call with
  | addGeofences items =>
      simp only [GeofenceCall.promise, GeofenceCall.sessions] at hs ⊢
      induction items generalizing h with
      | nil => rfl
      | cons item items ih =>
          rw [List.map_cons, List.mem_cons, not_or] at hs
          rw [List.foldl_cons, ih hs.2, Held.add, Function.update_of_ne hs.1]
  | modifyGeofences items =>
      simp only [GeofenceCall.promise, GeofenceCall.sessions] at hs ⊢
      induction items generalizing h with
      | nil => rfl
      | cons item items ih =>
          rw [List.map_cons, List.mem_cons, not_or] at hs
          rw [List.foldl_cons, ih hs.2, Held.modify, Function.update_of_ne hs.1]
  | removeGeofences _ | pauseGeofences _ | resumeGeofences _ => rfl

lemma foldl_modify_none {items : List (ℕ × GeofenceOption)} (h0 : h session = none) :
    items.foldl Held.modify h session = none := by
  induction items generalizing h with
  | nil => exact h0
  | cons item items ih =>
      refine ih ?_
      simp only [Held.modify, Function.update_apply]
      split_ifs with hs
      · rw [← hs, h0, Option.map_none]
      · exact h0

/-- Only an added geofence is promised for a session that has none. -/
lemma promise_none (h0 : h session = none)
    (hadd : call.request = .addGeofences → session ∉ call.sessions) :
    call.promise h session = none := by
  cases call with
  | addGeofences items => rw [promise_of_not_mem (hadd rfl), h0]
  | modifyGeofences items => exact foldl_modify_none h0
  | removeGeofences _ | pauseGeofences _ | resumeGeofences _ => exact h0

/-- What the engine will hold once it has answered the calls. -/
def promised (calls : List GeofenceCall) (h : Held) : Held := calls.foldl GeofenceCall.promise h

lemma promised_congr (heq : h session = h' session) :
    promised calls h session = promised calls h' session := by
  induction calls generalizing h h' with
  | nil => exact heq
  | cons call calls ih => exact ih (promise_congr heq)

/-- **A session that no call waits for has what is promised.** -/
lemma promised_of_not_mem (hs : ∀ call ∈ calls, session ∉ call.sessions) :
    promised calls h session = h session := by
  induction calls generalizing h with
  | nil => rfl
  | cons call calls ih =>
      rw [promised, List.foldl_cons, ← promised,
        ih fun c hc => hs c (List.mem_cons_of_mem _ hc),
        promise_of_not_mem (hs call List.mem_cons_self)]

lemma promised_none (h0 : h session = none)
    (hadd : ∀ call ∈ calls, call.request = .addGeofences → session ∉ call.sessions) :
    promised calls h session = none := by
  induction calls generalizing h with
  | nil => exact h0
  | cons call calls ih =>
      exact ih (promise_none h0 (hadd call List.mem_cons_self))
        fun c hc => hadd c (List.mem_cons_of_mem _ hc)

lemma promised_concat : promised (calls ++ [call]) h = call.promise (promised calls h) := by
  rw [promised, List.foldl_append]
  rfl

lemma foldl_remove {sessions : List ℕ} :
    sessions.foldl Held.remove h session = if session ∈ sessions then none else h session := by
  induction sessions generalizing h with
  | nil => rfl
  | cons s sessions ih =>
      rw [List.foldl_cons, ih, Held.remove, Function.update_apply]
      by_cases hs : session = s
      · simp [hs]
      · simp [hs]

/-- A removal in front of calls that do not bring its sessions back. -/
lemma promised_remove {sessions : List ℕ} (hadd : ∀ call ∈ calls,
    call.request = .addGeofences → sessions.Disjoint call.sessions) :
    promised calls (sessions.foldl Held.remove h) =
      sessions.foldl Held.remove (promised calls h) := by
  funext session
  rw [foldl_remove]
  split_ifs with hs
  · exact promised_none (by rw [foldl_remove, if_pos hs]) fun c hc hr => hadd c hc hr hs
  · exact promised_congr (by rw [foldl_remove, if_neg hs])

/-- What is not refused is done. -/
lemma foldl_unlessFailed {α : Type*} {f : Held → α → Held} {items : List α}
    (hlen : errors.length = items.length) (hs : ∀ p ∈ items.zip errors, p.2 = .success) :
    (items.zip errors).foldl (Held.unlessFailed · f) h = items.foldl f h := by
  induction items generalizing errors h with
  | nil => rfl
  | cons item items ih =>
      cases errors with
      | nil => simp at hlen
      | cons e errors =>
          rw [List.zip_cons_cons] at hs ⊢
          have he : e = .success := hs _ List.mem_cons_self
          rw [List.foldl_cons, List.foldl_cons, Held.unlessFailed, if_pos he]
          exact ih (by simpa using hlen) fun p hp => hs p (List.mem_cons_of_mem _ hp)

/-- A geofence that is gone need not be modified. -/
lemma foldl_unlessFailed_modify {items : List (ℕ × GeofenceOption)}
    (hlen : errors.length = items.length)
    (hs : ∀ p ∈ items.zip errors, p.2 = .success ∨ h p.1.1 = none) :
    (items.zip errors).foldl (Held.unlessFailed · Held.modify) h = items.foldl Held.modify h := by
  induction items generalizing errors h with
  | nil => rfl
  | cons item items ih =>
      cases errors with
      | nil => simp at hlen
      | cons e errors =>
          rw [List.zip_cons_cons] at hs ⊢
          have hstep : Held.unlessFailed h Held.modify (item, e) = h.modify item := by
            rw [Held.unlessFailed]
            split_ifs with he
            · rfl
            · have h0 : h item.1 = none := (hs _ List.mem_cons_self).resolve_left he
              rw [Held.modify, h0, Option.map_none, ← h0, Function.update_eq_self]
          rw [List.foldl_cons, List.foldl_cons, hstep]
          refine ih (by simpa using hlen) fun p hp => ?_
          refine (hs p (List.mem_cons_of_mem _ hp)).imp_right fun h0 => ?_
          exact (foldl_modify_none h0 : [item].foldl Held.modify h p.1.1 = none)

/-- **The answer to a call that removes nothing is as promised.** -/
lemma answer_promised (hlen : errors.length = call.sessions.length)
    (hs : ∀ p ∈ call.sessions.zip errors,
      p.2 = .success ∨ call.request = .modifyGeofences ∧ h p.1 = none)
    (hrm : call.request ≠ .removeGeofences) : call.perform errors h = call.promise h := by
  cases call with
  | addGeofences items =>
      refine foldl_unlessFailed (by simpa [GeofenceCall.sessions] using hlen) fun p hp => ?_
      refine (hs (p.1.1, p.2) ?_).resolve_right fun hno => GeofenceRequest.noConfusion hno.1
      rw [GeofenceCall.sessions, List.zip_map_left]
      exact List.mem_map_of_mem hp
  | removeGeofences sessions => exact absurd rfl hrm
  | modifyGeofences items =>
      refine foldl_unlessFailed_modify (by simpa [GeofenceCall.sessions] using hlen) fun p hp => ?_
      refine (hs (p.1.1, p.2) ?_).imp_right And.right
      rw [GeofenceCall.sessions, List.zip_map_left]
      exact List.mem_map_of_mem hp
  | pauseGeofences _ | resumeGeofences _ => rfl

/-- The answer to a removal. -/
lemma answer_removed {sessions : List ℕ} (hlen : errors.length = sessions.length)
    (hs : ∀ p ∈ sessions.zip errors, p.2 = .success ∨
      (GeofenceCall.removeGeofences sessions).request = .modifyGeofences ∧ h p.1 = none) :
    (GeofenceCall.removeGeofences sessions).perform errors h = sessions.foldl Held.remove h :=
  foldl_unlessFailed hlen fun p hp =>
    (hs p hp).resolve_right fun hno => GeofenceRequest.noConfusion hno.1

end Promises

/-! ## The books -/

/-- Ids are bound to the sessions and masks that are promised for them. -/
def Ledger (b : ℕ → Option (ℕ × ℕ)) (h : Held) : Prop :=
  ∀ id session mask, b id = some (session, mask) ↔ h session = some (id, mask)

section Ledger

variable {b : ℕ → Option (ℕ × ℕ)} {d e : BiDict ℕ} {h : Held} {id session mask : ℕ}

/-- An id and its session change together. -/
lemma Ledger.update (hl : Ledger b h) (hs : ∀ id' mask', h session = some (id', mask') → id' = id)
    (hi : ∀ session' mask', b id = some (session', mask') → session' = session) :
    Ledger (Function.update b id (some (session, mask)))
      (Function.update h session (some (id, mask))) := by
  intro i s m
  simp only [Function.update_apply]
  by_cases hid : i = id
  · by_cases hses : s = session
    · simp [hid, hses]
    · rw [if_pos hid, if_neg hses, Option.some.injEq, Prod.mk.injEq]
      refine iff_of_false (fun hno => hses hno.1.symm) fun hno => hses ?_
      exact hi s m (hid ▸ (hl i s m).mpr hno)
  · by_cases hses : s = session
    · rw [if_neg hid, if_pos hses, Option.some.injEq, Prod.mk.injEq]
      refine iff_of_false (fun hno => hid ?_) fun hno => hid hno.1.symm
      exact hs i m (hses ▸ (hl i s m).mp hno)
    · rw [if_neg hid, if_neg hses]
      exact hl i s m

/-- A session leaves with its id. -/
lemma Ledger.remove (hl : Ledger b h) :
    Ledger (fun i => (b i).filter fun p => p.1 ≠ session) (h.remove session) := by
  intro i s m
  simp only [Option.filter_eq_some_iff, decide_eq_true_eq, Held.remove, Function.update_apply]
  split_ifs with hs
  · simp [hs]
  · rw [hl i s m]
    simp [hs]

/-- Geofences that are added under free ids and sessions. -/
lemma exists_added {items : List (ℕ × ℕ × GeofenceOption)} (hm : d.Mirrors b) (hl : Ledger b h)
    (hs : (items.map Prod.fst).Nodup) (hi : (items.map fun p => p.2.1).Nodup)
    (hfree : ∀ p ∈ items, h p.1 = none ∧ b p.2.1 = none) :
    ∃ b', (items.foldl (fun d p => d.set p.2.1 p.1 p.2.2.breachTypeMask) d).Mirrors b' ∧
      Ledger b' (items.foldl Held.add h) ∧ (∀ i p, b i = some p → b' i = some p) ∧
      ∀ i s m, b' i = some (s, m) → b i = some (s, m) ∨ s ∈ items.map Prod.fst := by
  induction items generalizing b d h with
  | nil => exact ⟨b, hm, hl, fun _ _ h => h, fun _ _ _ h => Or.inl h⟩
  | cons item items ih =>
      obtain ⟨s, i, o⟩ := item
      rw [List.map_cons, List.nodup_cons] at hs hi
      obtain ⟨hfs, hfi⟩ := hfree _ List.mem_cons_self
      have hset : (d.set i s o.breachTypeMask).Mirrors
          (Function.update b i (some (s, o.breachTypeMask))) := by
        refine hm.set (fun hid => ?_) fun hses => ?_
        · rw [hm.hasId_iff, hfi] at hid
          cases hid
        · obtain ⟨i', m', hb⟩ := (hm.hasSession_iff s).mp hses
          rw [(hl i' s m').mp hb] at hfs
          cases hfs
      have hledger : Ledger (Function.update b i (some (s, o.breachTypeMask)))
          (h.add (s, i, o)) :=
        hl.update (fun i' m' hno => by rw [hfs] at hno; cases hno)
          fun s' m' hno => by rw [hfi] at hno; cases hno
      obtain ⟨b', hm', hl', hkeep, hnew⟩ := ih hset hledger hs.2 hi.2 fun p hp => by
        obtain ⟨hps, hpi⟩ := hfree p (List.mem_cons_of_mem _ hp)
        have hsne : p.1 ≠ s := fun heq => hs.1 (List.mem_map.mpr ⟨p, hp, heq⟩)
        have hine : p.2.1 ≠ i := fun heq => hi.1 (List.mem_map.mpr ⟨p, hp, heq⟩)
        exact ⟨by rw [Held.add, Function.update_of_ne hsne, hps],
          by rw [Function.update_of_ne hine, hpi]⟩
      refine ⟨b', hm', hl', fun j p hp => hkeep j p ?_, fun j s' m' hb' => ?_⟩
      · rwa [Function.update_of_ne]
        rintro rfl
        rw [hfi] at hp
        cases hp
      · rcases hnew j s' m' hb' with hb | hmem
        · rw [Function.update_apply] at hb
          split_ifs at hb with hj
          · cases hb
            exact Or.inr List.mem_cons_self
          · exact Or.inl hb
        · exact Or.inr (List.mem_cons_of_mem _ hmem)

/-- Geofences that are modified, by their ids in one place and by their sessions in the other. -/
lemma exists_modified {ks : List (ℕ × GeofenceOption)} (hm : e.Mirrors b) (hl : Ledger b h)
    (hk : ∀ k ∈ ks, ∃ m, b k.1 = some (d.getSession k.1, m)) :
    ∃ b', ((ks.map fun k => (k.1, some k.2.breachTypeMask)).foldl
        (GeofenceClient.store d) e).Mirrors b' ∧
      Ledger b' ((ks.map fun k => (d.getSession k.1, k.2)).foldl Held.modify h) ∧
      ∀ i s, (∃ m, b' i = some (s, m)) ↔ ∃ m, b i = some (s, m) := by
  induction ks generalizing b e h with
  | nil => exact ⟨b, hm, hl, fun _ _ => Iff.rfl⟩
  | cons k ks ih =>
      obtain ⟨i, o⟩ := k
      obtain ⟨m, hbi⟩ := hk _ List.mem_cons_self
      have hset : (e.set i (d.getSession i) o.breachTypeMask).Mirrors
          (Function.update b i (some (d.getSession i, o.breachTypeMask))) := by
        refine hm.set (fun _ => ?_) fun _ => hm.getId_of_bound hbi
        rw [BiDict.getSession, hm.forward, hbi]
        rfl
      have hhi : h (d.getSession i) = some (i, m) := (hl _ _ _).mp hbi
      have hledger : Ledger (Function.update b i (some (d.getSession i, o.breachTypeMask)))
          (h.modify (d.getSession i, o)) := by
        rw [Held.modify, hhi]
        refine hl.update (fun i' m' hno => ?_) fun s' m' hno => ?_
        · rw [hhi] at hno
          cases hno
          rfl
        · rw [hbi] at hno
          cases hno
          rfl
      have hsame : ∀ j s, (∃ m, Function.update b i
          (some (d.getSession i, o.breachTypeMask)) j = some (s, m)) ↔ ∃ m, b j = some (s, m) := by
        intro j s
        by_cases hj : j = i
        · subst hj
          simp [hbi, eq_comm]
        · rw [Function.update_of_ne hj]
      obtain ⟨b', hm', hl', hsame'⟩ := ih hset hledger fun k' hk' =>
        (hsame k'.1 _).mpr (hk k' (List.mem_cons_of_mem _ hk'))
      exact ⟨b', hm', hl', fun j s => (hsame' j s).trans (hsame j s)⟩

/-- Geofences that are removed by their sessions. -/
lemma exists_removed {sessions : List ℕ} (hm : d.Mirrors b) (hl : Ledger b h)
    (hn : sessions.Nodup) (hb : ∀ s ∈ sessions, ∃ i m, b i = some (s, m)) :
    ∃ b', (sessions.foldl BiDict.rmBySession d).Mirrors b' ∧
      Ledger b' (sessions.foldl Held.remove h) ∧
      ∀ i s m, b' i = some (s, m) ↔ b i = some (s, m) ∧ s ∉ sessions := by
  induction sessions generalizing b d h with
  | nil => exact ⟨b, hm, hl, fun _ _ _ => by simp⟩
  | cons s sessions ih =>
      rw [List.nodup_cons] at hn
      have hc : (BiDictOp.rmBySession s : BiDictOp ℕ).Careful d :=
        Or.inl ((hm.hasSession_iff s).mpr (hb s List.mem_cons_self))
      have hrm : (d.rmBySession s).Mirrors fun i => (b i).filter fun p => p.1 ≠ s := hm.call hc
      have hledger : Ledger (fun i => (b i).filter fun p => p.1 ≠ s) (h.remove s) := hl.remove
      obtain ⟨b', hm', hl', hb'⟩ := ih hrm hledger hn.2 fun s' hs' => by
        obtain ⟨i, m, hbi⟩ := hb s' (List.mem_cons_of_mem _ hs')
        refine ⟨i, m, ?_⟩
        rw [hbi, Option.filter_some, if_pos]
        exact decide_eq_true fun heq => hn.1 (heq ▸ hs')
      refine ⟨b', hm', hl', fun i s' m => ?_⟩
      rw [hb', Option.filter_eq_some_iff, List.mem_cons, not_or]
      simp only [decide_eq_true_eq]
      tauto

end Ledger

namespace GeofenceSys

/-- What calls behind one another do not share: an added geofence has a session of its own, and
nothing is removed twice. -/
def Apart (c c' : GeofenceCall) : Prop :=
  c'.request = .addGeofences ∨ c.request = .removeGeofences ∧ c'.request = .removeGeofences →
    c.sessions.Disjoint c'.sessions

/-- **The invariant**, with what the ids are bound to. -/
structure Kept (b : ℕ → Option (ℕ × ℕ)) (s : GeofenceSys) : Prop where
  mirrors : s.client.geofenceBiDict.Mirrors b
  ledger : Ledger b (promised s.calls s.held)
  nonzero : ∀ id session mask, b id = some (session, mask) → session ≠ 0
  requests : s.client.requests = s.calls.map GeofenceCall.request
  session : s.calls ≠ [] → s.client.session = geofenceSessionId
  apart : s.calls.Pairwise Apart
  fresh : ∀ call ∈ s.calls, call.request = .addGeofences →
    ∀ session ∈ call.sessions, s.held session = none
  removals : ∀ call ∈ s.calls, call.request = .removeGeofences →
    call.sessions.Nodup ∧ ∀ session ∈ call.sessions, ∃ id mask, b id = some (session, mask)

section Steps

variable {b b' : ℕ → Option (ℕ × ℕ)} {s : GeofenceSys} {a : GeofenceClient}
  {locationAPI callback : Bool}

lemma Kept.init : Kept (fun _ => none) (init locationAPI callback) where
  mirrors := .empty
  ledger _ _ _ := iff_of_false nofun nofun
  nonzero _ _ _ h := nomatch h
  requests := rfl
  session h := absurd rfl h
  apart := .nil
  fresh _ h := absurd h List.not_mem_nil
  removals _ h := absurd h List.not_mem_nil

/-- **A call joins those that wait.** -/
lemma Kept.join {call : GeofenceCall} (h : Kept b s) (hm : a.geofenceBiDict.Mirrors b')
    (hl : Ledger b' (call.promise (promised s.calls s.held)))
    (hnz : ∀ id session mask, b' id = some (session, mask) → session ≠ 0)
    (hkeep : ∀ session, (∃ id mask, b id = some (session, mask)) →
      ∃ id mask, b' id = some (session, mask))
    (hreq : a.requests = s.client.requests ++ [call.request])
    (hses : a.session = geofenceSessionId) (hapart : ∀ c ∈ s.calls, Apart c call)
    (hfresh : call.request = .addGeofences → ∀ session ∈ call.sessions, s.held session = none)
    (hrm : call.request = .removeGeofences → call.sessions.Nodup ∧
      ∀ session ∈ call.sessions, ∃ id mask, b' id = some (session, mask)) :
    Kept b' (s.after (a, some call)) where
  mirrors := hm
  ledger := by
    show Ledger b' (promised (s.calls ++ [call]) s.held)
    rwa [promised_concat]
  nonzero := hnz
  requests := by simp [after, hreq, h.requests]
  session _ := hses
  apart := List.pairwise_append.mpr ⟨h.apart, List.pairwise_singleton _ _, fun c hc c' hc' => by
    obtain rfl := List.mem_singleton.mp hc'
    exact hapart c hc⟩
  fresh c hc := by
    rcases List.mem_append.mp hc with hc | hc
    · exact h.fresh c hc
    · obtain rfl := List.mem_singleton.mp hc
      exact hfresh
  removals c hc hcr := by
    rcases List.mem_append.mp hc with hc | hc
    · obtain ⟨hn, hb⟩ := h.removals c hc hcr
      exact ⟨hn, fun session hs => hkeep session (hb session hs)⟩
    · obtain rfl := List.mem_singleton.mp hc
      exact hrm hcr

/-- A call that the engine is not given changes nothing. -/
lemma Kept.idle (h : Kept b s) (hd : a.geofenceBiDict = s.client.geofenceBiDict)
    (hreq : a.requests = s.client.requests)
    (hses : s.calls ≠ [] → a.session = geofenceSessionId) : Kept b (s.after (a, none)) where
  mirrors := hd ▸ h.mirrors
  ledger := by simpa [after] using h.ledger
  nonzero := h.nonzero
  requests := by simpa [after, hreq] using h.requests
  session hne := hses (by simpa [after] using hne)
  apart := by simpa [after] using h.apart
  fresh := by simpa [after] using h.fresh
  removals := by simpa [after] using h.removals

/-- The queue is only emptied when it is empty. -/
lemma Kept.reset (h : Kept b s) :
    (if s.client.session = geofenceSessionId then s.client.requests else []) =
      s.client.requests := by
  split_ifs with hses
  · rfl
  · rw [h.requests, not_imp_comm.mp h.session hses]
    rfl

/-- An id that resolves is bound. -/
lemma Kept.bound (h : Kept b s) {id : ℕ} (hid : s.client.geofenceBiDict.getSession id > 0) :
    ∃ mask, b id = some (s.client.geofenceBiDict.getSession id, mask) := by
  rw [BiDict.getSession, h.mirrors.forward] at hid ⊢
  cases hb : b id with
  | none => simp [hb] at hid
  | some p => exact ⟨p.2, rfl⟩

lemma Kept.addGeofences (h : Kept b s) {items : List (ℕ × GeofenceOption)}
    {sessions : Option (List ℕ)} (hp : s.Possible (.addGeofences items sessions))
    (hc : s.Careful (.addGeofences items sessions)) :
    ∃ b', Kept b' (s.input (.addGeofences items sessions)) := by
  have hset : (if s.client.session = geofenceSessionId then s.client
      else { s.client with session := geofenceSessionId, requests := [] }) =
        ({ s.client with session := geofenceSessionId } : GeofenceClient) := by
    have hreset := h.reset
    split_ifs at hreset ⊢ with hses
    · rw [← hses]
    · rw [hreset]
  simp only [input, GeofenceClient.locAPIAddGeofences, hset]
  cases hapi : s.client.locationAPI with
  | false => exact ⟨b, by simpa [after] using h⟩
  | true =>
      rw [if_pos rfl]
      cases sessions with
      | none => exact ⟨b, h.idle rfl rfl fun _ => rfl⟩
      | some l =>
          obtain ⟨hlen, hn, hfree⟩ := hp l rfl
          obtain ⟨hin, hid⟩ := hc (by simp)
          have hfst : (l.zip items).map Prod.fst = l := List.map_fst_zip hlen.le
          have hsnd : (l.zip items).map (fun p => p.2.1) = items.map Prod.fst := by
            have hzip : (l.zip items).map Prod.snd = items := List.map_snd_zip hlen.ge
            exact (List.map_map (f := Prod.snd) (g := Prod.fst)).symm.trans
              (congrArg (List.map Prod.fst) hzip)
          have hmem : ∀ p ∈ l.zip items, p.1 ∈ l ∧ p.2 ∈ items := fun p hpm => List.of_mem_zip hpm
          have hl : ((l.zip items).map Prod.fst).Nodup := by rwa [hfst]
          have hi : ((l.zip items).map fun p => p.2.1).Nodup := by rwa [hsnd]
          obtain ⟨b', hm', hl', hkeep, hnew⟩ :=
            exists_added h.mirrors h.ledger hl hi fun p hpm => by
              obtain ⟨-, hheld, hcalls⟩ := hfree p.1 (hmem p hpm).1
              refine ⟨(promised_of_not_mem hcalls).trans hheld, ?_⟩
              have hno := hid p.2 (hmem p hpm).2
              rwa [h.mirrors.hasId_iff, Option.isSome_eq_false_iff,
                Option.isNone_iff_eq_none] at hno
          refine ⟨b', h.join hm' hl' (fun i session m hb => ?_) (fun session hb => ?_) rfl rfl
            (fun c hc _ => ?_) (fun _ session hs => ?_) fun hno => GeofenceRequest.noConfusion hno⟩
          · rcases hnew i session m hb with hb | hs
            · exact h.nonzero i session m hb
            · exact (hfree session (hfst ▸ hs)).1
          · obtain ⟨i, m, hb⟩ := hb
            exact ⟨i, m, hkeep i _ hb⟩
          · intro session hs hs'
            rw [GeofenceCall.sessions, hfst] at hs'
            exact (hfree session hs').2.2 c hc hs
          · rw [GeofenceCall.sessions, hfst] at hs
            exact (hfree session hs).2.1

lemma after_self : s.after (s.client, none) = s := by
  simp [after]

lemma session_of_ready (hr : a.ready = true) : a.session = geofenceSessionId := by
  rw [GeofenceClient.ready, Bool.and_eq_true] at hr
  exact of_decide_eq_true hr.2

lemma Kept.modifyGeofences (h : Kept b s) {items : List (ℕ × GeofenceOption)}
    (hc : s.Careful (.modifyGeofences items)) :
    ∃ b', Kept b' (s.input (.modifyGeofences items)) := by
  simp only [input]
  cases hr : s.client.ready with
  | false =>
      have hcall : s.client.locAPIModifyGeofences items = (s.client, none) :=
        GeofenceClient.callFor_of_not_ready hr
      exact ⟨b, by rwa [hcall, after_self]⟩
  | true =>
      have hses := session_of_ready hr
      obtain ⟨hdict, hready, hcall⟩ := GeofenceClient.callFor_eq items
        (fun o : GeofenceOption => some o.breachTypeMask)
        (fun sessions => .modifyGeofences (sessions.zip (items.map Prod.snd))) hr
      obtain ⟨hreq, -⟩ := GeofenceClient.callFor_requests (a := s.client)
        (items.map fun item => (item.1, some item.2.breachTypeMask))
        fun sessions => .modifyGeofences (sessions.zip (items.map Prod.snd))
      rw [← GeofenceClient.locAPIModifyGeofences] at hdict hready hcall hreq
      generalize s.client.locAPIModifyGeofences items = p at hdict hready hcall hreq
      obtain ⟨a, call⟩ := p
      by_cases hknown : s.client.known items = []
      · rw [if_pos hknown] at hcall
        obtain rfl : call = none := hcall
        refine ⟨b, h.idle (hdict.trans ?_) (by simpa using hreq) fun _ => session_of_ready hready⟩
        rw [GeofenceClient.storeAll, hknown]
        rfl
      · rw [if_neg hknown, GeofenceClient.zip_known_iff.mpr hc] at hcall
        obtain rfl := hcall
        obtain ⟨b', hm', hl', hsame⟩ := exists_modified (d := s.client.geofenceBiDict) h.mirrors
          h.ledger fun k hk => h.bound (GeofenceClient.getSession_of_known hk)
        have hma : a.geofenceBiDict.Mirrors b' := by
          rw [hdict]
          exact hm'
        refine ⟨b', h.join hma hl' (fun i session m hb => ?_) (fun session hb => ?_)
          (by simpa using hreq) (session_of_ready hready) (fun _ _ hno => ?_)
          (fun hno => GeofenceRequest.noConfusion hno) fun hno => GeofenceRequest.noConfusion hno⟩
        · obtain ⟨m', hb'⟩ := (hsame i session).mp ⟨m, hb⟩
          exact h.nonzero i session m' hb'
        · obtain ⟨i, hb⟩ := hb
          exact ⟨i, (hsame i session).mpr hb⟩
        · rcases hno with hno | hno
          · cases hno
          · cases hno.2

/-- What a call that removes geofences does: the dictionary stays, and the engine is given the
sessions of the ids that resolve. -/
lemma removeGeofences_eq (ids : List ℕ) (hr : a.ready = true) :
    (a.locAPIRemoveGeofences ids).1.geofenceBiDict = a.geofenceBiDict ∧
      (a.locAPIRemoveGeofences ids).1.ready = true ∧
      (a.locAPIRemoveGeofences ids).2 =
        if (ids.filter fun id => a.geofenceBiDict.getSession id > 0) = [] then none
        else some (.removeGeofences ((ids.filter fun id => a.geofenceBiDict.getSession id > 0).map
          a.geofenceBiDict.getSession)) := by
  have hitems : ids.map (fun id => (id, (none : Option ℕ))) =
      (ids.map fun id => (id, ())).map fun item => (item.1, none) := by
    rw [List.map_map]
    rfl
  have hstore : a.storeAll (fun _ => none) (ids.map fun id => (id, ())) = a.geofenceBiDict := by
    rw [GeofenceClient.storeAll]
    generalize a.known (ids.map fun id => (id, ())) = ks
    induction ks with
    | nil => rfl
    | cons k ks ih => exact ih
  have hknown : a.known (ids.map fun id => (id, ())) =
      (ids.filter fun id => a.geofenceBiDict.getSession id > 0).map fun id => (id, ()) := by
    rw [GeofenceClient.known, List.filter_map]
    rfl
  obtain ⟨hdict, hready, hcall⟩ := GeofenceClient.callFor_eq (ids.map fun id => (id, ()))
    (fun _ => none) .removeGeofences hr
  rw [← hitems, ← GeofenceClient.locAPIRemoveGeofences] at hdict hready hcall
  refine ⟨hdict.trans hstore, hready, hcall.trans ?_⟩
  simp only [hknown, List.map_map, List.map_eq_nil_iff]
  rfl

lemma Kept.removeGeofences (h : Kept b s) {ids : List ℕ} (hc : s.Careful (.removeGeofences ids)) :
    ∃ b', Kept b' (s.input (.removeGeofences ids)) := by
  simp only [input]
  cases hr : s.client.ready with
  | false =>
      have hcall : s.client.locAPIRemoveGeofences ids = (s.client, none) :=
        GeofenceClient.callFor_of_not_ready hr
      exact ⟨b, by rwa [hcall, after_self]⟩
  | true =>
      obtain ⟨hin, hout⟩ := hc
      obtain ⟨hdict, hready, hcall⟩ := removeGeofences_eq ids hr
      obtain ⟨hreq, -⟩ := GeofenceClient.callFor_requests (a := s.client)
        (ids.map fun id => (id, none)) .removeGeofences
      rw [← GeofenceClient.locAPIRemoveGeofences] at hreq
      generalize s.client.locAPIRemoveGeofences ids = p at hdict hready hcall hreq
      obtain ⟨a, call⟩ := p
      by_cases hknown : (ids.filter fun id => s.client.geofenceBiDict.getSession id > 0) = []
      · rw [if_pos hknown] at hcall
        obtain rfl : call = none := hcall
        exact ⟨b, h.idle hdict (by simpa using hreq) fun _ => session_of_ready hready⟩
      · rw [if_neg hknown] at hcall
        obtain rfl := hcall
        have hmem : ∀ id ∈ ids.filter fun id => s.client.geofenceBiDict.getSession id > 0,
            id ∈ ids ∧ ∃ m, b id = some (s.client.geofenceBiDict.getSession id, m) := fun id hid =>
          ⟨List.mem_of_mem_filter hid, h.bound (by simpa using (List.mem_filter.mp hid).2)⟩
        refine ⟨b, h.join (by rw [hdict]; exact h.mirrors) h.ledger h.nonzero
          (fun _ hb => hb) (by simpa using hreq) (session_of_ready hready)
          (fun c hc hr session hs hs' => ?_) (fun hno => GeofenceRequest.noConfusion hno)
          fun _ => ⟨?_, fun session hs => ?_⟩⟩
        · obtain ⟨id, hid, rfl⟩ := List.mem_map.mp hs'
          refine hout id (hmem id hid).1 c hc ?_ hs
          rcases hr with hr | hr
          · cases hr
          · exact hr.1
        · refine List.Nodup.map_on (fun i hi j hj hij => ?_) (hin.filter _)
          obtain ⟨-, m, hbi⟩ := hmem i hi
          obtain ⟨-, m', hbj⟩ := hmem j hj
          rw [hij] at hbi
          exact h.mirrors.unique hbi hbj
        · obtain ⟨id, hid, rfl⟩ := List.mem_map.mp hs
          exact ⟨id, (hmem id hid).2⟩

/-- The callback of the oldest call takes its request from the queue. -/
lemma Kept.popped {client : GeofenceClient} {held : Held} {c : GeofenceCall}
    {rest : List GeofenceCall} (h : Kept b ⟨client, held, c :: rest⟩) :
    (client.onCollectiveResponseCb c.sessions).requests = rest.map GeofenceCall.request ∧
      (client.onCollectiveResponseCb c.sessions).session = geofenceSessionId ∧
      (client.onCollectiveResponseCb c.sessions).geofenceBiDict =
        if c.request = .removeGeofences then
          c.sessions.foldl BiDict.rmBySession client.geofenceBiDict
        else client.geofenceBiDict := by
  have hses : client.session = geofenceSessionId := h.session (List.cons_ne_nil _ _)
  have hreq : client.requests = c.request :: rest.map GeofenceCall.request := h.requests
  refine ⟨?_, ?_, ?_⟩ <;> simp [GeofenceClient.onCollectiveResponseCb, hses, hreq]

/-- The oldest call is answered, and it was a removal: what it removed is taken from the map. -/
lemma Kept.answerRemoval {client : GeofenceClient} {held : Held} {sessions : List ℕ}
    {rest : List GeofenceCall} (h : Kept b ⟨client, held, .removeGeofences sessions :: rest⟩) :
    ∃ b', Kept b' ⟨client.onCollectiveResponseCb sessions, sessions.foldl Held.remove held,
      rest⟩ := by
  obtain ⟨hreq, hses, hdict⟩ := h.popped
  obtain ⟨hapart, hrest⟩ := List.pairwise_cons.mp h.apart
  obtain ⟨hn, hb⟩ := h.removals _ List.mem_cons_self rfl
  obtain ⟨b', hm', hl', hb'⟩ := exists_removed h.mirrors h.ledger hn hb
  have hadd : ∀ c ∈ rest, c.request = .addGeofences → sessions.Disjoint c.sessions :=
    fun c hc hr => hapart c hc (Or.inl hr)
  refine ⟨b', ⟨?_, ?_, ?_, hreq, fun _ => hses, hrest, ?_, ?_⟩⟩
  · rw [show (client.onCollectiveResponseCb sessions).geofenceBiDict =
      sessions.foldl BiDict.rmBySession client.geofenceBiDict from hdict.trans (if_pos rfl)]
    exact hm'
  · show Ledger b' (promised rest (sessions.foldl Held.remove held))
    rw [promised_remove hadd]
    exact hl'
  · exact fun i session m hb => h.nonzero i session m ((hb' i session m).mp hb).1
  · intro c hc hr session hs
    show sessions.foldl Held.remove held session = none
    have hfree : held session = none := h.fresh c (List.mem_cons_of_mem _ hc) hr session hs
    rw [foldl_remove, hfree, ite_self]
  · intro c hc hr
    obtain ⟨hn', hbound⟩ := h.removals c (List.mem_cons_of_mem _ hc) hr
    refine ⟨hn', fun session hs => ?_⟩
    obtain ⟨i, m, hbi⟩ := hbound session hs
    exact ⟨i, m, (hb' i session m).mpr ⟨hbi, fun hno => hapart c hc (Or.inr ⟨rfl, hr⟩) hno hs⟩⟩

/-- The oldest call is answered. -/
lemma Kept.answer (h : Kept b s) {k : ℕ} {errors : List LocationError}
    (hp : s.Possible (.answer k errors)) (hc : s.Careful (.answer k errors)) :
    ∃ b', Kept b' (s.input (.answer k errors)) := by
  obtain ⟨rfl, hsuccess⟩ := hc
  obtain ⟨call, hcall, hlen⟩ := hp
  obtain ⟨client, held, calls⟩ := s
  cases calls with
  | nil => simp at hcall
  | cons c rest =>
      obtain rfl : c = call := by simpa using hcall
      have hs : ∀ p ∈ c.sessions.zip errors,
          p.2 = .success ∨ c.request = .modifyGeofences ∧ held p.1 = none := hsuccess c rfl
      have hinput : input ⟨client, held, c :: rest⟩ (.answer 0 errors) =
          ⟨client.onCollectiveResponseCb c.sessions, c.perform errors held, rest⟩ := rfl
      rw [hinput]
      by_cases hrm : c.request = .removeGeofences
      · obtain ⟨sessions, rfl⟩ : ∃ sessions, c = .removeGeofences sessions := by
          cases c <;> simp [GeofenceCall.request] at hrm ⊢
        have hdone : (GeofenceCall.removeGeofences sessions).perform errors held =
            sessions.foldl Held.remove held := answer_removed hlen hs
        rw [hdone]
        exact h.answerRemoval
      · obtain ⟨hreq, hses, hdict⟩ := h.popped
        obtain ⟨hapart, hrest⟩ := List.pairwise_cons.mp h.apart
        rw [if_neg hrm] at hdict
        rw [answer_promised hlen hs hrm]
        refine ⟨b, ⟨?_, h.ledger, h.nonzero, hreq, fun _ => hses, hrest, ?_, ?_⟩⟩
        · rw [hdict]
          exact h.mirrors
        · intro c' hc' hr session hs
          have hnot : session ∉ c.sessions := fun hno => hapart c' hc' (Or.inl hr) hno hs
          exact (promise_of_not_mem hnot).trans
            (h.fresh c' (List.mem_cons_of_mem _ hc') hr session hs)
        · exact fun c' hc' => h.removals c' (List.mem_cons_of_mem _ hc')

/-- **The step lemma**, for careful inputs. -/
lemma Kept.step {s' : GeofenceSys} {i : GeofenceInput} (h : Kept b s) (hst : s.Step i s')
    (hc : s.Careful i) : ∃ b', Kept b' s' := by
  obtain ⟨hp, rfl⟩ := hst
  cases i with
  | addGeofences items sessions => exact h.addGeofences hp hc
  | removeGeofences ids => exact h.removeGeofences hc
  | modifyGeofences items => exact h.modifyGeofences hc
  | answer k errors => exact h.answer hp hc
  | breach type sessions => exact ⟨b, h⟩

/-- The invariant in careful runs. -/
lemma exists_kept {is : List GeofenceInput}
    (hr : Run (fun s i s' => s.Step i s' ∧ s.Careful i) (GeofenceSys.init locationAPI callback)
      is s) :
    ∃ b, Kept b s :=
  hr.invariant (P := fun s => ∃ b, Kept b s) (fun _ _ _ ⟨_, h⟩ hst => h.step hst.1 hst.2)
    ⟨_, Kept.init⟩

/-! ## Results -/

/-- A session that no call waits for is bound to what the engine holds there. -/
lemma Kept.matches (h : Kept b s) : s.Matches := by
  intro id session hne hquiet
  have hheld := promised_of_not_mem (h := s.held) hquiet
  rw [← hheld, BiDict.getSession, h.mirrors.forward]
  constructor
  · intro hs
    cases hb : b id with
    | none => exact absurd (by simpa [hb] using hs) hne.symm
    | some p =>
        obtain rfl : p.1 = session := by simpa [hb] using hs
        exact ⟨p.2, (h.ledger id p.1 p.2).mp hb⟩
  · rintro ⟨mask, hmask⟩
    rw [(h.ledger id session mask).mpr hmask]
    rfl

/-- A session of the engine that is not being modified is bound as the engine has it. -/
lemma Kept.bound_of_held (h : Kept b s) {id session mask : ℕ}
    (hheld : s.held session = some (id, mask))
    (hmod : ∀ call ∈ s.calls, call.request = .modifyGeofences → session ∉ call.sessions) :
    b id = some (session, mask) := by
  rw [h.ledger id session mask, ← hheld]
  have hcalls : ∀ call ∈ s.calls, call.promise s.held session = s.held session := by
    intro call hc
    cases hreq : call with
    | addGeofences items =>
        refine promise_of_not_mem fun hs => ?_
        have hnone := h.fresh call hc (by rw [hreq]; rfl) session (hreq ▸ hs)
        rw [hheld] at hnone
        cases hnone
    | modifyGeofences items =>
        exact promise_of_not_mem (hreq ▸ hmod call hc (by rw [hreq]; rfl))
    | removeGeofences _ | pauseGeofences _ | resumeGeofences _ => rfl
  have hgo : ∀ calls : List GeofenceCall, (∀ call ∈ calls, call ∈ s.calls) →
      promised calls s.held session = s.held session := by
    intro calls hsub
    induction calls with
    | nil => rfl
    | cons call calls ih =>
        have hcall := hcalls call (hsub call List.mem_cons_self)
        rw [promised, List.foldl_cons, ← promised, promised_congr hcall]
        exact ih fun c hc => hsub c (List.mem_cons_of_mem _ hc)
  exact hgo s.calls fun _ hc => hc

lemma Kept.notifies (h : Kept b s) {type : GeofenceBreachType} {sessions : List ℕ}
    (hp : s.Possible (.breach type sessions)) (hc : s.Careful (.breach type sessions)) :
    s.Notifies type sessions := by
  intro hcb hmod
  have hbound : ∀ session ∈ sessions, ∃ id mask, s.held session = some (id, mask) ∧
      b id = some (session, mask) ∧ mask.testBit type.bit = true := by
    intro session hs
    obtain ⟨id, mask, hheld, hbit⟩ := hp session hs
    exact ⟨id, mask, hheld, h.bound_of_held hheld (hmod session hs), hbit⟩
  have hkeep : sessions.filter (fun session => GeofenceClient.wants type
      (s.client.geofenceBiDict.getExtBySession session)) = sessions := by
    refine List.filter_eq_self.mpr fun session hs => ?_
    obtain ⟨id, mask, -, hb, hbit⟩ := hbound session hs
    have hext := (h.mirrors.ext session mask).mpr ⟨id, hb⟩
    rw [BiDict.getExtBySession, hext, Option.getD_some, GeofenceClient.wants]
    rcases hc with rfl | rfl
    · simpa [GeofenceBreachType.bit] using hbit
    · simpa [GeofenceBreachType.bit] using hbit
  rw [GeofenceClient.beforeGeofenceBreachCb, if_pos hcb, hkeep]
  refine congrArg some (List.map_congr_left fun session hs => ?_)
  obtain ⟨id, mask, hheld, hb, -⟩ := hbound session hs
  rw [h.mirrors.getId_of_bound hb, hheld]
  rfl

end Steps

end GeofenceSys

open GeofenceSys in
/-- **The dictionary is in step with the engine when nothing is refused.**  In every run of calls,
answers and notifications whose inputs are careful: an id resolves to a session that no call waits
for just if the engine holds its geofence there, and every notification reaches the client with the
ids that the geofences were added for. -/
theorem dictionary_matches {locationAPI callback : Bool} {is : List GeofenceInput} {s : GeofenceSys}
    (hr : Run (fun s i s' => s.Step i s' ∧ s.Careful i) (init locationAPI callback) is s) :
    s.Matches ∧ ∀ type sessions, s.Possible (.breach type sessions) →
      s.Careful (.breach type sessions) → s.Notifies type sessions := by
  obtain ⟨b, h⟩ := exists_kept hr
  exact ⟨h.matches, fun _ _ hp hc => h.notifies hp hc⟩

namespace GeofenceSys

/-- Geofence 5 is added under session 7, with notifications for entering it. -/
def addOne : GeofenceInput := .addGeofences [(5, ⟨1, 0, 0⟩)] (some [7])

lemma possible_addOne : (init true true).Possible addOne := by
  intro l hl
  cases hl
  simp [init]

lemma careful_addOne : (init true true).Careful addOne := by
  intro _
  simp [init, BiDict.hasId, BiDict.empty]

end GeofenceSys

open GeofenceSys in
/-- A geofence that the engine has refused to add stays in the dictionary. -/
theorem refused_geofence_resolves : ∃ s : GeofenceSys,
    Run Step (init true true) [addOne, .answer 0 [.generalFailure]] s ∧
      s.client.geofenceBiDict.getSession 5 = 7 ∧ s.held 7 = none ∧ ¬s.Matches := by
  refine ⟨_, .snoc (.snoc (.nil _) ⟨possible_addOne, rfl⟩) ⟨⟨_, rfl, rfl⟩, rfl⟩,
    by decide +kernel, by decide +kernel, fun h => ?_⟩
  obtain ⟨mask, hmask⟩ := (h 5 7 (by decide) (by decide +kernel)).mp (by decide +kernel)
  have hnone : some (5, mask) = none := hmask.symm.trans (by decide +kernel)
  cases hnone

open GeofenceSys in
/-- A geofence that is added and entered. -/
theorem dictionary_matches_one : ∃ s : GeofenceSys,
    Run (fun s i s' => s.Step i s' ∧ s.Careful i) (init true true)
      [addOne, .answer 0 [.success]] s ∧
    s.Matches ∧ s.client.beforeGeofenceBreachCb .enter [7] = some [5] := by
  have hr : Run (fun s i s' => s.Step i s' ∧ s.Careful i) (init true true)
      [addOne, .answer 0 [.success]] _ :=
    .snoc (.snoc (.nil _) ⟨⟨possible_addOne, rfl⟩, careful_addOne⟩)
      ⟨⟨⟨_, rfl, rfl⟩, rfl⟩, rfl, fun call hc p hp => Or.inl ?_⟩
  · obtain ⟨hm, hn⟩ := dictionary_matches hr
    refine ⟨_, hr, hm, ?_⟩
    have hp : ∀ session ∈ [7], ∃ id mask, (((init true true).input addOne).input
        (.answer 0 [.success])).held session = some (id, mask) ∧
          mask.testBit GeofenceBreachType.enter.bit = true := by
      intro session hs
      obtain rfl := List.mem_singleton.mp hs
      exact ⟨5, 1, by decide +kernel, by decide⟩
    exact hn .enter [7] hp (Or.inl rfl) rfl fun _ _ call hc => absurd hc List.not_mem_nil
  · cases hc
    obtain rfl := List.mem_singleton.mp hp
    rfl

end Gps.Location
