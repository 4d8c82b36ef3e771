import OcnDevice.Gps.Ni.Model

/-!
# Network-initiated requests do not mix

**What ends a request.**  The user has said it, for the id of the request and while the request was
pending (`Said`), or its own time is over (`TimedOut`); or an emergency request overrides it.

**Records and threads.**  A record that holds a request holds all of it (`Pending`), and its thread
has not decided yet; a record whose thread has decided is empty until the thread is through
(`ThreadOk`).

**What goes wrong.**  A response is written without another look at the record, and a request is
accepted while the last thread has not cleared the record.  `Careful` says that neither happens.
-/

namespace Gps.Ni

/-- The thread has unlocked its record and not cleared it. -/
def ThreadPc.isUnlocked : ThreadPc → Bool
  | .unlocked _ => true
  | _ => false

/-- The record that a message will write next, and the request that it saw there. -/
def MsgPc.seen : MsgPc → Option (SessionKind × ℕ)
  | .idle => none
  | .overriding overridden _ _ => some (.session, overridden)
  | .responding kind target _ => some (kind, target)

namespace GnssAdapter

/-! ## What is claimed -/

section Claimed

variable (a : GnssAdapter)

/-- The user gave the response for the id of the request while it was pending. -/
def Said (n : ℕ) (resp : GnssNiResponse) : Prop :=
  ∃ r, a.requests[n]? = some r ∧ (⟨r.reqID, n, resp⟩ : Given) ∈ a.given

/-- The whole time of the request is over. -/
def TimedOut (n time : ℕ) : Prop :=
  ∃ r, a.requests[n]? = some r ∧ r.acceptedAt + r.timeout ≤ time

/-- The response that a request may be answered with. -/
def Ends (n : ℕ) (resp : GnssNiResponse) (time : ℕ) : Prop :=
  a.Said n resp ∨ resp = .noResponse ∧ a.TimedOut n time

/-- The requests that have been answered or dropped. -/
def ended : List ℕ := a.answers.map Answer.number ++ a.ignored

/-- The record holds the request, with its own id and time, and a response that has been received is
its own. -/
structure Pending (kind : SessionKind) (s : NiSession) (n : ℕ) : Prop where
  request : ∃ r, a.requests[n]? = some r ∧ r.kind = kind ∧ s.reqID = r.reqID ∧
    s.respTimeLeft = r.timeout
  received : s.respRecvd = true → a.Said n s.resp ∨ s.resp = .ignore ∧ n ∈ a.overridden
  running : n ∉ a.ended

/-- Requests do not mix: each ends at most once, it is answered only with what was said to it or when
its own time is over, it is dropped only when that was said or it was overridden, and while it is
pending nothing of another request is in its record. -/
structure Unmixed : Prop where
  once : a.ended.Nodup
  right : ∀ x ∈ a.answers, a.Ends x.number x.resp x.time
  dropped : ∀ n ∈ a.ignored, a.Said n .ignore ∨ n ∈ a.overridden
  intact : ∀ kind n, (a.niData kind).rawRequest = some n → a.Pending kind (a.niData kind) n

end Claimed

/-! ## The condition on the inputs -/

section Condition

variable (a : GnssAdapter)

/-- No thread of the record has unlocked it and not yet cleared it. -/
def Cleared (kind : SessionKind) : Prop :=
  ∀ n < a.requests.length, ∀ t ∈ a.thread n, t.kind = kind → t.pc.isUnlocked = false

/-- A request that is accepted has data and a time that fits, and finds its record cleared; a response
that is written finds the request there for which it was looked up. -/
def Careful : Input → Prop
  | .requestNiNotify kind timeout data _ => a.niClients ≠ [] → a.inProgress kind = false →
      data = true ∧ respTime timeout < 2 ^ 32 ∧ a.Cleared kind
  | .proceed => ∀ p ∈ a.msgPc.seen, (a.niData p.1).rawRequest = some p.2
  | _ => True

/-- A step on an input that meets the condition. -/
def CarefulStep (i : Input) (a' : GnssAdapter) : Prop := Step a i a' ∧ a.Careful i

end Condition

/-! ## The invariant -/

section Invariant

variable (a : GnssAdapter)

/-- A record: without a request, no response has been received. -/
structure SessionOk (kind : SessionKind) (s : NiSession) : Prop where
  empty : s.rawRequest = none → s.respRecvd = false
  pending : ∀ n, s.rawRequest = some n → a.Pending kind s n

/-- A thread: until it decides its request is pending, and when it has decided the record is empty. -/
def ThreadOk (n : ℕ) (t : NiThread) : Prop :=
  match t.pc with
  | .created => (a.niData t.kind).rawRequest = some n
  | .waiting expire => (a.niData t.kind).rawRequest = some n ∧ a.TimedOut n expire
  | .unlocked answer => n < a.requests.length ∧ (a.niData t.kind).rawRequest = none ∧
      (∀ kind, (a.niData kind).rawRequest ≠ some n) ∧
      ∀ resp m, answer = some (resp, m) → m = n ∧ n ∉ a.ended ∧ a.Ends n resp a.now

/-- A response that goes on was given. -/
def MsgOk : MsgPc → Prop
  | .idle => True
  | .overriding overridden target response =>
      overridden ∈ a.overridden ∧ a.Said target response.resp
  | .responding _ target response => a.Said target response.resp

structure Inv : Prop where
  sessions : ∀ kind, a.SessionOk kind (a.niData kind)
  threads : ∀ n t, a.thread n = some t → a.ThreadOk n t
  msg : a.MsgOk a.msgPc
  accepted : ∀ r ∈ a.requests, r.acceptedAt ≤ a.now
  numbered : ∀ n ∈ a.ended, n < a.requests.length
  once : a.ended.Nodup
  right : ∀ x ∈ a.answers, a.Ends x.number x.resp x.time
  dropped : ∀ n ∈ a.ignored, a.Said n .ignore ∨ n ∈ a.overridden

end Invariant

variable {a a' : GnssAdapter} {n m : ℕ} {kind : SessionKind} {s : NiSession} {t : NiThread}
  {resp : GnssNiResponse}

lemma Inv.init : init.Inv where
  sessions := fun kind => ⟨fun _ => rfl, fun n hn => by cases hn⟩
  threads := by
    intro n t ht
    cases ht
  msg := trivial
  accepted := by
    intro r hr
    cases hr
  numbered := by
    intro n hn
    cases hn
  once := List.nodup_nil
  right := by
    intro x hx
    cases hx
  dropped := by
    intro n hn
    cases hn

lemma Inv.unmixed (h : a.Inv) : a.Unmixed :=
  ⟨h.once, h.right, h.dropped, fun kind n hn => (h.sessions kind).pending n hn⟩

lemma Pending.lt (h : a.Pending kind s n) : n < a.requests.length := by
  obtain ⟨r, hr, -⟩ := h.request
  exact (List.getElem?_eq_some_iff.mp hr).1

/-- A request is pending in its own record only. -/
lemma Inv.kind_unique (h : a.Inv) {kind' : SessionKind} (hn : (a.niData kind).rawRequest = some n)
    (hn' : (a.niData kind').rawRequest = some n) : kind = kind' := by
  obtain ⟨r, hr, hk, -⟩ := ((h.sessions kind).pending n hn).request
  obtain ⟨r', hr', hk', -⟩ := ((h.sessions kind').pending n hn').request
  rw [hr] at hr'
  cases hr'
  exact hk.symm.trans hk'

/-! ## What only grows -/

/-- Requests, responses and time go on. -/
structure Extends (a a' : GnssAdapter) : Prop where
  requests : a.requests <+: a'.requests
  given : a.given ⊆ a'.given
  overridden : a.overridden ⊆ a'.overridden
  now : a.now ≤ a'.now

lemma Extends.refl (a : GnssAdapter) : a.Extends a :=
  ⟨List.prefix_rfl, List.Subset.refl _, List.Subset.refl _, le_rfl⟩

lemma Extends.getElem? (h : a.Extends a') {r : NiRequest} (hr : a.requests[n]? = some r) :
    a'.requests[n]? = some r := by
  obtain ⟨l, hl⟩ := h.requests
  rw [← hl, List.getElem?_append_left (List.getElem?_eq_some_iff.mp hr).1, hr]

lemma Said.mono (h : a.Extends a') (hs : a.Said n resp) : a'.Said n resp := by
  obtain ⟨r, hr, hg⟩ := hs
  exact ⟨r, h.getElem? hr, h.given hg⟩

lemma TimedOut.mono {time time' : ℕ} (h : a.Extends a') (ht : a.TimedOut n time)
    (hle : time ≤ time') : a'.TimedOut n time' := by
  obtain ⟨r, hr, hle'⟩ := ht
  exact ⟨r, h.getElem? hr, hle'.trans hle⟩

lemma Ends.mono {time time' : ℕ} (h : a.Extends a') (he : a.Ends n resp time)
    (hle : time ≤ time') : a'.Ends n resp time' :=
  he.imp (fun hs => hs.mono h) fun ht => ⟨ht.1, ht.2.mono h hle⟩

lemma Pending.mono (h : a.Extends a') (hp : a.Pending kind s n) (hrun : n ∉ a'.ended) :
    a'.Pending kind s n := by
  obtain ⟨r, hr, hk⟩ := hp.request
  refine ⟨⟨r, h.getElem? hr, hk⟩, fun hrec => ?_, hrun⟩
  exact (hp.received hrec).imp (fun hs => hs.mono h) fun ho => ⟨ho.1, h.overridden ho.2⟩

lemma SessionOk.mono (h : a.Extends a') (hs : a.SessionOk kind s)
    (hrun : ∀ n, s.rawRequest = some n → n ∉ a'.ended) : a'.SessionOk kind s :=
  ⟨hs.empty, fun n hn => (hs.pending n hn).mono h (hrun n hn)⟩

lemma MsgOk.mono {pc : MsgPc} (h : a.Extends a') (hm : a.MsgOk pc) : a'.MsgOk pc := by
  cases pc with
  | idle => trivial
  | overriding overridden target response => exact ⟨h.overridden hm.1, hm.2.mono h⟩
  | responding kind target response => exact Said.mono h hm

/-! ## Threads and records -/

/-- The request of a thread is pending, or the thread has decided and the record is empty. -/
lemma ThreadOk.raw (h : a.ThreadOk n t) : (a.niData t.kind).rawRequest = some n ∨
    (a.niData t.kind).rawRequest = none ∧ ∃ answer, t.pc = .unlocked answer := by
  obtain ⟨k, pc⟩ := t
  cases pc with
  | created => exact Or.inl h
  | waiting expire => exact Or.inl h.1
  | unlocked answer => exact Or.inr ⟨h.2.1, answer, rfl⟩

/-- A thread other than that of request `n`, when `n` and one record are concerned. -/
lemma ThreadOk.frame (h : a.ThreadOk m t) (hm : m ≠ n) (hext : a.Extends a')
    (hother : ∀ k, k ≠ kind → (a'.niData k).rawRequest = (a.niData k).rawRequest)
    (hkind : t.kind = kind → (a'.niData kind).rawRequest = (a.niData kind).rawRequest)
    (hnew : (a'.niData kind).rawRequest = some m → (a.niData kind).rawRequest = some m)
    (hended : m ∈ a'.ended → m ∈ a.ended ∨ m = n) : a'.ThreadOk m t := by
  have hraw : (a'.niData t.kind).rawRequest = (a.niData t.kind).rawRequest := by
    by_cases hk : t.kind = kind
    · rw [hk, hkind hk]
    · exact hother _ hk
  obtain ⟨k, pc⟩ := t
  cases pc with
  | created => exact hraw.trans h
  | waiting expire => exact ⟨hraw.trans h.1, h.2.mono hext le_rfl⟩
  | unlocked answer =>
      obtain ⟨hlt, hnone, hne, hans⟩ := h
      refine ⟨hlt.trans_le hext.requests.length_le, hraw.trans hnone, fun k' hk' => ?_,
        fun resp m' hm' => ?_⟩
      · by_cases hkk : k' = kind
        · subst hkk
          exact hne k' (hnew hk')
        · exact hne k' ((hother k' hkk).symm.trans hk')
      · obtain ⟨rfl, hrun, hends⟩ := hans resp m' hm'
        exact ⟨rfl, fun hend => (hended hend).elim hrun hm, hends.mono hext hext.now⟩

/-- A record other than the one concerned. -/
lemma Inv.frame (h : a.Inv) {k : SessionKind} (hext : a.Extends a')
    (hn : (a.niData k).rawRequest ≠ some n) (hended : ∀ m ∈ a'.ended, m ∈ a.ended ∨ m = n) :
    a'.SessionOk k (a.niData k) := by
  refine (h.sessions k).mono hext fun m hm hend => ?_
  rcases hended m hend with hold | rfl
  · exact ((h.sessions k).pending m hm).running hold
  · exact hn hm

/-- **A step that leaves records, threads and outcomes alone.** -/
lemma Inv.extend (h : a.Inv) (he : a.Extends a') (hdata : a'.niData = a.niData)
    (hthread : a'.thread = a.thread) (hreq : a'.requests = a.requests)
    (hans : a'.answers = a.answers) (hign : a'.ignored = a.ignored) (hmsg : a'.MsgOk a'.msgPc) :
    a'.Inv := by
  have hended : a'.ended = a.ended := by rw [ended, ended, hans, hign]
  constructor
  · intro kind
    rw [hdata]
    exact (h.sessions kind).mono he fun n hn =>
      hended ▸ ((h.sessions kind).pending n hn).running
  · intro n t ht
    rw [hthread] at ht
    have hok := h.threads n t ht
    obtain ⟨kind, pc⟩ := t
    cases pc with
    | created =>
        rw [ThreadOk, hdata]
        exact hok
    | waiting expire =>
        rw [ThreadOk, hdata]
        exact ⟨hok.1, hok.2.mono he le_rfl⟩
    | unlocked answer =>
        obtain ⟨hlt, hnone, hne, hans'⟩ := hok
        rw [ThreadOk, hdata, hreq]
        refine ⟨hlt, hnone, hne, fun resp m hm => ?_⟩
        obtain ⟨rfl, hrun, hends⟩ := hans' resp m hm
        exact ⟨rfl, hended ▸ hrun, hends.mono he he.now⟩
  · exact hmsg
  · intro r hr
    rw [hreq] at hr
    exact (h.accepted r hr).trans he.now
  · rw [hended, hreq]
    exact h.numbered
  · rw [hended]
    exact h.once
  · intro x hx
    rw [hans] at hx
    exact (h.right x hx).mono he le_rfl
  · intro n hn
    rw [hign] at hn
    exact (h.dropped n hn).imp (fun hs => hs.mono he) fun ho => he.overridden ho

/-- A message that only hears. -/
lemma Inv.hear (h : a.Inv) {given : List Given} {overridden : List ℕ} {pc : MsgPc}
    {niClients : List ℕ} {reports : List (ℕ × LocationError × ℕ)} {now : ℕ}
    (hgiven : a.given ⊆ given) (hover : a.overridden ⊆ overridden) (hnow : a.now ≤ now)
    (hmsg : ({ a with given := given, overridden := overridden } : GnssAdapter).MsgOk pc) :
    ({ a with
      niClients := niClients
      given := given
      overridden := overridden
      msgPc := pc
      now := now
      reports := reports } : GnssAdapter).Inv :=
  h.extend ⟨List.prefix_rfl, hgiven, hover, hnow⟩ rfl rfl rfl rfl rfl (by cases pc <;> exact hmsg)

/-! ## The messages -/

/-- The response that is given for the id of a pending request is the response to that request. -/
lemma Inv.said_of_pendingUnder (h : a.Inv) {id target : ℕ} {given : List Given}
    (hp : a.pendingUnder kind id = some target) (hmem : (⟨id, target, resp⟩ : Given) ∈ given) :
    ({ a with given := given } : GnssAdapter).Said target resp := by
  rw [pendingUnder] at hp
  split_ifs at hp with hid
  obtain ⟨r, hr, -, hreq, -⟩ := ((h.sessions kind).pending target hp).request
  exact ⟨r, hr, by rwa [← hreq, ← hid]⟩

lemma Inv.gnssNiResponse (h : a.Inv) (response : UserResponse) :
    (a.gnssNiResponse response).Inv := by
  have hreport : (a.reportResponse response.client .idUnknown response.id).Inv :=
    h.hear (List.Subset.refl _) (List.Subset.refl _) le_rfl h.msg
  have hsub : ∀ target, a.given ⊆ a.given ++ [⟨response.id, target, response.resp⟩] :=
    fun target => List.subset_append_left ..
  have hsaid : ∀ {kind target}, a.pendingUnder kind response.id = some target →
      ({ a with given := a.given ++ [⟨response.id, target, response.resp⟩] } : GnssAdapter).Said
        target response.resp := fun hp => h.said_of_pendingUnder hp (by simp)
  rw [GnssAdapter.gnssNiResponse]
  by_cases hclient : a.niClients.contains response.client = true
  · rw [if_pos hclient]
    cases hes : a.pendingUnder .sessionEs response.id with
    | some target =>
        dsimp only
        cases (if response.resp = .accept then (a.niData .session).rawRequest else none) with
        | some overridden =>
            exact h.hear (hsub target) (List.subset_append_left ..) le_rfl
              ⟨by simp, hsaid hes⟩
        | none => exact h.hear (hsub target) (List.Subset.refl _) le_rfl (hsaid hes)
    | none =>
        dsimp only
        cases hns : a.pendingUnder .session response.id with
        | some target => exact h.hear (hsub target) (List.Subset.refl _) le_rfl (hsaid hns)
        | none => exact hreport
  · rw [if_neg hclient]
    exact hreport

/-- A response is written that ends the request in the record. -/
lemma Inv.respond (h : a.Inv) (hn : (a.niData kind).rawRequest = some n)
    (hends : a.Said n resp ∨ resp = .ignore ∧ n ∈ a.overridden) : (a.respond kind resp).Inv := by
  have hraw : ∀ k, ((a.respond kind resp).niData k).rawRequest = (a.niData k).rawRequest := by
    intro k
    by_cases hk : k = kind
    · subst hk
      rw [GnssAdapter.respond, setSession_self]
    · rw [GnssAdapter.respond, setSession_of_ne hk]
  have hext : a.Extends (a.respond kind resp) :=
    ⟨List.prefix_rfl, List.Subset.refl _, List.Subset.refl _, le_rfl⟩
  refine { h with sessions := fun k => ?_, threads := fun m t ht => ?_ }
  · by_cases hk : k = kind
    · subst hk
      have hp := (h.sessions k).pending n hn
      rw [GnssAdapter.respond, setSession_self]
      refine ⟨fun hnone => ?_, fun m hm => ?_⟩
      · rw [hn] at hnone
        cases hnone
      · rw [hn] at hm
        cases hm
        exact ⟨hp.request, fun _ => hends, hp.running⟩
    · rw [GnssAdapter.respond, setSession_of_ne hk]
      exact (h.sessions k).mono hext fun n hn => ((h.sessions k).pending n hn).running
  · have hok := h.threads m t ht
    obtain ⟨k, pc⟩ := t
    cases pc with
    | created => exact (hraw k).trans hok
    | waiting expire => exact ⟨(hraw k).trans hok.1, hok.2⟩
    | unlocked answer =>
        exact ⟨hok.1, (hraw k).trans hok.2.1, fun k' => (hraw k') ▸ hok.2.2.1 k', hok.2.2.2⟩

lemma Inv.proceed (h : a.Inv) (hc : a.Careful .proceed) (hs : a.proceed = some a') : a'.Inv := by
  have hmsg := h.msg
  rw [GnssAdapter.proceed] at hs
  rw [Careful] at hc
  cases hpc : a.msgPc with
  | idle =>
      rw [hpc] at hs
      cases hs
  | overriding overridden target response =>
      rw [hpc] at hs hc hmsg
      cases hs
      exact (h.respond (hc _ rfl) (Or.inr ⟨rfl, hmsg.1⟩)).hear (List.Subset.refl _) (List.Subset.refl _)
        le_rfl hmsg.2
  | responding kind target response =>
      rw [hpc] at hs hc hmsg
      cases hs
      exact (h.respond (hc _ rfl) (Or.inl hmsg)).hear (List.Subset.refl _) (List.Subset.refl _) le_rfl
        trivial

/-- **A request is accepted.** -/
lemma Inv.accept (h : a.Inv) {timeout : ℕ} {created : Bool} (hfree : a.inProgress kind = false)
    (hidle : a.msgPc = .idle) (htime : respTime timeout < 2 ^ 32) (hclear : a.Cleared kind) :
    (a.accept kind timeout true created).Inv := by
  have hnone : (a.niData kind).rawRequest = none := by
    cases kind with
    | session =>
        rw [inProgress, Bool.or_eq_false_iff] at hfree
        exact Option.isSome_eq_false_iff.mp hfree.1 |> Option.isNone_iff_eq_none.mp
    | sessionEs => exact Option.isSome_eq_false_iff.mp hfree |> Option.isNone_iff_eq_none.mp
  have hext : a.Extends (a.accept kind timeout true created) :=
    ⟨List.prefix_append .., List.Subset.refl _, List.Subset.refl _, le_rfl⟩
  have hself : (a.accept kind timeout true created).niData kind =
      { a.niData kind with
        rawRequest := some a.requests.length
        reqID := (a.reqIDCounter + 1) % 2 ^ 32
        respTimeLeft := respTime timeout % 2 ^ 32 } :=
    setSession_self
  have hother : ∀ k, k ≠ kind → (a.accept kind timeout true created).niData k = a.niData k :=
    fun k hk => setSession_of_ne hk
  constructor
  · intro k
    by_cases hk : k = kind
    · subst hk
      rw [hself]
      refine ⟨fun hn => (by cases hn), fun n hn => ?_⟩
      cases hn
      refine ⟨⟨⟨k, (a.reqIDCounter + 1) % 2 ^ 32, respTime timeout, a.now⟩, ?_, rfl, rfl,
        Nat.mod_eq_of_lt htime⟩, fun hrec => ?_, fun hend => ?_⟩
      · exact List.getElem?_concat_length
      · have hno := (h.sessions k).empty hnone
        exact Bool.noConfusion (hno.symm.trans hrec)
      · exact absurd (h.numbered _ hend) (lt_irrefl _)
    · rw [hother k hk]
      exact (h.sessions k).mono hext fun n hn => ((h.sessions k).pending n hn).running
  · intro n t ht
    by_cases hn : n = a.requests.length
    · subst hn
      have hthread : (a.accept kind timeout true created).thread a.requests.length =
          if created = true then some (⟨kind, .created⟩ : NiThread) else none :=
        Function.update_self ..
      have ht' := hthread.symm.trans ht
      split_ifs at ht'
      cases ht'
      rw [ThreadOk, hself]
    · have hthread : (a.accept kind timeout true created).thread n = a.thread n :=
        Function.update_of_ne hn ..
      have ht' := hthread.symm.trans ht
      have hok := h.threads n t ht'
      have hk : t.kind ≠ kind := by
        rintro rfl
        rcases hok.raw with hsome | ⟨-, answer, hpc⟩
        · exact Option.some_ne_none n (hsome.symm.trans hnone)
        · obtain ⟨hlt, -⟩ : n < a.requests.length ∧ _ := by
            rw [ThreadOk, hpc] at hok
            exact hok
          have hno := hclear n hlt t ht' rfl
          rw [hpc] at hno
          cases hno
      refine hok.frame hn hext (fun k hk' => by rw [hother k hk']) (fun hk' => absurd hk' hk) ?_
        Or.inl
      rw [hself]
      exact fun heq => absurd (Option.some.inj heq).symm hn
  · have hpc : (a.accept kind timeout true created).msgPc = .idle := hidle
    rw [hpc]
    trivial
  · intro r hr
    rcases List.mem_append.mp hr with hr | hr
    · exact h.accepted r hr
    · rw [List.mem_singleton.mp hr]
      exact le_rfl
  · intro n hn
    exact (h.numbered n hn).trans_le (hext.requests.length_le)
  · exact h.once
  · exact fun x hx => (h.right x hx).mono hext le_rfl
  · exact fun n hn => (h.dropped n hn).imp (fun hs => hs.mono hext) id

/-! ## The threads -/

/-- The record and the thread of a request that has been decided. -/
lemma finish_eq (hs : s.rawRequest = some m) :
    (a.setSession kind s).finish n kind =
      { a.setSession kind { s with respRecvd := false, rawRequest := none } with
        thread := Function.update a.thread n
          (some ⟨kind, .unlocked (if s.resp ≠ .ignore then some (s.resp, m) else none)⟩)
        ignored := if s.resp ≠ .ignore then a.ignored else a.ignored ++ [m] } := by
  rw [finish]
  simp only [setSession_self, hs]
  split_ifs with hresp
  · simp [setSession]
  · simp [setSession]

/-- **A thread decides.** -/
lemma Inv.finish (h : a.Inv) (hraw : (a.niData kind).rawRequest = some n)
    (hs : s.rawRequest = some n)
    (hends : a.Ends n s.resp a.now ∨ s.resp = .ignore ∧ n ∈ a.overridden) :
    ((a.setSession kind s).finish n kind).Inv := by
  have hp := (h.sessions kind).pending n hraw
  rw [finish_eq hs]
  generalize ha' : ({ a.setSession kind { s with respRecvd := false, rawRequest := none } with
    thread := Function.update a.thread n
      (some ⟨kind, .unlocked (if s.resp ≠ .ignore then some (s.resp, n) else none)⟩)
    ignored := if s.resp ≠ .ignore then a.ignored else a.ignored ++ [n] } : GnssAdapter) = a'
  have hext : a.Extends a' := by
    rw [← ha']
    exact ⟨List.prefix_rfl, List.Subset.refl _, List.Subset.refl _, le_rfl⟩
  have hself : a'.niData kind = { s with respRecvd := false, rawRequest := none } := by
    rw [← ha']
    exact setSession_self
  have hother : ∀ k, k ≠ kind → a'.niData k = a.niData k := by
    intro k hk
    rw [← ha']
    exact setSession_of_ne hk
  have hne : ∀ k, k ≠ kind → (a.niData k).rawRequest ≠ some n :=
    fun k hk hn => hk (h.kind_unique hn hraw)
  have hended : a'.ended = a.ended ++ if s.resp ≠ .ignore then [] else [n] := by
    have hans : a'.answers = a.answers := by rw [← ha']; rfl
    have hign : a'.ignored = if s.resp ≠ .ignore then a.ignored else a.ignored ++ [n] := by
      rw [← ha']
    rw [ended, ended, hans, hign]
    split_ifs <;> simp
  have hmem : ∀ m ∈ a'.ended, m ∈ a.ended ∨ m = n := by
    intro m hm
    rw [hended] at hm
    split_ifs at hm
    · exact Or.inl (by simpa using hm)
    · simpa using hm
  constructor
  · intro k
    by_cases hk : k = kind
    · subst hk
      rw [hself]
      exact ⟨fun _ => rfl, fun m hm => by cases hm⟩
    · rw [hother k hk]
      exact h.frame hext (hne k hk) hmem
  · intro m t ht
    by_cases hm : m = n
    · subst hm
      have hthread : a'.thread m =
          some ⟨kind, .unlocked (if s.resp ≠ .ignore then some (s.resp, m) else none)⟩ := by
        rw [← ha']
        exact Function.update_self ..
      rw [hthread] at ht
      cases ht
      refine ⟨hp.lt.trans_le hext.requests.length_le, by rw [hself], fun k hk => ?_, ?_⟩
      · by_cases hkk : k = kind
        · subst hkk
          rw [hself] at hk
          cases hk
        · rw [hother k hkk] at hk
          exact hne k hkk hk
      · intro resp m' hans
        split_ifs at hans with hresp
        cases hans
        refine ⟨rfl, ?_, ?_⟩
        · rw [hended, if_pos hresp, List.append_nil]
          exact hp.running
        · exact (hends.resolve_right fun ho => hresp ho.1).mono hext hext.now
    · have hthread : a'.thread m = a.thread m := by
        rw [← ha']
        exact Function.update_of_ne hm ..
      rw [hthread] at ht
      have hok := h.threads m t ht
      have hk : t.kind ≠ kind := by
        rintro rfl
        rcases hok.raw with hsome | ⟨hnone, -⟩
        · exact hm (Option.some.inj (hsome.symm.trans hraw))
        · exact Option.some_ne_none n (hraw.symm.trans hnone)
      refine hok.frame hm hext (fun k hk' => by rw [hother k hk']) (fun hk' => absurd hk' hk) ?_
        (hmem m)
      rw [hself]
      exact fun heq => by cases heq
  · have hmsg := h.msg.mono hext
    rw [← ha'] at hmsg ⊢
    exact hmsg
  · rw [← ha']
    exact h.accepted
  · intro m hm
    rcases hmem m hm with hold | rfl
    · exact (h.numbered m hold).trans_le hext.requests.length_le
    · exact hp.lt.trans_le hext.requests.length_le
  · rw [hended]
    split_ifs
    · rw [List.append_nil]
      exact h.once
    · exact List.Nodup.append h.once (List.nodup_singleton n) (by simpa using hp.running)
  · intro x hx
    rw [← ha'] at hx
    exact (h.right x hx).mono hext le_rfl
  · intro m hm
    have hcase : m ∈ a.ignored ∨ m = n ∧ s.resp = .ignore := by
      rw [← ha'] at hm
      dsimp only at hm
      split_ifs at hm with hresp
      · exact Or.inl hm
      · rcases List.mem_append.mp hm with hm | hm
        · exact Or.inl hm
        · exact Or.inr ⟨List.mem_singleton.mp hm, not_not.mp hresp⟩
    rcases hcase with hold | ⟨rfl, hresp⟩
    · exact (h.dropped m hold).imp (fun hs => hs.mono hext) fun ho => hext.overridden ho
    · rcases hends with (hsaid | ⟨hno, -⟩) | ⟨-, ho⟩
      · exact Or.inl (hresp ▸ hsaid.mono hext)
      · rw [hresp] at hno
        cases hno
      · exact Or.inr (hext.overridden ho)

/-- **A thread clears its record and answers.** -/
lemma Inv.clear (h : a.Inv) {answer : Option (GnssNiResponse × ℕ)}
    (ht : a.thread n = some ⟨kind, .unlocked answer⟩) : (a.clear n kind answer).Inv := by
  obtain ⟨hlt, hnone, hne, hans⟩ := h.threads n _ ht
  have hext : a.Extends (a.clear n kind answer) :=
    ⟨List.prefix_rfl, List.Subset.refl _, List.Subset.refl _, le_rfl⟩
  have hself : (a.clear n kind answer).niData kind =
      { a.niData kind with respTimeLeft := 0, reqID := 0 } := setSession_self
  have hother : ∀ k, k ≠ kind → (a.clear n kind answer).niData k = a.niData k :=
    fun k hk => setSession_of_ne hk
  have hnew : (a.clear n kind answer).answers = a.answers ++
      (answer.map fun p => (⟨p.2, p.1, a.now⟩ : Answer)).toList := rfl
  -- what is sent, if anything, is the response to the request of the thread
  have hsent : ∀ x ∈ (answer.map fun p => (⟨p.2, p.1, a.now⟩ : Answer)).toList,
      x.number = n ∧ n ∉ a.ended ∧ a.Ends n x.resp x.time := by
    intro x hx
    rw [Option.mem_toList, Option.map_eq_some_iff] at hx
    obtain ⟨⟨resp, m⟩, hp, rfl⟩ := hx
    exact hans resp m hp
  have hperm : (a.clear n kind answer).ended.Perm
      (a.ended ++ (answer.map fun p => p.2).toList) := by
    rw [ended, ended, hnew, List.map_append, List.append_assoc, List.append_assoc]
    refine List.Perm.append_left _ (List.perm_append_comm.trans (List.Perm.append_left _ ?_))
    cases answer <;> exact .refl _
  have hmem : ∀ m ∈ (a.clear n kind answer).ended, m ∈ a.ended ∨ m = n := by
    intro m hm
    rcases List.mem_append.mp (hperm.mem_iff.mp hm) with hm | hm
    · exact Or.inl hm
    · rw [Option.mem_toList, Option.map_eq_some_iff] at hm
      obtain ⟨⟨resp, m'⟩, hp, rfl⟩ := hm
      exact Or.inr (hans resp m' hp).1
  constructor
  · intro k
    by_cases hk : k = kind
    · subst hk
      rw [hself]
      refine ⟨fun _ => (h.sessions k).empty hnone, fun m hm => ?_⟩
      exact absurd (hnone.symm.trans hm) (Option.some_ne_none m).symm
    · rw [hother k hk]
      exact h.frame hext (hne k) hmem
  · intro m t ht'
    by_cases hm : m = n
    · subst hm
      have hthread : (a.clear m kind answer).thread m = none := Function.update_self ..
      rw [hthread] at ht'
      cases ht'
    · have hthread : (a.clear n kind answer).thread m = a.thread m := Function.update_of_ne hm ..
      rw [hthread] at ht'
      exact (h.threads m t ht').frame hm hext (fun k hk => by rw [hother k hk])
        (fun _ => by rw [hself]) (fun hraw => by rw [hself] at hraw; exact hraw) (hmem m)
  · exact h.msg.mono hext
  · exact h.accepted
  · intro m hm
    rcases hmem m hm with hold | rfl
    · exact h.numbered m hold
    · exact hlt
  · rw [hperm.nodup_iff]
    cases answer with
    | none => simpa using h.once
    | some p =>
        obtain ⟨rfl, hrun, -⟩ := hans p.1 p.2 rfl
        exact List.Nodup.append h.once (List.nodup_singleton _) (by simpa using hrun)
  · intro x hx
    rw [hnew] at hx
    rcases List.mem_append.mp hx with hx | hx
    · exact (h.right x hx).mono hext le_rfl
    · obtain ⟨hxn, -, hends⟩ := hsent x hx
      rw [hxn]
      exact hends.mono hext le_rfl
  · exact fun m hm => (h.dropped m hm).imp (fun hs => hs.mono hext) id

lemma setSession_eq_self : a.setSession kind (a.niData kind) = a := by
  rw [setSession, Function.update_eq_self]

/-- A record that has received a response lets its thread decide. -/
lemma Inv.finish_of_received (h : a.Inv) (hraw : (a.niData kind).rawRequest = some n)
    (hrec : (a.niData kind).respRecvd = true) : (a.finish n kind).Inv := by
  have hfin := h.finish hraw hraw
    ((((h.sessions kind).pending n hraw).received hrec).imp_left Or.inl)
  rwa [setSession_eq_self] at hfin

/-- A thread begins to wait. -/
lemma Inv.wait (h : a.Inv) (hraw : (a.niData kind).rawRequest = some n) :
    ({ a with
        thread := Function.update a.thread n
          (some ⟨kind, .waiting (a.now + (a.niData kind).respTimeLeft)⟩) } : GnssAdapter).Inv := by
  refine { h with sessions := fun k => ?_, threads := fun m t ht => ?_ }
  · refine SessionOk.mono (a := a) ?_ (h.sessions k) fun m hm =>
      ((h.sessions k).pending m hm).running
    exact ⟨List.prefix_rfl, List.Subset.refl _, List.Subset.refl _, le_rfl⟩
  · dsimp only at ht
    by_cases hm : m = n
    · subst hm
      rw [Function.update_self] at ht
      cases ht
      obtain ⟨r, hr, -, -, htime⟩ := ((h.sessions kind).pending m hraw).request
      refine ⟨hraw, r, hr, ?_⟩
      rw [htime]
      exact Nat.add_le_add_right (h.accepted r (List.mem_of_getElem? hr)) _
    · rw [Function.update_of_ne hm] at ht
      exact h.threads m t ht

lemma Inv.niThreadProc (h : a.Inv) {timedOut : Bool} (hs : a.niThreadProc n timedOut = some a') :
    a'.Inv := by
  obtain ⟨⟨kind, pc⟩, ht, hs⟩ := Option.bind_eq_some_iff.mp hs
  have hok := h.threads n _ ht
  dsimp only at hs
  cases pc with
  | created =>
      cases timedOut with
      | true => cases hs
      | false =>
          dsimp only at hs
          split_ifs at hs with hrec
          · cases hs
            exact h.finish_of_received hok hrec
          · cases hs
            exact h.wait hok
  | waiting expire =>
      cases timedOut with
      | true =>
          dsimp only at hs
          split_ifs at hs with hle
          cases hs
          exact h.finish hok.1 hok.1 (Or.inl (Or.inr ⟨rfl, hok.2.mono (Extends.refl a) hle⟩))
      | false =>
          dsimp only at hs
          split_ifs at hs with hrec
          · cases hs
            exact h.finish_of_received hok.1 hrec
          · cases hs
            exact h
  | unlocked answer =>
      cases timedOut with
      | true => cases hs
      | false =>
          cases hs
          exact h.clear ht

lemma Inv.step {i : Input} (h : a.Inv) (hs : CarefulStep a i a') : a'.Inv := by
  obtain ⟨hs, hc⟩ := hs
  rw [Step] at hs
  cases i with
  | requestNiNotify kind timeout data created =>
      rw [input] at hs
      split_ifs at hs with hidle
      cases hs
      rw [requestNiNotify]
      split_ifs with hclients hprog
      · exact h
      · exact h
      · obtain ⟨rfl, htime, hclear⟩ := hc hclients (Bool.eq_false_iff.mpr hprog)
        exact h.accept (Bool.eq_false_iff.mpr hprog) hidle htime hclear
  | gnssNiResponse response =>
      rw [input] at hs
      split_ifs at hs with hidle
      cases hs
      exact h.gnssNiResponse response
  | proceed => exact h.proceed hc hs
  | niThread n timedOut => exact h.niThreadProc hs
  | setNiClients clients =>
      cases hs
      exact h.hear (List.Subset.refl _) (List.Subset.refl _) le_rfl h.msg
  | tick seconds =>
      cases hs
      exact h.hear (List.Subset.refl _) (List.Subset.refl _) (Nat.le_add_right ..) h.msg

/-! ## Runs on fixed inputs -/

instance (a : GnssAdapter) (kind : SessionKind) : Decidable (a.Cleared kind) :=
  inferInstanceAs (Decidable (∀ n < a.requests.length, ∀ t ∈ a.thread n, t.kind = kind →
    t.pc.isUnlocked = false))

instance (a : GnssAdapter) : (i : Input) → Decidable (a.Careful i)
  | .requestNiNotify _ _ _ _ => inferInstanceAs (Decidable (_ → _ → _ ∧ _ ∧ _))
  | .proceed =>
      inferInstanceAs (Decidable (∀ p ∈ a.msgPc.seen, (a.niData p.1).rawRequest = some p.2))
  | .gnssNiResponse _ => isTrue trivial
  | .niThread _ _ => isTrue trivial
  | .setNiClients _ => isTrue trivial
  | .tick _ => isTrue trivial

/-- A step, as a function. -/
def next (a : GnssAdapter) (i : Input) : Option (GnssAdapter × Input) :=
  (a.input i).map fun a' => (a', i)

/-- A step on an input that meets the condition, as a function. -/
def nextCareful (a : GnssAdapter) (i : Input) : Option (GnssAdapter × Input) :=
  if a.Careful i then a.next i else none

lemma step_of_next {i : Input} {p : GnssAdapter × Input} (h : a.next i = some p) :
    Step a p.2 p.1 := by
  obtain ⟨a', ha', rfl⟩ := Option.map_eq_some_iff.mp h
  exact ha'

lemma carefulStep_of_next {i : Input} {p : GnssAdapter × Input} (h : a.nextCareful i = some p) :
    CarefulStep a p.2 p.1 := by
  rw [nextCareful] at h
  split_ifs at h with hc
  obtain ⟨a', ha', rfl⟩ := Option.map_eq_some_iff.mp h
  exact ⟨ha', hc⟩

end GnssAdapter

open GnssAdapter in
/-- **Network-initiated requests do not mix.**  In every run of requests, responses, sections of
threads and time whose inputs meet the condition: each request is answered or dropped at most once,
it is answered only with a response that was given for its own id while it was pending, or with
`noResponse` when its own time is over, it is dropped only when that was said or it was overridden,
and while it is pending its record holds its own id, its own time and no response but its own. -/
theorem ni_requests_unmixed {inputs : List Input} {a : GnssAdapter}
    (hr : Run CarefulStep init inputs a) : a.Unmixed :=
  (hr.invariant (P := Inv) (fun _ _ _ h hs => h.step hs) .init).unmixed

open GnssAdapter in
/-- An emergency request overrides another one and is accepted, and the next request of each kind
reuses the records: one is denied, the other one is not answered in time. -/
theorem ni_requests_unmixed_four : ∃ inputs a, Run CarefulStep init inputs a ∧
    a.answers = [⟨1, .accept, 3⟩, ⟨2, .deny, 3⟩, ⟨3, .noResponse, 13⟩] ∧ a.ignored = [0] ∧
      a.Unmixed := by
  have hrun : ((execBy nextCareful init [.setNiClients [7], .requestNiNotify .session 30 true true,
      .niThread 0 false, .requestNiNotify .sessionEs 30 true true, .tick 3,
      .gnssNiResponse ⟨7, 2, .accept⟩, .niThread 1 false, .proceed, .niThread 0 false, .proceed,
      .niThread 1 false, .niThread 1 false, .niThread 0 false,
      .requestNiNotify .session 5 true true, .niThread 2 false, .gnssNiResponse ⟨7, 3, .deny⟩,
      .proceed, .niThread 2 false, .niThread 2 false, .requestNiNotify .session 5 true true,
      .niThread 3 false, .tick 10, .niThread 3 true, .niThread 3 false]).map fun p =>
        decide (p.1.answers = [⟨1, .accept, 3⟩, ⟨2, .deny, 3⟩, ⟨3, .noResponse, 13⟩] ∧
          p.1.ignored = [0])) = some true := by
    decide +kernel
  obtain ⟨⟨a, inputs⟩, hp, ha⟩ := Option.map_eq_some_iff.mp hrun
  have hr : Run CarefulStep init inputs a := Run.of_execBy (fun _ _ _ h => carefulStep_of_next h) hp
  obtain ⟨hans, hign⟩ := of_decide_eq_true ha
  exact ⟨inputs, a, hr, hans, hign, ni_requests_unmixed hr⟩

open GnssAdapter in
/-- A response comes when the time of request 0 is over, and is written after its thread has decided;
the thread of request 1, to which nobody has responded, finds it in the record. -/
theorem late_response_answers_next : ∃ inputs a, Run Step init inputs a ∧
    a.given = [⟨1, 0, .accept⟩] ∧ a.answers = [⟨0, .noResponse, 6⟩, ⟨1, .accept, 6⟩] ∧
      ¬a.Unmixed := by
  have hrun : ((execBy next init [.setNiClients [7], .requestNiNotify .session 1 true true,
      .niThread 0 false, .tick 6, .gnssNiResponse ⟨7, 1, .accept⟩, .niThread 0 true, .proceed,
      .niThread 0 false, .requestNiNotify .session 1 true true, .niThread 1 false,
      .niThread 1 false]).map fun p =>
        decide (p.1.given = [⟨1, 0, .accept⟩] ∧
          p.1.answers = [⟨0, .noResponse, 6⟩, ⟨1, .accept, 6⟩])) = some true := by
    decide +kernel
  obtain ⟨⟨a, inputs⟩, hp, ha⟩ := Option.map_eq_some_iff.mp hrun
  have hr : Run Step init inputs a := Run.of_execBy (fun _ _ _ h => step_of_next h) hp
  obtain ⟨hgiven, hans⟩ := of_decide_eq_true ha
  refine ⟨inputs, a, hr, hgiven, hans, fun h => ?_⟩
  rcases h.right ⟨1, .accept, 6⟩ (by rw [hans]; simp) with ⟨r, -, hmem⟩ | ⟨hno, -⟩
  · rw [hgiven, List.mem_singleton] at hmem
    exact absurd (congrArg Given.number hmem) Nat.one_ne_zero
  · cases hno

end Gps.Ni
