import OcnDevice.Core.Run

/-!
# Network-initiated requests

The modem asks whether the user agrees to be located.  `GnssAdapter` keeps two records for that, one
for emergency requests and one for the others, and both are used again and again: a request is put
into its record (`requestNiNotify`) and a thread is started that waits for the user's response
(`niThreadProc`) and answers the modem, at the latest when the time is over.  A response comes as a
message (`gnssNiResponse`), which finds the record by the id of the request.

The thread holds the lock of its record except while it waits and after it has decided; a response is
written under the lock, but looked for without it, and a request is put into the record without it.  A
step of the model is a message up to its next lock operation, or a section of a thread between lock
operations; `proceed` is the message that goes on.

Beside the fields of the code the state keeps a history: the requests that were accepted, which are
numbered in order, what was said to them, and how each of them ended.
-/

namespace Gps.Ni

/-- `GnssNiResponse`; zero is what the records are constructed with. -/
inductive GnssNiResponse
  | zero
  | accept
  | deny
  | noResponse
  | ignore
  deriving DecidableEq, Repr

/-- The two records of `NiData`: `session` and `sessionEs`. -/
inductive SessionKind
  | session
  | sessionEs
  deriving DecidableEq, Repr

/-- `NiSession`. -/
structure NiSession where
  respTimeLeft : ℕ
  respRecvd : Bool
  /-- The number of the request whose data is in the record. -/
  rawRequest : Option ℕ
  reqID : ℕ
  resp : GnssNiResponse
  deriving DecidableEq, Repr

/-- `LOC_NI_NO_RESPONSE_TIME`. -/
def LOC_NI_NO_RESPONSE_TIME : ℕ := 20

/-- `LocationError`, as far as it is used here. -/
inductive LocationError
  | success
  | idUnknown
  deriving DecidableEq, Repr

/-- Where a thread stands: it has not locked yet; it waits, until the time given; it has unlocked,
with what it will send. -/
inductive ThreadPc
  | created
  | waiting (expire : ℕ)
  | unlocked (answer : Option (GnssNiResponse × ℕ))
  deriving DecidableEq, Repr

/-- A thread, with the record that is its argument. -/
structure NiThread where
  kind : SessionKind
  pc : ThreadPc
  deriving DecidableEq, Repr

/-- A response that is being processed. -/
structure UserResponse where
  client : ℕ
  id : ℕ
  resp : GnssNiResponse
  deriving DecidableEq, Repr

/-- Where the adapter thread stands: between messages; before the lock of `session`, to override the
request that was seen there; before the lock of the record that was found, for the request that was
seen there. -/
inductive MsgPc
  | idle
  | overriding (overridden target : ℕ) (response : UserResponse)
  | responding (kind : SessionKind) (target : ℕ) (response : UserResponse)
  deriving DecidableEq, Repr

/-! ## History -/

/-- A request that was accepted: its record, its id, the time for a response, and when it was
accepted. -/
structure NiRequest where
  kind : SessionKind
  reqID : ℕ
  timeout : ℕ
  acceptedAt : ℕ
  deriving DecidableEq, Repr

/-- The user gave a response for an id while the numbered request was pending under it. -/
structure Given where
  id : ℕ
  number : ℕ
  resp : GnssNiResponse
  deriving DecidableEq, Repr

/-- The modem was answered. -/
structure Answer where
  number : ℕ
  resp : GnssNiResponse
  time : ℕ
  deriving DecidableEq, Repr

/-- `GnssAdapter`, as far as it concerns network-initiated requests, with its threads, the time and
the history. -/
structure GnssAdapter where
  /-- The clients with a `gnssNiCb`. -/
  niClients : List ℕ
  /-- `mNiData`. -/
  niData : SessionKind → NiSession
  reqIDCounter : ℕ
  msgPc : MsgPc
  /-- The threads, by the number of the request they were started for. -/
  thread : ℕ → Option NiThread
  now : ℕ
  requests : List NiRequest
  given : List Given
  /-- The requests that an accepted emergency request overrides. -/
  overridden : List ℕ
  answers : List Answer
  /-- The requests that were dropped without an answer. -/
  ignored : List ℕ
  /-- The responses reported to clients. -/
  reports : List (ℕ × LocationError × ℕ)

namespace GnssAdapter

/-- The adapter at the start. -/
def init : GnssAdapter :=
  ⟨[], fun _ => ⟨0, false, none, 0, .zero⟩, 0, .idle, fun _ => none, 0, [], [], [], [], [], []⟩

/-- A record is written. -/
def setSession (a : GnssAdapter) (kind : SessionKind) (s : NiSession) : GnssAdapter :=
  { a with niData := Function.update a.niData kind s }

@[simp] lemma setSession_self {a : GnssAdapter} {kind : SessionKind} {s : NiSession} :
    (a.setSession kind s).niData kind = s :=
  Function.update_self ..

lemma setSession_of_ne {a : GnssAdapter} {kind k : SessionKind} {s : NiSession} (hk : k ≠ kind) :
    (a.setSession kind s).niData k = a.niData k :=
  Function.update_of_ne hk ..

/-- `reportResponse`. -/
def reportResponse (client : ℕ) (err : LocationError) (id : ℕ) (a : GnssAdapter) : GnssAdapter :=
  { a with reports := a.reports ++ [(client, err, id)] }

/-! ## The messages -/

/-- A request is in progress, so that a new one of this kind is ignored. -/
def inProgress (a : GnssAdapter) : SessionKind → Bool
  | .sessionEs => (a.niData .sessionEs).rawRequest.isSome
  | .session => (a.niData .session).rawRequest.isSome || (a.niData .sessionEs).rawRequest.isSome

/-- The seconds for a response to a request that asks for `timeout`. -/
def respTime (timeout : ℕ) : ℕ := 5 + if timeout ≠ 0 then timeout else LOC_NI_NO_RESPONSE_TIME

/-- The request is put into its record, and its thread is started, if it can be. -/
def accept (kind : SessionKind) (timeout : ℕ) (data created : Bool) (a : GnssAdapter) :
    GnssAdapter :=
  let number := a.requests.length
  let reqID := (a.reqIDCounter + 1) % 2 ^ 32
  { a.setSession kind { a.niData kind with
      rawRequest := if data then some number else none
      reqID := reqID
      respTimeLeft := respTime timeout % 2 ^ 32 } with
    reqIDCounter := reqID
    thread := Function.update a.thread number
      (if created then some (⟨kind, .created⟩ : NiThread) else none)
    requests := a.requests ++ [⟨kind, reqID, respTime timeout, a.now⟩] }

/-- `requestNiNotify`; `data` says whether there is any, `created` whether the thread could be. -/
def requestNiNotify (kind : SessionKind) (timeout : ℕ) (data created : Bool) (a : GnssAdapter) :
    GnssAdapter :=
  if a.niClients = [] then a
  else if a.inProgress kind then a
  else a.accept kind timeout data created

/-- The request that is pending in a record under an id. -/
def pendingUnder (a : GnssAdapter) (kind : SessionKind) (id : ℕ) : Option ℕ :=
  if id = (a.niData kind).reqID then (a.niData kind).rawRequest else none

/-- `gnssNiResponseCommand`, up to the first lock. -/
def gnssNiResponse (response : UserResponse) (a : GnssAdapter) : GnssAdapter :=
  if a.niClients.contains response.client then
    match a.pendingUnder .sessionEs response.id with
    | some target =>
        let a : GnssAdapter :=
          { a with given := a.given ++ [⟨response.id, target, response.resp⟩] }
        -- any request in `session` is ignored if an emergency request is accepted
        match if response.resp = .accept then (a.niData .session).rawRequest else none with
        | some overridden =>
            { a with
              msgPc := .overriding overridden target response
              overridden := a.overridden ++ [overridden] }
        | none => { a with msgPc := .responding .sessionEs target response }
    | none =>
        match a.pendingUnder .session response.id with
        | some target =>
            { a with
              given := a.given ++ [⟨response.id, target, response.resp⟩]
              msgPc := .responding .session target response }
        | none => a.reportResponse response.client .idUnknown response.id
  else a.reportResponse response.client .idUnknown response.id

/-- The section between lock and unlock in which a response is written. -/
def respond (kind : SessionKind) (resp : GnssNiResponse) (a : GnssAdapter) : GnssAdapter :=
  a.setSession kind { a.niData kind with resp := resp, respRecvd := true }

/-- A response goes on with its next lock. -/
def proceed (a : GnssAdapter) : Option GnssAdapter :=
  match a.msgPc with
  | .idle => none
  | .overriding _ target response =>
      some { a.respond .session .ignore with msgPc := .responding .sessionEs target response }
  | .responding kind _ response =>
      some (({ a.respond kind response.resp with msgPc := .idle } : GnssAdapter).reportResponse
        response.client .success response.id)

/-! ## The threads -/

/-- The rest of the section of thread `n` up to its unlock, when the wait is over. -/
def finish (n : ℕ) (kind : SessionKind) (a : GnssAdapter) : GnssAdapter :=
  let s := a.niData kind
  let a := a.setSession kind { s with respRecvd := false, rawRequest := none }
  match s.rawRequest with
  | some m =>
      if s.resp ≠ .ignore then
        { a with thread := Function.update a.thread n (some ⟨kind, .unlocked (some (s.resp, m))⟩) }
      else
        { a with
          thread := Function.update a.thread n (some ⟨kind, .unlocked none⟩)
          ignored := a.ignored ++ [m] }
  | none => { a with thread := Function.update a.thread n (some ⟨kind, .unlocked none⟩) }

/-- The last section of a thread, after it has unlocked. -/
def clear (n : ℕ) (kind : SessionKind) (answer : Option (GnssNiResponse × ℕ)) (a : GnssAdapter) :
    GnssAdapter :=
  let a := a.setSession kind { a.niData kind with respTimeLeft := 0, reqID := 0 }
  { a with
    thread := Function.update a.thread n none
    answers := a.answers ++ (answer.map fun p => (⟨p.2, p.1, a.now⟩ : Answer)).toList }

/-- The next section of thread `n` in `niThreadProc`.  A wait ends by `ETIMEDOUT`, not before its
time; otherwise the thread has been woken, or wakes for no reason. -/
def niThreadProc (n : ℕ) (timedOut : Bool) (a : GnssAdapter) : Option GnssAdapter :=
  (a.thread n).bind fun t =>
    let s := a.niData t.kind
    match t.pc, timedOut with
    | .created, false =>
        if s.respRecvd then some (a.finish n t.kind)
        else some { a with
          thread := Function.update a.thread n (some ⟨t.kind, .waiting (a.now + s.respTimeLeft)⟩) }
    | .waiting expire, true =>
        if expire ≤ a.now then
          some ((a.setSession t.kind { s with resp := .noResponse }).finish n t.kind)
        else none
    | .waiting _, false => if s.respRecvd then some (a.finish n t.kind) else some a
    | .unlocked answer, false => some (a.clear n t.kind answer)
    | _, _ => none

end GnssAdapter

/-! ## Runs -/

/-- A message, the next section of the message or of a thread, a change of the clients, or the time
that passes. -/
inductive Input
  | requestNiNotify (kind : SessionKind) (timeout : ℕ) (data created : Bool)
  | gnssNiResponse (response : UserResponse)
  | proceed
  | niThread (n : ℕ) (timedOut : Bool)
  | setNiClients (clients : List ℕ)
  | tick (seconds : ℕ)
  deriving DecidableEq, Repr

namespace GnssAdapter

/-- What an input does, if it is possible. -/
def input (a : GnssAdapter) : Input → Option GnssAdapter
  | .requestNiNotify kind timeout data created =>
      if a.msgPc = .idle then some (a.requestNiNotify kind timeout data created) else none
  | .gnssNiResponse response =>
      if a.msgPc = .idle then some (a.gnssNiResponse response) else none
  | .proceed => a.proceed
  | .niThread n timedOut => a.niThreadProc n timedOut
  | .setNiClients clients => some { a with niClients := clients }
  | .tick seconds => some { a with now := a.now + seconds }

/-- One input. -/
def Step (a : GnssAdapter) (i : Input) (a' : GnssAdapter) : Prop := a.input i = some a'

end GnssAdapter

end Gps.Ni
