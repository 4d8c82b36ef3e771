import OcnDevice.Bluetooth.A2dp.Codec
import OcnDevice.Bluetooth.A2dp.Model

/-!
# Reading the codec configuration

`audio_get_codec_config` and `audio_get_next_codec_config` ask the stack for a block of bytes, and
parse what is then in `codec_cfg`.  The buffer is cleared before each request, and filled by the
callback if the stack has answered success and the block fits; but the call goes by `ack_status`
alone, which the callback has set before it looks at the length, and which no one clears before the
first request.

The calls are those of the audio side with the buffer added to the state (`call_flags`).  A history
tells of each attempt what the stack has done to its request.  A call does what it should exactly if
in each attempt a status of success is left only by an answer that fits, or the stack is found shut
down behind it (`codec_config_right_iff`).
-/

namespace Bluetooth.A2dp.CodecConfig

open Thread

/-! ## The state -/

/-- `MAX_CODEC_CFG_SIZE`. -/
def MAX_CODEC_CFG_SIZE : ℕ := 30

/-- `memset(p_codec_cfg, 0, MAX_CODEC_CFG_SIZE)`. -/
def cleared : CodecCfg := Vector.replicate 30 0

/-- `memcpy(audio_stream.codec_cfg, p_cfg, len)`. -/
def copyBlock (block : List (BitVec 8)) (cfg : CodecCfg) : CodecCfg :=
  Vector.ofFn fun i => block.getD i cfg[i]

/-- What sets the status: an answer to the request, or the shutdown of the stack. -/
inductive Reply
  | answer (status : Ack) (block : List (BitVec 8))
  | shutdown (status : Ack)
  deriving DecidableEq, Repr

def Reply.status : Reply → Ack
  | answer status _ => status
  | shutdown status => status

def Reply.isAnswer : Reply → Bool
  | answer _ _ => true
  | shutdown _ => false

/-- What it does to the buffer: a block that is too long makes a failure of the status, and only for
success it is copied. -/
def Reply.fill : Reply → CodecCfg → CodecCfg
  | answer status block, cfg =>
      if status = .success ∧ block.length ≤ MAX_CODEC_CFG_SIZE then copyBlock block cfg else cfg
  | shutdown _, cfg => cfg

/-- An attempt: the status before it, whether there is a stack to ask, and what sets the status
before the call reads it. -/
structure Attempt where
  before : Ack
  asked : Bool
  replies : List Reply
  deriving DecidableEq, Repr

/-- The flags and the buffer, with the history: the attempts, the latest first, whether one is under
way, and whether the call has found the stack shut down. -/
structure Stream where
  shared : Shared
  codecCfg : CodecCfg
  attempts : List Attempt
  asking : Bool
  gone : Bool
  deriving DecidableEq

/-! ## The stack -/

/-- What the stack does; an answer comes with a block. -/
inductive StackAct
  | answer (number : ℕ) (status : Ack) (block : List (BitVec 8))
  | report (number value : ℕ)
  | deinit (status : Ack)
  | init
  deriving DecidableEq, Repr

/-- What it does to the flags. -/
def StackAct.flags : StackAct → A2dp.StackAct
  | answer number status _ => .answer number status
  | report number value => .report number value
  | deinit status => .deinit status
  | init => .init

namespace Stream

/-- The flags are those. -/
def put (s : Shared) (r : Stream) : Stream := { r with shared := s }

/-- A reply is noted in the attempt that is under way. -/
def note (x : Reply) (r : Stream) : Stream :=
  match r.asking, r.attempts with
  | true, a :: as => { r with attempts := { a with replies := a.replies ++ [x] } :: as }
  | _, _ => r

/-- What a reply does besides the flags. -/
def reply (x : Reply) (r : Stream) : Stream := { r with codecCfg := x.fill r.codecCfg }.note x

/-- What an act of the stack does besides the flags. -/
def effect (act : StackAct) (r : Stream) : Stream :=
  match act with
  | .answer number status block =>
      if r.shared.requests[number]? = some .getCodecCfg ∧ status ≠ .pending then
        r.reply (.answer status block)
      else r
  | .deinit status => r.reply (.shutdown status)
  | _ => r

/-- The state after an act of the stack. -/
def stack (r : Stream) (act : StackAct) : Option Stream :=
  (r.shared.stack act.flags).map fun s => (r.effect act).put s

end Stream

/-! ## The calls -/

/-- A part of the calls that goes by the flags. -/
def flags {α : Type} (p : Thread Shared α) : Thread Stream α := p.zoom Stream.shared Stream.put

/-- `if(stack_cb)`, with which an attempt begins. -/
def beginAttempt : Thread Stream Bool :=
  atomic fun r => (r.shared.stackCb,
    { r with
      attempts := ⟨r.shared.ackStatus, r.shared.stackCb, []⟩ :: r.attempts
      asking := r.shared.stackCb })

/-- The status is read, with which the attempt ends, and cleared. -/
def endAttempt (ackRet : ℕ) : Thread Stream Ack := do
  let status ← atomic fun r => (r.shared.ackStatus,
    { r with shared := r.shared.act .getCodecCfg ackRet .reading, asking := false })
  flags clearStatus
  pure status

/-- `a2dp_read_codec_config`. -/
def a2dp_read_codec_config : Thread Stream Ack := do
  modify fun r => { r with codecCfg := cleared }
  if ← beginAttempt then
    flags clearResp
    flags (request .getCodecCfg)
    flags clearRecvd
    if ← flags (read Shared.respReceived) then endAttempt 0
    else
      let ackRet ← flags wait_for_stack_response
      endAttempt ackRet
  else pure .failure

/-- The loop of attempts: whether a configuration has been read. -/
def codecLoop : ℕ → Thread Stream Bool
  | 0 => pure false
  | n + 1 => do
      let status ← a2dp_read_codec_config
      if status = .success then pure true else codecLoop n

/-- A call begins. -/
def beginReading : Thread Stream Unit :=
  modify fun r => { r with
    shared := { r.shared with phase := .reading }
    attempts := []
    asking := false
    gone := false }

/-- What is in the buffer is parsed; `codecType` is what the caller has there. -/
def parseBuffer (signed : Bool) (codecType : AudioFormat) : Thread Stream (Option Parsed) :=
  read fun r => a2dpCodecParser signed r.codecCfg codecType none

/-- `stack_cb == NULL`. -/
def stackGone : Thread Stream Bool :=
  atomic fun r => (!r.shared.stackCb, { r with gone := !r.shared.stackCb })

/-- `audio_get_codec_config`. -/
def audio_get_codec_config (signed : Bool) (codecType : AudioFormat) :
    Thread Stream (Option Parsed) := do
  beginReading
  let multicast ← flags a2dp_get_multicast_status
  if multicast ≠ 0 then flags a2dp_get_num_connected_devices
  let found ← codecLoop STREAM_START_MAX_RETRY_COUNT
  flags endReading
  if found then
    if ← stackGone then pure none else parseBuffer signed codecType
  else pure none

/-- `audio_get_next_codec_config`. -/
def audio_get_next_codec_config (signed : Bool) (codecType : AudioFormat) :
    Thread Stream (Option Parsed) := do
  beginReading
  let found ← codecLoop STREAM_START_MAX_RETRY_COUNT
  flags endReading
  if found then parseBuffer signed codecType else pure none

/-- The calls that read the configuration. -/
inductive Getter
  | current
  | next
  deriving DecidableEq, Repr

def Getter.thread (signed : Bool) (codecType : AudioFormat) : Getter → Thread Stream (Option Parsed)
  | current => audio_get_codec_config signed codecType
  | next => audio_get_next_codec_config signed codecType

/-- The same without the buffer. -/
def Getter.call : Getter → Call
  | current => .getCodecConfig
  | next => .getNextCodecConfig

/-! ## Statement -/

namespace Attempt

/-- The status that is left of an attempt. -/
def left (a : Attempt) : Ack := (a.replies.getLast?.map Reply.status).getD a.before

/-- The stack has answered success with a block that fits. -/
def Answered (a : Attempt) (block : List (BitVec 8)) : Prop :=
  .answer .success block ∈ a.replies ∧ block.length ≤ MAX_CODEC_CFG_SIZE

/-- A status of success is left only by such an answer. -/
def Sound (a : Attempt) : Prop := a.asked = true → a.left = .success → ∃ block, a.Answered block

end Attempt

/-- **The result is right**: it is parsed from exactly the block of a fitting answer of success to
the last attempt; or it is null, after all attempts, or as the stack is shut down. -/
def Right (signed : Bool) (codecType : AudioFormat) (result : Option Parsed) (r : Stream) : Prop :=
  (∃ a as block, r.attempts = a :: as ∧ a.Answered block ∧
    result = a2dpCodecParser signed (copyBlock block cleared) codecType none) ∨
  result = none ∧ (r.attempts.length = STREAM_START_MAX_RETRY_COUNT ∨ r.gone = true)

/-- The open request has been answered. -/
def Stream.answered (r : Stream) : Bool :=
  match r.attempts with
  | a :: _ => a.replies.any Reply.isAnswer
  | [] => false

/-- The stack answers the open request and no other, and not twice; it may say that an answer is
pending before. -/
def Timely (r : Stream) : Option StackAct → Stream → Prop
  | some (.answer number status _), _ =>
      r.shared.phase = .waiting number ∧ (status = .pending ∨ r.answered = false)
  | some (.report number _), _ => r.shared.phase = .waiting number
  | _, _ => True

instance (r : Stream) (a : Option StackAct) (t : Stream) : Decidable (Timely r a t) :=
  match a with
  | some (.answer _ _ _) => inferInstanceAs (Decidable (_ ∧ _))
  | some (.report _ _) => inferInstanceAs (Decidable (_ = _))
  | some (.deinit _) | some .init | none => .isTrue trivial

/-! ## The same without the buffer -/

section Flags

variable {α : Type} {signed : Bool} {codecType : AudioFormat}

lemma flags_hides (p : Thread Shared α) : Hides Stream.shared Eq (flags p) p :=
  hides_zoom (fun _ _ => rfl) p

lemma endAttempt_hides (ackRet : ℕ) : Hides Stream.shared Eq (endAttempt ackRet) (do
    let status ← readStatus .getCodecCfg ackRet .reading
    clearStatus
    pure status) := by
  refine Hides.step (fun _ => rfl) fun r => ?_
  exact (flags_hides clearStatus).bind fun _ _ _ => .done rfl

lemma readConfig_hides :
    Hides Stream.shared Eq a2dp_read_codec_config A2dp.a2dp_read_codec_config := by
  refine .silent (fun _ => rfl) fun _ => .step (fun _ => rfl) fun r => ?_
  show Hides Stream.shared Eq (if r.shared.stackCb then _ else _)
    (if r.shared.stackCb then _ else _)
  split_ifs
  · refine (flags_hides _).bind fun _ _ _ => (flags_hides _).bind fun _ _ _ =>
      (flags_hides _).bind fun _ _ _ => (flags_hides _).bind fun resp _ hresp => ?_
    subst hresp
    split_ifs
    · exact endAttempt_hides 0
    · refine (flags_hides _).bind fun ackRet _ hret => ?_
      subst hret
      exact endAttempt_hides ackRet
  · exact .done rfl

lemma codecLoop_hides (n : ℕ) : Hides Stream.shared Eq (codecLoop n) (A2dp.codecLoop n) := by
  induction n with
  | zero => exact .done rfl
  | succ n ih =>
      refine readConfig_hides.bind fun status _ hstatus => ?_
      subst hstatus
      split_ifs
      · exact .done rfl
      · exact ih

/-- The result of the call without the buffer: whether a configuration is parsed. -/
def Tells (result : Option Parsed) (n : ℤ) : Prop := n = if result.isSome then 1 else 0

lemma parseBuffer_hides :
    Hides Stream.shared Tells (parseBuffer signed codecType) (pure 1 : Thread Shared ℤ) := by
  refine .silent (fun _ => rfl) fun r => .done ?_
  obtain ⟨out, hout⟩ := exists_parsed signed r.codecCfg codecType none
  show Tells (a2dpCodecParser signed r.codecCfg codecType none) 1
  rw [hout]
  rfl

/-- The attempts, and what a call does with what they have come to. -/
lemma attempts_hides {k : Bool → Thread Stream (Option Parsed)} {l : Bool → Thread Shared ℤ}
    (hk : ∀ found, Hides Stream.shared Tells (k found) (l found)) : Hides Stream.shared Tells
      (codecLoop STREAM_START_MAX_RETRY_COUNT >>= fun found => flags endReading >>= fun _ =>
        k found)
      (A2dp.codecLoop STREAM_START_MAX_RETRY_COUNT >>= fun found => endReading >>= fun _ =>
        l found) := by
  refine (codecLoop_hides _).bind fun found _ hfound => ?_
  subst hfound
  exact (flags_hides _).bind fun _ _ _ => hk found

/-- **On the flags a call does what it does without the buffer.** -/
lemma getter_hides (signed : Bool) (codecType : AudioFormat) (getter : Getter) :
    Hides Stream.shared Tells (getter.thread signed codecType) getter.call.thread := by
  cases getter with
  | current =>
      refine .step (fun _ => rfl) fun _ => (flags_hides _).bind fun multicast _ hmulticast => ?_
      subst hmulticast
      have hrest := attempts_hides (k := fun found =>
          if found then stackGone >>= fun b =>
            if b then pure none else parseBuffer signed codecType
          else pure none)
        (l := fun found => if found then read Shared.stackCb >>= fun up =>
            if up then pure 1 else pure 0
          else pure 0) ?_
      · dsimp only
        split_ifs
        · exact (flags_hides _).bind fun _ _ _ => hrest
        · exact hrest
      intro found
      cases found with
      | true =>
          refine .step (fun _ => rfl) fun r => ?_
          show Hides Stream.shared Tells (if !r.shared.stackCb then pure none else _)
            (if r.shared.stackCb then pure 1 else pure 0)
          cases r.shared.stackCb with
          | true => exact parseBuffer_hides
          | false => exact .done rfl
      | false => exact .done rfl
  | next =>
      refine .step (fun _ => rfl) fun _ => attempts_hides fun found => ?_
      cases found with
      | true => exact parseBuffer_hides
      | false => exact .done rfl

/-- **A run of a call is one without the buffer**, as far as the flags go. -/
theorem call_flags (getter : Getter) {acts : List (Option StackAct)} {r t : Stream}
    {p : Thread Stream (Option Parsed)}
    (hr : Run (Thread.Step fun r act t => r.stack act = some t)
      (r, getter.thread signed codecType) acts (t, p)) :
    ∃ acts' q, Run (Thread.Step fun s act t => s.stack act = some t)
      (r.shared, getter.call.thread) acts' (t.shared, q) ∧ Hides Stream.shared Tells p q := by
  refine (getter_hides signed codecType getter).run (fun r act t hact => ?_) hr
  obtain ⟨s, hs, rfl⟩ := Option.map_eq_some_iff.mp hact
  exact ⟨act.flags, hs⟩

end Flags

/-! ## What the stack does in time -/

/-- The stack does something in time. -/
def Others (r t : Stream) : Prop := ∃ e, r.stack e = some t ∧ Timely r (some e) t

section Acts

variable {r t : Stream} {x : Reply} {a : Attempt} {as : List Attempt}

lemma note_idle (h : r.asking = false) : r.note x = r := by
  rw [Stream.note, h]

lemma note_asking (h : r.asking = true) (ha : r.attempts = a :: as) :
    r.note x = { r with attempts := { a with replies := a.replies ++ [x] } :: as } := by
  rw [Stream.note, h, ha]

@[simp] lemma note_shared : (r.note x).shared = r.shared := by
  rw [Stream.note]
  split <;> rfl

@[simp] lemma note_asking_eq : (r.note x).asking = r.asking := by
  rw [Stream.note]
  split <;> rfl

@[simp] lemma note_gone : (r.note x).gone = r.gone := by
  rw [Stream.note]
  split <;> rfl

@[simp] lemma note_codecCfg : (r.note x).codecCfg = r.codecCfg := by
  rw [Stream.note]
  split <;> rfl

/-- What happens in time: a reply, with an answer only to the open request and if there was none; or
something that leaves all but the flags alone, and the status too while it is the configuration that
is asked for. -/
lemma others_cases (h : Others r t) : t.shared.phase = r.shared.phase ∧
    t.shared.requests = r.shared.requests ∧
    ((t = r.put t.shared ∧ (t.shared.ackStatus = r.shared.ackStatus ∨
        ∃ number, r.shared.phase = .waiting number ∧
          r.shared.requests[number]? ≠ some .getCodecCfg)) ∨
      ∃ x, t = (r.reply x).put t.shared ∧ t.shared.ackStatus = x.status ∧
        (x.isAnswer = true → r.answered = false ∧ ∃ number, r.shared.phase = .waiting number)) := by
  obtain ⟨act, hact, htimely⟩ := h
  obtain ⟨s, hs, rfl⟩ := Option.map_eq_some_iff.mp hact
  cases act with
  | answer number status block =>
      obtain ⟨kind, hkind, hs⟩ := Option.bind_eq_some_iff.mp hs
      split_ifs at hs with hquery hpending
      · cases hs
        refine ⟨rfl, rfl, .inl ⟨?_, .inl rfl⟩⟩
        rw [Stream.effect, if_neg fun h => h.2 hpending.2]
        rfl
      · cases hs
        refine ⟨rfl, rfl, ?_⟩
        by_cases hcodec : kind = .getCodecCfg
        · have hstatus : status ≠ .pending := fun hp => hpending ⟨hcodec, hp⟩
          refine .inr ⟨.answer status block, ?_, rfl, fun _ => ⟨?_, number, htimely.1⟩⟩
          · rw [Stream.effect, if_pos ⟨by rw [hkind, hcodec], hstatus⟩]
            rfl
          · exact htimely.2.resolve_left hstatus
        · have hother : r.shared.requests[number]? ≠ some .getCodecCfg := by
            rw [hkind]
            exact fun h => hcodec (Option.some.inj h)
          refine .inl ⟨?_, .inr ⟨number, htimely.1, hother⟩⟩
          rw [Stream.effect, if_neg fun h => hother h.1]
          rfl
  | report number value =>
      obtain ⟨kind, hkind, hs⟩ := Option.bind_eq_some_iff.mp hs
      split_ifs at hs <;> cases hs <;> exact ⟨rfl, rfl, .inl ⟨rfl, .inl rfl⟩⟩
  | deinit status =>
      cases hs
      exact ⟨rfl, rfl, .inr ⟨.shutdown status, rfl, rfl, fun h => absurd h Bool.false_ne_true⟩⟩
  | init =>
      cases hs
      exact ⟨rfl, rfl, .inl ⟨rfl, .inl rfl⟩⟩

end Acts

/-! ## Assertions -/

/-- The program goes from an assertion to another, whatever the stack does in time. -/
abbrev Goes {α : Type} (P : Stream → Prop) (p : Thread Stream α) (Q : α → Stream → Prop) : Prop :=
  Triple Others (fun r t => Timely r none t) (fun _ => True) P p Q

/-- The stack keeps an assertion. -/
abbrev Firm (P : Stream → Prop) : Prop := Thread.Sound Others (fun _ => True) P

/-- What is known of the attempts, of whether the stack is gone, and of the buffer. -/
abbrev Fact := List Attempt → Bool → CodecCfg → Prop

/-- No request is open. -/
def Still (φ : Fact) (r : Stream) : Prop :=
  r.asking = false ∧ (∀ number, r.shared.phase ≠ .waiting number) ∧
    φ r.attempts r.gone r.codecCfg

/-- No attempt is under way, but another request may be open. -/
def Idle (φ : List Attempt → Bool → Prop) (r : Stream) : Prop :=
  r.asking = false ∧ φ r.attempts r.gone

/-- What the buffer holds after the replies to an attempt. -/
def Attempt.contents (a : Attempt) : CodecCfg := a.replies.foldl (fun cfg x => x.fill cfg) cleared

/-- There is one answer at most. -/
def Attempt.Single (a : Attempt) : Prop := (a.replies.filter Reply.isAnswer).length ≤ 1

/-- An attempt is under way. -/
structure Window (as : List Attempt) (r : Stream) : Prop where
  mine : ∀ number, r.shared.phase = .waiting number →
    r.shared.requests[number]? = some .getCodecCfg
  asking : r.asking = true
  gone : r.gone = false
  attempt : ∃ a, r.attempts = a :: as ∧ a.asked = true ∧ r.shared.ackStatus = a.left ∧
    r.codecCfg = a.contents ∧ a.Single

section Stability

variable {φ : Fact} {ψ : List Attempt → Bool → Prop} {as : List Attempt} {a : Attempt} {x : Reply}
  {block : List (BitVec 8)}

lemma idle_firm : Firm (Idle ψ) := by
  refine ⟨fun r t hr hrt => ?_, fun _ _ => trivial⟩
  obtain ⟨-, -, ⟨ht, -⟩ | ⟨x, ht, -, -⟩⟩ := others_cases hrt
  · rw [ht]
    exact hr
  · have hidle : ({ r with codecCfg := x.fill r.codecCfg } : Stream).asking = false := hr.1
    rw [ht, Stream.reply, note_idle hidle]
    exact hr

lemma still_firm : Firm (Still φ) := by
  refine ⟨fun r t hr hrt => ?_, fun _ _ => trivial⟩
  obtain ⟨hphase, -, ⟨ht, -⟩ | ⟨x, ht, -, hanswer⟩⟩ := others_cases hrt
  · rw [ht]
    exact ⟨hr.1, fun number => by rw [Stream.put, hphase]; exact hr.2.1 number, hr.2.2⟩
  · have hidle : ({ r with codecCfg := x.fill r.codecCfg } : Stream).asking = false := hr.1
    rw [ht, Stream.reply, note_idle hidle]
    refine ⟨hr.1, fun number => by rw [Stream.put, hphase]; exact hr.2.1 number, ?_⟩
    cases x with
    | answer status block =>
        obtain ⟨-, number, hwaiting⟩ := hanswer rfl
        exact absurd hwaiting (hr.2.1 number)
    | shutdown status => exact hr.2.2

/-- A reply sets the status that is left. -/
lemma left_reply : ({ a with replies := a.replies ++ [x] } : Attempt).left = x.status := by
  rw [Attempt.left, List.getLast?_concat]
  rfl

/-- A reply fills the buffer. -/
lemma contents_reply :
    ({ a with replies := a.replies ++ [x] } : Attempt).contents = x.fill a.contents := by
  rw [Attempt.contents, Attempt.contents, List.foldl_concat]

lemma single_reply (h : a.Single)
    (hx : x.isAnswer = true → a.replies.any Reply.isAnswer = false) :
    ({ a with replies := a.replies ++ [x] } : Attempt).Single := by
  rw [Attempt.Single, List.filter_append, List.length_append]
  cases hanswer : x.isAnswer with
  | false =>
      rw [List.filter_singleton, hanswer]
      exact h
  | true =>
      have hnone : a.replies.filter Reply.isAnswer = [] :=
        List.filter_eq_nil_iff.mpr (List.any_eq_false.mp (hx hanswer))
      rw [hnone, List.filter_singleton, hanswer]
      exact le_rfl

lemma window_firm : Firm (Window as) := by
  refine ⟨fun r t hr hrt => ?_, fun _ _ => trivial⟩
  obtain ⟨a, ha, hasked, hstatus, hcfg, hsingle⟩ := hr.attempt
  obtain ⟨hphase, hrequests, ⟨ht, hkept⟩ | ⟨x, ht, hx, hanswer⟩⟩ := others_cases hrt
  · have hstatus' : t.shared.ackStatus = a.left := by
      rcases hkept with hkept | ⟨number, hwaiting, hother⟩
      · rw [hkept, hstatus]
      · exact absurd (hr.mine number hwaiting) hother
    rw [ht]
    exact ⟨fun number h => hrequests ▸ hr.mine number (hphase ▸ h), hr.asking, hr.gone, a, ha,
      hasked, hstatus', hcfg, hsingle⟩
  · have hasking : ({ r with codecCfg := x.fill r.codecCfg } : Stream).asking = true := hr.asking
    rw [ht, Stream.reply, note_asking hasking ha]
    refine ⟨fun number h => hrequests ▸ hr.mine number (hphase ▸ h), hr.asking, hr.gone, _, rfl,
      hasked, ?_, ?_, single_reply hsingle fun h => ?_⟩
    · exact hx.trans left_reply.symm
    · rw [contents_reply, ← hcfg]
      rfl
    · have hfirst := (hanswer h).1
      rwa [Stream.answered, ha] at hfirst

end Stability

/-! ## Programs over the flags -/

section Flags

variable {α β : Type} {P : Stream → Prop} {φ : Fact} {ψ : List Attempt → Bool → Prop}
  {as : List Attempt} {kind : RequestKind}

lemma reading_ne (number : ℕ) : Phase.reading ≠ .waiting number := nofun

lemma free_ne (number : ℕ) : Phase.free ≠ .waiting number := nofun

/-- A step on the flags. -/
lemma goes_modify {f : Shared → Shared} {Q : Stream → Prop} (hP : Firm P) (hQ : Firm Q)
    (h : ∀ r, P r → Q (r.put (f r.shared))) : Goes P (flags (modify f)) fun _ => Q :=
  Triple.step (R := fun _ => Q) hP (fun r hr _ => h r hr) fun _ => Triple.done hQ fun _ hr => hr

/-- Something is read from the flags. -/
lemma goes_read (g : Shared → α) (hP : Firm P) : Goes P (flags (read g)) fun _ => P :=
  Triple.step (R := fun _ => P) hP (fun _ hr _ => hr) fun _ => Triple.done hP fun _ hr => hr

lemma goes_wait (hP : Firm P) : Goes P (flags wait_for_stack_response) fun _ => P := by
  have hloop : ∀ n retry, Goes P (flags (waitLoop n retry)) fun _ => P := by
    intro n
    induction n with
    | zero => exact fun retry => Triple.done hP fun _ hr => hr
    | succ n ih =>
        intro retry
        refine Triple.step (R := fun _ => P) hP (fun _ hr _ => hr) fun r => ?_
        dsimp only
        split_ifs
        · exact Triple.done hP fun _ hr => hr
        · exact ih (retry + 1)
  refine Triple.step (R := fun _ => P) hP (fun _ hr _ => hr) fun r => ?_
  dsimp only
  split_ifs
  · exact Triple.done hP fun _ hr => hr
  · exact hloop _ 1
  · exact Triple.done hP fun _ hr => hr

/-- A request leaves what it may, or the call is lost. -/
lemma goes_request (hP : Firm P) (h : ∀ r, P r → P (r.put (r.shared.ask kind))) :
    Goes P (flags (request kind)) fun _ => P := by
  refine Triple.step (R := fun _ => P) hP (fun r hr _ => ?_) fun r => ?_
  · dsimp only
    split_ifs
    · exact h r hr
    · exact hr
  · dsimp only
    split_ifs
    · exact Triple.done hP fun _ hr => hr
    · exact Triple.halt hP

lemma Still.idle (h : ∀ as gone cfg, φ as gone cfg → ψ as gone) {r : Stream} (hr : Still φ r) :
    Idle ψ r := ⟨hr.1, h _ _ _ hr.2.2⟩

/-- After a request for something else, no request is open. -/
lemma goes_query : Goes (Idle ψ) (flags (queryStack kind)) fun _ =>
    Still fun as gone _ => ψ as gone := by
  have hend : Goes (Idle ψ) (flags (modify fun s => { s with phase := .reading })) fun _ =>
      Still fun as gone _ => ψ as gone :=
    goes_modify idle_firm still_firm fun r hr => ⟨hr.1, reading_ne, hr.2⟩
  simp only [queryStack, flags, zoom_bind]
  refine (goes_modify idle_firm idle_firm fun _ hr => hr).bind fun _ => ?_
  refine (goes_request idle_firm fun _ hr => hr).bind fun _ => ?_
  refine (goes_modify idle_firm idle_firm fun _ hr => hr).bind fun _ => ?_
  refine (goes_read _ idle_firm).bind fun resp => ?_
  split_ifs
  · exact hend
  · rw [zoom_bind]
    exact (goes_wait idle_firm).bind fun _ => hend

lemma goes_multicast : Goes (Still fun as gone _ => ψ as gone) (flags a2dp_get_multicast_status)
    fun _ => Still fun as gone _ => ψ as gone := by
  simp only [a2dp_get_multicast_status, flags, zoom_bind]
  refine (goes_read _ still_firm).bind fun up => ?_
  split_ifs
  · rw [zoom_bind]
    exact (goes_query.mono (fun _ hr => hr.idle fun _ _ _ h => h) fun _ _ hr => hr).bind
      fun _ => goes_read _ still_firm
  · exact Triple.done still_firm fun _ hr => hr

lemma goes_devices : Goes (Still fun as gone _ => ψ as gone) (flags a2dp_get_num_connected_devices)
    fun _ => Still fun as gone _ => ψ as gone := by
  simp only [a2dp_get_num_connected_devices, flags, zoom_bind]
  refine (goes_read _ still_firm).bind fun up => ?_
  split_ifs
  · exact goes_query.mono (fun _ hr => hr.idle fun _ _ _ h => h) fun _ _ hr => hr
  · exact Triple.done still_firm fun _ hr => hr

/-- No request is opened or closed by a change of the other flags. -/
lemma window_put {f : Shared → Shared} (hphase : ∀ s, (f s).phase = s.phase)
    (hrequests : ∀ s, (f s).requests = s.requests) (hstatus : ∀ s, (f s).ackStatus = s.ackStatus) :
    Goes (Window as) (flags (modify f)) fun _ => Window as := by
  refine goes_modify window_firm window_firm fun r hr => ?_
  obtain ⟨a, ha, hasked, hleft, hrest⟩ := hr.attempt
  refine ⟨fun number h => ?_, hr.asking, hr.gone, a, ha, hasked, (hstatus _).trans hleft, hrest⟩
  exact (congrArg (·[number]?) (hrequests _)).trans (hr.mine number ((hphase _).symm.trans h))

end Flags

/-! ## An attempt -/

namespace Attempt

/-- What an attempt has come to. -/
def Came (a : Attempt) (status : Ack) (cfg : CodecCfg) : Prop :=
  (a.asked = true ∧ status = a.left ∧ cfg = a.contents ∧ a.Single) ∨
    (a.asked = false ∧ status = .failure)

/-- The call goes on to another attempt. -/
def Failed (a : Attempt) : Prop := a.asked = true → a.left ≠ .success

end Attempt

section Calls

variable {as : List Attempt}

lemma goes_endAttempt (ackRet : ℕ) : Goes (Window as) (endAttempt ackRet) fun status =>
    Still fun as' gone cfg => gone = false ∧ ∃ a, as' = a :: as ∧ a.Came status cfg := by
  refine (Triple.atomic (R := fun status => Still fun as' gone cfg =>
    gone = false ∧ ∃ a, as' = a :: as ∧ a.Came status cfg) window_firm (fun _ => still_firm)
    fun r hr _ => ?_).bind fun status => ?_
  · obtain ⟨a, ha, hasked, hleft, hcfg, hsingle⟩ := hr.attempt
    exact ⟨rfl, reading_ne, hr.gone, a, ha, .inl ⟨hasked, hleft, hcfg, hsingle⟩⟩
  · exact (goes_modify still_firm still_firm fun _ hr => hr).bind fun _ =>
      Triple.done still_firm fun _ hr => hr

/-- The buffer is cleared. -/
lemma goes_clear : Goes (Still fun as' gone _ => gone = false ∧ as' = as)
    (modify fun r => { r with codecCfg := cleared }) fun _ =>
      Still fun as' gone cfg => (gone = false ∧ as' = as) ∧ cfg = cleared :=
  Triple.step (R := fun _ => Still fun as' gone cfg => (gone = false ∧ as' = as) ∧ cfg = cleared)
    still_firm (fun _ hr _ => ⟨hr.1, hr.2.1, hr.2.2, rfl⟩)
    fun _ => Triple.done still_firm fun _ hr => hr

/-- An attempt begins with the stack there, or comes to failure at once. -/
lemma goes_beginAttempt :
    Goes (Still fun as' gone cfg => (gone = false ∧ as' = as) ∧ cfg = cleared)
      beginAttempt fun up => if up then Window as else
        Still fun as' gone cfg => gone = false ∧ ∃ a, as' = a :: as ∧ a.Came .failure cfg := by
  refine Triple.atomic still_firm (fun up => ?_) fun r hr _ => ?_
  · split_ifs
    · exact window_firm
    · exact still_firm
  · obtain ⟨hasking, hphase, ⟨hgone, has⟩, hcfg⟩ := hr
    cases hup : r.shared.stackCb with
    | true =>
        rw [if_pos rfl]
        exact ⟨fun number h => absurd h (hphase number), rfl, hgone, ⟨_, true, []⟩,
          congrArg (_ :: ·) has, rfl, rfl, hcfg, Nat.zero_le 1⟩
    | false =>
        rw [if_neg Bool.false_ne_true]
        exact ⟨rfl, hphase, hgone, ⟨_, false, []⟩, congrArg (_ :: ·) has, .inr ⟨rfl, rfl⟩⟩

/-- **An attempt** is noted, and comes to what it has come to. -/
lemma goes_readConfig : Goes (Still fun as' gone _ => gone = false ∧ as' = as)
    a2dp_read_codec_config fun status =>
      Still fun as' gone cfg => gone = false ∧ ∃ a, as' = a :: as ∧ a.Came status cfg := by
  have hresp : Goes (Window as) (flags clearResp) fun _ => Window as :=
    window_put (fun _ => rfl) (fun _ => rfl) fun _ => rfl
  have hrecvd : Goes (Window as) (flags clearRecvd) fun _ => Window as :=
    window_put (fun _ => rfl) (fun _ => rfl) fun _ => rfl
  refine goes_clear.bind fun _ => goes_beginAttempt.bind fun up => ?_
  cases up with
  | true =>
      simp only [if_true]
      refine hresp.bind fun _ => ?_
      refine (goes_request window_firm fun r hr => ?_).bind fun _ => ?_
      · refine ⟨fun number h => ?_, hr.asking, hr.gone, hr.attempt⟩
        obtain rfl := Phase.waiting.inj h
        exact List.getElem?_concat_length
      refine hrecvd.bind fun _ => ?_
      refine (goes_read _ window_firm).bind fun resp => ?_
      split_ifs
      · exact goes_endAttempt 0
      · exact (goes_wait window_firm).bind fun ackRet => goes_endAttempt ackRet
  | false =>
      simp only [Bool.false_eq_true, if_false]
      exact Triple.done still_firm fun _ hr => hr

/-- What the loop has come to, after so many attempts. -/
def LoopEnd (n : ℕ) (found : Bool) (as : List Attempt) (cfg : CodecCfg) : Prop :=
  if found then ∃ a as', as = a :: as' ∧ (a.asked = true ∧ a.left = .success ∧ cfg = a.contents ∧
    a.Single) ∧ ∀ x ∈ as', x.Failed
  else as.length = n ∧ ∀ x ∈ as, x.Failed

/-- **The loop** goes on until an attempt leaves success. -/
lemma goes_loop (m n : ℕ) :
    Goes (Still fun as gone _ => gone = false ∧ as.length = m ∧ ∀ x ∈ as, x.Failed) (codecLoop n)
      fun found => Still fun as gone cfg => gone = false ∧ LoopEnd (m + n) found as cfg := by
  induction n generalizing m with
  | zero =>
      exact Triple.done still_firm fun _ hr => ⟨hr.1, hr.2.1, hr.2.2⟩
  | succ n ih =>
      intro r hr
      have hread : Goes (Still fun as' gone _ => gone = false ∧ as' = r.attempts)
          a2dp_read_codec_config fun status => Still fun as' gone cfg =>
            gone = false ∧ ∃ a, as' = a :: r.attempts ∧ a.Came status cfg := goes_readConfig
      refine hread.bind (fun status => ?_) r ⟨hr.1, hr.2.1, hr.2.2.1, rfl⟩
      obtain ⟨hlen, hfailed⟩ := hr.2.2.2
      split_ifs with hsuccess
      · refine Triple.done still_firm fun t ht => ?_
        obtain ⟨hasking, hphase, hgone, a, ha, hcame⟩ := ht
        refine ⟨hasking, hphase, hgone, ?_⟩
        rw [LoopEnd, if_pos rfl]
        rcases hcame with ⟨hasked, hleft, hrest⟩ | ⟨-, hfailure⟩
        · exact ⟨a, _, ha, ⟨hasked, hleft.symm.trans hsuccess, hrest⟩, hfailed⟩
        · rw [hsuccess] at hfailure
          cases hfailure
      · have hnext := ih (m + 1)
        rw [show m + 1 + n = m + (n + 1) by omega] at hnext
        refine hnext.mono (fun t ht => ?_) fun _ _ ht => ht
        obtain ⟨hasking, hphase, hgone, a, ha, hcame⟩ := ht
        refine ⟨hasking, hphase, hgone, ?_, ?_⟩
        · rw [ha, List.length_cons, hlen]
        · rw [ha]
          refine List.forall_mem_cons.mpr ⟨fun hasked hleft => ?_, hfailed⟩
          rcases hcame with ⟨-, hstatus, -⟩ | ⟨hunasked, -⟩
          · exact hsuccess (hstatus.trans hleft)
          · rw [hasked] at hunasked
            cases hunasked

/-- What a call has come to: an attempt has left success, and what is in the buffer is parsed unless
the stack is gone; or all attempts have failed. -/
def Verdict (signed : Bool) (codecType : AudioFormat) (result : Option Parsed) (as : List Attempt)
    (gone : Bool) (_ : CodecCfg) : Prop :=
  (∃ a as', as = a :: as' ∧ (a.asked = true ∧ a.left = .success ∧ a.Single) ∧
    (∀ x ∈ as', x.Failed) ∧
    (gone = false ∧ result = a2dpCodecParser signed a.contents codecType none ∨
      gone = true ∧ result = none)) ∨
  (result = none ∧ as.length = STREAM_START_MAX_RETRY_COUNT ∧ ∀ x ∈ as, x.Failed)

/-- The loop has come to an end; the stack may be gone. -/
def Looped (found b : Bool) : Fact := fun as gone cfg =>
  gone = b ∧ LoopEnd STREAM_START_MAX_RETRY_COUNT found as cfg

lemma goes_parse (signed : Bool) (codecType : AudioFormat) :
    Goes (Still (Looped true false)) (parseBuffer signed codecType) fun result =>
      Still (Verdict signed codecType result) := by
  refine Triple.step
    (R := fun r => Still
      (Verdict signed codecType (a2dpCodecParser signed r.codecCfg codecType none)))
    still_firm (fun r hr _ => ?_) fun r => Triple.done still_firm fun _ ht => ht
  obtain ⟨hasking, hphase, hgone, a, as', ha, ⟨hasked, hleft, hcfg, hsingle⟩, hfailed⟩ := hr
  exact ⟨hasking, hphase, .inl ⟨a, as', ha, ⟨hasked, hleft, hsingle⟩, hfailed,
    .inl ⟨hgone, by rw [← hcfg]⟩⟩⟩

lemma goes_null {found b : Bool} (h : found = true → b = true) (signed : Bool)
    (codecType : AudioFormat) : Goes (Still (Looped found b)) (pure none) fun result =>
      Still (Verdict signed codecType result) := by
  refine Triple.done still_firm fun r hr => ?_
  obtain ⟨hasking, hphase, hgone, hend⟩ := hr
  refine ⟨hasking, hphase, ?_⟩
  cases found with
  | true =>
      obtain ⟨a, as', ha, ⟨hasked, hleft, -, hsingle⟩, hfailed⟩ := hend
      exact .inl ⟨a, as', ha, ⟨hasked, hleft, hsingle⟩, hfailed, .inr ⟨hgone.trans (h rfl), rfl⟩⟩
  | false => exact .inr ⟨rfl, hend⟩

lemma goes_begin : Goes (fun _ => True) beginReading fun _ =>
    Still fun as gone _ => as = [] ∧ gone = false :=
  Triple.step (R := fun _ => Still fun as gone _ => as = [] ∧ gone = false)
    ⟨fun _ _ _ _ => trivial, fun _ _ => trivial⟩ (fun _ _ _ => ⟨rfl, reading_ne, rfl, rfl⟩)
    fun _ => Triple.done still_firm fun _ hr => hr

/-- The attempts of a call, and what it does with what they have come to. -/
lemma goes_attempts {α : Type} {k : Bool → Thread Stream α} {Q : α → Stream → Prop}
    (hk : ∀ found, Goes (Still (Looped found false)) (k found) Q) :
    Goes (Still fun as gone _ => as = [] ∧ gone = false)
      (codecLoop STREAM_START_MAX_RETRY_COUNT >>= fun found => flags endReading >>= fun _ =>
        k found) Q := by
  intro r hr
  obtain ⟨hasking, hphase, has, hgone⟩ := hr
  have hloop := goes_loop 0 STREAM_START_MAX_RETRY_COUNT
  rw [Nat.zero_add] at hloop
  refine hloop.bind (fun found => ?_) r ⟨hasking, hphase, hgone, by rw [has]; rfl, by simp [has]⟩
  have hend : Goes (Still (Looped found false)) (flags endReading) fun _ =>
      Still (Looped found false) :=
    goes_modify still_firm still_firm fun r hr => ⟨hr.1, free_ne, hr.2.2⟩
  exact hend.bind fun _ => hk found

/-- **A call** comes to its verdict. -/
lemma goes_call (signed : Bool) (codecType : AudioFormat) (getter : Getter) :
    Goes (fun _ => True) (getter.thread signed codecType) fun result =>
      Still (Verdict signed codecType result) := by
  cases getter with
  | current =>
      refine goes_begin.bind fun _ => goes_multicast.bind fun multicast => ?_
      have hrest := goes_attempts (k := fun found =>
          if found then stackGone >>= fun b =>
            if b then pure none else parseBuffer signed codecType
          else pure none) (Q := fun result => Still (Verdict signed codecType result)) ?_
      · split_ifs
        · exact goes_devices.bind fun _ => hrest
        · exact hrest
      intro found
      cases found with
      | true =>
          have hgone : Goes (Still (Looped true false)) stackGone fun b => Still (Looped true b) :=
            Triple.atomic still_firm (fun _ => still_firm) fun r hr _ =>
              ⟨hr.1, hr.2.1, rfl, hr.2.2.2⟩
          refine hgone.bind fun b => ?_
          cases b with
          | true => exact goes_null (fun _ => rfl) signed codecType
          | false => exact goes_parse signed codecType
      | false => exact goes_null (fun h => absurd h Bool.false_ne_true) signed codecType
  | next =>
      refine goes_begin.bind fun _ => goes_attempts fun found => ?_
      cases found with
      | true => exact goes_parse signed codecType
      | false => exact goes_null (fun h => absurd h Bool.false_ne_true) signed codecType

end Calls

/-! ## When the result is right -/

section Verdict

variable {signed : Bool} {codecType : AudioFormat} {result : Option Parsed} {a : Attempt}
  {block : List (BitVec 8)}

/-- What is no answer does not fill the buffer. -/
lemma fill_shutdowns {xs : List Reply} (h : xs.filter Reply.isAnswer = []) (cfg : CodecCfg) :
    xs.foldl (fun cfg x => x.fill cfg) cfg = cfg := by
  induction xs generalizing cfg with
  | nil => rfl
  | cons x xs ih =>
      cases x with
      | answer status block => cases h
      | shutdown status => exact ih h cfg

/-- **The buffer holds the block of the answer**, as there was no other. -/
lemma contents_eq (hsingle : a.Single) (h : a.Answered block) :
    a.contents = copyBlock block cleared := by
  obtain ⟨pre, post, hreplies⟩ := List.append_of_mem h.1
  rw [Attempt.Single, hreplies, List.filter_append, List.length_append] at hsingle
  have hanswer : (Reply.answer .success block :: post).filter Reply.isAnswer =
      .answer .success block :: post.filter Reply.isAnswer := rfl
  rw [hanswer, List.length_cons] at hsingle
  have hpre : pre.filter Reply.isAnswer = [] := List.eq_nil_of_length_eq_zero (by omega)
  have hpost : post.filter Reply.isAnswer = [] := List.eq_nil_of_length_eq_zero (by omega)
  rw [Attempt.contents, hreplies, List.foldl_append, fill_shutdowns hpre, List.foldl_cons,
    fill_shutdowns hpost]
  exact if_pos ⟨rfl, h.2⟩

lemma Attempt.Failed.sound (h : a.Failed) : a.Sound := fun hasked hleft =>
  absurd hleft (h hasked)

/-- The verdict is right exactly if the attempts are sound, or the stack is gone. -/
lemma Verdict.right_iff {r : Stream}
    (h : Verdict signed codecType result r.attempts r.gone r.codecCfg) :
    Right signed codecType result r ↔ r.gone = true ∨ ∀ a ∈ r.attempts, a.Sound := by
  rcases h with ⟨a, as, has, ⟨hasked, hleft, hsingle⟩, hfailed,
    ⟨hgone, hresult⟩ | ⟨hgone, hresult⟩⟩ | ⟨hresult, hlen, hfailed⟩
  · constructor
    · rintro (⟨a', as', block, has', hblock, -⟩ | ⟨hnull, -⟩)
      · obtain ⟨rfl, rfl⟩ := List.cons.inj (has.symm.trans has')
        rw [has]
        exact .inr (List.forall_mem_cons.mpr ⟨fun _ _ => ⟨block, hblock⟩,
          fun x hx => (hfailed x hx).sound⟩)
      · -- the parser always returns something
        obtain ⟨out, hout⟩ := exists_parsed signed a.contents codecType none
        rw [hresult, hout] at hnull
        cases hnull
    · rintro (hgone' | hsound)
      · rw [hgone] at hgone'
        cases hgone'
      · rw [has] at hsound
        obtain ⟨block, hblock⟩ := (List.forall_mem_cons.mp hsound).1 hasked hleft
        exact .inl ⟨a, as, block, has, hblock, by rw [hresult, contents_eq hsingle hblock]⟩
  · exact ⟨fun _ => .inl hgone, fun _ => .inr ⟨hresult, .inr hgone⟩⟩
  · exact ⟨fun _ => .inr fun x hx => (hfailed x hx).sound, fun _ => .inr ⟨hresult, .inl hlen⟩⟩

end Verdict

/-- **When a call hands over what it should.**  In every run of a call in which the stack keeps to
`Timely`, the result is right exactly if in each attempt a status of success is left only by an
answer that fits, or the call finds the stack shut down behind the attempts. -/
theorem codec_config_right_iff (signed : Bool) (codecType : AudioFormat) (getter : Getter)
    {acts : List (Option StackAct)} {r t : Stream} {result : Option Parsed}
    (hr : Run (Thread.GuardedStep (fun r act t => r.stack act = some t) Timely)
      (r, getter.thread signed codecType) acts (t, .done result)) :
    Right signed codecType result t ↔ t.gone = true ∨ ∀ a ∈ t.attempts, a.Sound :=
  Verdict.right_iff ((goes_call signed codecType getter).run trivial hr).2.2

/-- The state at the start. -/
def Stream.init : Stream := ⟨Shared.init, cleared, [], false, false⟩

/-- The first bytes of an SBC block. -/
def shortBlock : List (BitVec 8) := [0, 8, 0, 0x00, 0x21, 0x15, 2, 53]

/-- A block that fits is parsed. -/
theorem codec_config_right_fits : ∃ acts t result,
    Run (Thread.GuardedStep (fun r act t => r.stack act = some t) Timely)
      (Stream.init, Getter.next.thread false .sbc) acts (t, .done result) ∧
    t.attempts = [⟨.success, true, [.answer .success shortBlock]⟩] ∧
    Right false .sbc result t := by
  obtain ⟨acts, t, hr, hattempts⟩ := Thread.exists_run Stream.stack Timely
    (Stream.init, Getter.next.thread false .sbc)
    (some .init :: List.replicate 5 none ++ some (.answer 0 .success shortBlock) ::
      List.replicate 6 none)
    (a2dpCodecParser false (copyBlock shortBlock cleared) .sbc none)
    (fun t => t.attempts = [⟨.success, true, [.answer .success shortBlock]⟩]) (by decide +kernel)
  refine ⟨acts, t, _, hr, hattempts, (codec_config_right_iff false .sbc .next hr).mpr (.inr ?_)⟩
  rw [hattempts]
  exact List.forall_mem_singleton.mpr fun _ _ =>
    ⟨shortBlock, List.mem_singleton.mpr rfl, by decide⟩

/-- **A block that is too long is taken for one of SBC**: it is not copied, but the status says
success. -/
theorem codec_config_broken : ¬ ∀ (signed : Bool) (codecType : AudioFormat) (getter : Getter)
    (acts : List (Option StackAct)) (r t : Stream) (result : Option Parsed),
      Run (Thread.GuardedStep (fun r act t => r.stack act = some t) Timely)
        (r, getter.thread signed codecType) acts (t, .done result) →
      Right signed codecType result t := by
  intro h
  obtain ⟨acts, t, hr, hattempts, hgone⟩ := Thread.exists_run Stream.stack Timely
    (Stream.init, Getter.next.thread false .sbc)
    (some .init :: List.replicate 5 none ++ some (.answer 0 .success (List.replicate 31 2)) ::
      List.replicate 6 none)
    (a2dpCodecParser false cleared .sbc none)
    (fun t => t.attempts = [⟨.success, true, [.answer .success (List.replicate 31 2)]⟩] ∧
      t.gone = false) (by decide +kernel)
  rcases h _ _ _ _ _ _ _ hr with ⟨a, as, block, ha, hblock, -⟩ | ⟨-, hlen | hgone'⟩
  · obtain ⟨rfl, -⟩ := List.cons.inj (hattempts.symm.trans ha)
    have hlong : Reply.answer .success block = .answer .success (List.replicate 31 2) :=
      List.mem_singleton.mp hblock.1
    obtain ⟨-, rfl⟩ := Reply.answer.inj hlong
    exact absurd hblock.2 (by decide)
  · rw [hattempts] at hlen
    exact absurd hlen (by decide)
  · rw [hgone] at hgone'
    cases hgone'

end Bluetooth.A2dp.CodecConfig
