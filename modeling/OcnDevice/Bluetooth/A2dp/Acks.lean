import OcnDevice.Bluetooth.A2dp.Model

/-!
# Acknowledgements and the requests they belong to

An acknowledgement does not say which request it is for.  What a call acts on should be the last that
its own request got, or `A2DP_CTRL_ACK_UNKNOWN` after all waits if it got none (`Event.Own`).  It is so
in every run in which the stack keeps to the request that is open while the flags are in use, and the
calls that read the codec configuration find the status cleared (`Timely`): these do not clear it
themselves.

While a request is open, the flags are tied to what it got.  How they are tied changes with every step
of the call (`Asked`, `Cleared`, `Watched`, `Answered`), and each such tie survives an answer (`Kept`).
While a call is about to make a request, or between the requests for the codec configuration, nothing
happens to the flags (`Held`); and while nobody uses them it does not matter (`Free`).
-/

namespace Bluetooth.A2dp

open Thread

/-! ## Statement -/

/-- A call has acted on what its own request got, the last of it, or on nothing after all waits; and
it has given up only on a request that got nothing. -/
def Event.Own : Event → Prop
  | acted _ status answers ackRet =>
      status = answers.getLast?.getD .unknown ∧ (answers = [] → ackRet = CTRL_CHAN_RETRY_COUNT)
  | gaveUp _ answers ackRet => answers = [] ∧ ackRet = CTRL_CHAN_RETRY_COUNT
  | shutdown => True

instance (e : Event) : Decidable e.Own :=
  match e with
  | .acted _ _ _ _ => inferInstanceAs (Decidable (_ ∧ _))
  | .gaveUp _ _ _ => inferInstanceAs (Decidable (_ ∧ _))
  | .shutdown => .isTrue trivial

/-- Everything that the calls have come to is their own. -/
def Shared.Owns (s : Shared) : Prop := ∀ e ∈ s.events, e.Own

/-- While the flags are in use, the stack answers the open request and no other, and is not shut down;
and the configuration is read from a cleared status. -/
def Timely (s : Shared) : Option StackAct → Shared → Prop
  | some (.answer number _), _ => s.phase = .free ∨ s.phase = .waiting number
  | some (.report number _), _ => s.phase = .free ∨ s.phase = .waiting number
  | some (.deinit _), _ => s.phase = .free
  | some .init, _ => True
  | none, t => s.phase = .free → t.phase = .reading → s.ackStatus = .unknown

instance (s : Shared) (a : Option StackAct) (t : Shared) : Decidable (Timely s a t) :=
  match a with
  | some (.answer _ _) => inferInstanceAs (Decidable (_ ∨ _))
  | some (.report _ _) => inferInstanceAs (Decidable (_ ∨ _))
  | some (.deinit _) => inferInstanceAs (Decidable (_ = _))
  | some .init => .isTrue trivial
  | none => inferInstanceAs (Decidable (_ → _ → _))

/-- The stack does something in time. -/
def Answers (s t : Shared) : Prop := ∃ a, s.stack a = some t ∧ Timely s (some a) t

/-- The program keeps everything its own, whatever the stack does in time. -/
def Fine {α : Type} (p : Thread Shared α) (Q : α → Shared → Prop) (s : Shared) : Prop :=
  p.wp Answers (fun s t => Timely s none t) Shared.Owns Q s

/-! ## What the stack does in time -/

/-- What happens to the flags: nothing while a call prepares a request or reads; what an answer or a
report does, while a request is open; anything while nobody uses them. -/
lemma answers_cases {s t : Shared} (h : Answers s t) :
    t = { s with stackCb := true } ∨
    (s.phase = .free ∧ t.phase = .free ∧ t.events = s.events) ∨
    ∃ number kind, s.phase = .waiting number ∧ s.requests[number]? = some kind ∧
      (kind.isQuery = false ∧ (t = s ∨ ∃ status, t = s.acknowledge number status) ∨
       kind.isQuery = true ∧
         ∃ value, t = { s with multicast := value, respReceived := true, ackRecvd := true }) := by
  obtain ⟨a, hact, htimely⟩ := h
  cases a with
  | answer number status =>
      obtain ⟨kind, hkind, hact⟩ := Option.bind_eq_some_iff.mp hact
      rcases htimely with hfree | hwaiting
      · refine .inr (.inl ?_)
        split_ifs at hact <;> cases hact <;> exact ⟨hfree, hfree, rfl⟩
      · refine .inr (.inr ⟨number, kind, hwaiting, hkind, ?_⟩)
        split_ifs at hact with hquery hpending
        · cases hact
          exact .inl ⟨Bool.eq_false_iff.mpr hquery, .inl rfl⟩
        · cases hact
          exact .inl ⟨Bool.eq_false_iff.mpr hquery, .inr ⟨status, rfl⟩⟩
  | report number value =>
      obtain ⟨kind, hkind, hact⟩ := Option.bind_eq_some_iff.mp hact
      by_cases hquery : kind.isQuery = true
      · rw [if_pos hquery] at hact
        cases hact
        rcases htimely with hfree | hwaiting
        · exact .inr (.inl ⟨hfree, hfree, rfl⟩)
        · exact .inr (.inr ⟨number, kind, hwaiting, hkind, .inr ⟨hquery, _, rfl⟩⟩)
      · rw [if_neg hquery] at hact
        cases hact
  | deinit status =>
      cases hact
      exact .inr (.inl ⟨htimely, htimely, rfl⟩)
  | init =>
      cases hact
      exact .inl rfl

/-! ## Assertions -/

/-- How the status and the flags are tied to what the open request got: its answers, the status,
`resp_received` and `ack_recvd`. -/
abbrev Tie := List Ack → Ack → Bool → Bool → Prop

/-- A tie survives an answer, or a report. -/
def Kept (kind : RequestKind) (X : Tie) : Prop :=
  ∀ answers status resp recvd, X answers status resp recvd →
    if kind.isQuery then X answers status true true
    else ∀ status', X (answers ++ [status']) status' true true

/-- The status is the last answer. -/
def Told (answers : List Ack) (status : Ack) : Prop := status = answers.getLast?.getD .unknown

/-- Nobody uses the flags. -/
def Free (s : Shared) : Prop := s.phase = .free ∧ s.Owns

/-- Nothing happens to the status and the flags. -/
def Held (phase : Phase) (Y : Ack → Bool → Bool → Prop) (s : Shared) : Prop :=
  s.phase = phase ∧ s.Owns ∧ Y s.ackStatus s.respReceived s.ackRecvd

/-- A request is open. -/
structure Open (kind : RequestKind) (number : ℕ) (X : Tie) (s : Shared) : Prop where
  phase : s.phase = .waiting number
  request : s.requests[number]? = some kind
  up : s.stackCb = true
  own : s.Owns
  tie : X s.answers s.ackStatus s.respReceived s.ackRecvd

section Stability

variable {kind : RequestKind} {number : ℕ} {X : Tie} {phase : Phase} {Y : Ack → Bool → Bool → Prop}

lemma free_stable : Stable Answers Free := by
  intro s t hs h
  rcases answers_cases h with rfl | ⟨_, hphase, hevents⟩ | ⟨_, _, hwaiting, _⟩
  · exact hs
  · refine ⟨hphase, ?_⟩
    rw [Shared.Owns, hevents]
    exact hs.2
  · rw [hs.1] at hwaiting
    cases hwaiting

lemma held_stable (hphase : phase = .preparing ∨ phase = .reading) :
    Stable Answers (Held phase Y) := by
  intro s t hs h
  rcases answers_cases h with rfl | ⟨hfree, _⟩ | ⟨_, _, hwaiting, _⟩
  · exact hs
  · rw [hs.1] at hfree
    rcases hphase with rfl | rfl <;> cases hfree
  · rw [hs.1] at hwaiting
    rcases hphase with rfl | rfl <;> cases hwaiting

lemma open_stable (hX : Kept kind X) : Stable Answers (Open kind number X) := by
  intro s t hs h
  rcases answers_cases h with rfl | ⟨hfree, _⟩ | ⟨n, kind', hwaiting, hkind, hcase⟩
  · exact ⟨hs.phase, hs.request, rfl, hs.own, hs.tie⟩
  · rw [hs.phase] at hfree
    cases hfree
  · rw [hs.phase] at hwaiting
    cases hwaiting
    rw [hs.request] at hkind
    cases hkind
    have hkept := hX _ _ _ _ hs.tie
    rcases hcase with ⟨hquery, rfl | ⟨status, rfl⟩⟩ | ⟨hquery, value, rfl⟩
    · exact hs
    · rw [hquery] at hkept
      refine ⟨hs.phase, hs.request, hs.up, hs.own, ?_⟩
      dsimp only [Shared.acknowledge]
      rw [if_pos hs.phase]
      exact hkept status
    · rw [hquery] at hkept
      exact ⟨hs.phase, hs.request, hs.up, hs.own, hkept⟩

end Stability

/-! ## Rules -/

section Rules

variable {α β : Type} {Q R : α → Shared → Prop} {s : Shared} {kind : RequestKind} {number : ℕ}
  {X : Tie} {phase : Phase} {Y : Ack → Bool → Bool → Prop} {upd : Shared → Shared}
  {next : Shared → Thread Shared α}

lemma fine_mono {p : Thread Shared α} (h : Fine p Q s) (hQ : ∀ a t, Q a t → R a t) : Fine p R s :=
  wp_mono h hQ

lemma fine_bind {p : Thread Shared β} {k : β → Thread Shared α}
    (h : Fine p (fun b t => Fine (k b) Q t) s) : Fine (p >>= k) Q s := wp_bind h

lemma fine_pure_free {a : α} (hs : Free s) (h : ∀ t, Free t → Q a t) : Fine (pure a) Q s :=
  wp_done hs free_stable (fun _ ht => ht.2) h

lemma fine_step_free (hs : Free s) (h : ∀ t, Free t → Fine (next t) Q (upd t)) :
    Fine (step upd next) Q s :=
  wp_step hs free_stable (fun _ ht => ht.2) fun t ht _ => h t ht

lemma fine_step_held (hphase : phase = .preparing ∨ phase = .reading) (hs : Held phase Y s)
    (h : ∀ t, Held phase Y t → Fine (next t) Q (upd t)) : Fine (step upd next) Q s :=
  wp_step hs (held_stable hphase) (fun _ ht => ht.2.1) fun t ht _ => h t ht

lemma fine_pure_held {a : α} (hphase : phase = .preparing ∨ phase = .reading) (hs : Held phase Y s)
    (h : ∀ t, Held phase Y t → Q a t) : Fine (pure a) Q s :=
  wp_done hs (held_stable hphase) (fun _ ht => ht.2.1) h

lemma fine_step_open (hX : Kept kind X) (hs : Open kind number X s)
    (h : ∀ t, Open kind number X t → Fine (next t) Q (upd t)) : Fine (step upd next) Q s :=
  wp_step hs (open_stable hX) (fun _ ht => ht.own) fun t ht _ => h t ht

lemma fine_pure_open {a : α} (hX : Kept kind X) (hs : Open kind number X s)
    (h : ∀ t, Open kind number X t → Q a t) : Fine (pure a) Q s :=
  wp_done hs (open_stable hX) (fun _ ht => ht.own) h

/-- A request: it is open, and has got nothing; with the stack gone nothing follows. -/
lemma request_fine {k : Unit → Thread Shared α} (hphase : phase = .preparing ∨ phase = .reading)
    (hs : Held phase Y s) (hX : ∀ status resp recvd, Y status resp recvd → X [] status resp recvd)
    (h : ∀ number t, Open kind number X t → Fine (k ()) Q t) : Fine (request kind >>= k) Q s := by
  simp only [request, step_bind]
  refine fine_step_held hphase hs fun t ht => ?_
  cases hup : t.stackCb with
  | true =>
      simp only [↓reduceIte, pure_bind]
      refine h t.requests.length _ ⟨rfl, ?_, hup, ht.2.1, hX _ _ _ ht.2.2⟩
      exact List.getElem?_concat_length
  | false =>
      simp only [Bool.false_eq_true, ↓reduceIte, halt_bind]
      exact wp_halt ht (held_stable hphase) fun _ hu => hu.2.1

end Rules

/-! ## How the flags are tied to what a request got -/

/-- A tie that says something of a request that got nothing, and holds of whatever it gets, is kept. -/
lemma kept_of_answered {kind : RequestKind} {X : Tie} (hkind : kind.isQuery = false)
    (h : ∀ answers status, X (answers ++ [status]) status true true) : Kept kind X := by
  intro answers _ _ _ _
  rw [hkind]
  exact fun status => h answers status

/-- The status is the last answer; only if `sure` does that go for a request that got nothing.
`resp_received` tells whether it got something. -/
def Asked (sure : Prop) : Tie := fun answers status resp _ =>
  (sure ∨ answers ≠ [] → Told answers status) ∧ (resp = true ↔ answers ≠ [])

/-- Also `ack_recvd` is only set if it got something. -/
def Cleared (sure : Prop) : Tie := fun answers status resp recvd =>
  Asked sure answers status resp recvd ∧ (recvd = true → answers ≠ [])

/-- Now `ack_recvd` tells whether it got something. -/
def Watched (sure : Prop) : Tie := fun answers status _ recvd =>
  (sure ∨ answers ≠ [] → Told answers status) ∧ (recvd = true ↔ answers ≠ [])

/-- The wait is over. -/
def Waited (sure : Prop) (ackRet : ℕ) : Tie := fun answers status resp recvd =>
  Watched sure answers status resp recvd ∧ (answers = [] → ackRet = CTRL_CHAN_RETRY_COUNT)

/-- It got something. -/
def Answered : Tie := fun answers status _ _ => answers ≠ [] ∧ Told answers status

section Ties

variable {kind : RequestKind} {sure : Prop} {ackRet : ℕ} {answers : List Ack} {status : Ack}
  {resp recvd : Bool}

lemma told_concat : Told (answers ++ [status]) status := by
  rw [Told, List.getLast?_concat, Option.getD_some]

lemma asked_kept (hkind : kind.isQuery = false) : Kept kind (Asked sure) :=
  kept_of_answered hkind fun _ _ => ⟨fun _ => told_concat, by simp⟩

lemma cleared_kept (hkind : kind.isQuery = false) : Kept kind (Cleared sure) :=
  kept_of_answered hkind fun _ _ => ⟨⟨fun _ => told_concat, by simp⟩, by simp⟩

lemma watched_kept (hkind : kind.isQuery = false) : Kept kind (Watched sure) :=
  kept_of_answered hkind fun _ _ => ⟨fun _ => told_concat, by simp⟩

lemma waited_kept (hkind : kind.isQuery = false) : Kept kind (Waited sure ackRet) :=
  kept_of_answered hkind fun _ _ => ⟨⟨fun _ => told_concat, by simp⟩, by simp⟩

lemma answered_kept (hkind : kind.isQuery = false) : Kept kind Answered :=
  kept_of_answered hkind fun _ _ => ⟨by simp, told_concat⟩

lemma Cleared.watched (h : Cleared sure answers status resp recvd) (hresp : resp = false) :
    Watched sure answers status resp recvd := by
  have hnone : answers = [] := by
    by_contra hne
    rw [h.1.2.mpr hne] at hresp
    cases hresp
  exact ⟨h.1.1, h.2, fun hne => absurd hnone hne⟩

lemma Cleared.answered (h : Cleared sure answers status resp recvd) (hresp : resp = true) :
    Answered answers status resp recvd := ⟨h.1.2.mp hresp, h.1.1 (.inr (h.1.2.mp hresp))⟩

end Ties

section Waiting

variable {α : Type} {Q : α → Shared → Prop} {s : Shared} {kind : RequestKind} {number : ℕ}
  {sure : Prop}

lemma Open.mono {X X' : Tie} (h : Open kind number X s)
    (hX : X s.answers s.ackStatus s.respReceived s.ackRecvd →
      X' s.answers s.ackStatus s.respReceived s.ackRecvd) : Open kind number X' s :=
  ⟨h.phase, h.request, h.up, h.own, hX h.tie⟩

/-- A wait is over when `ack_recvd` is set, or after all waits. -/
def Expired (X : Tie) (ackRet : ℕ) : Tie := fun answers status resp recvd =>
  X answers status resp recvd ∧ (recvd = true ∨ ackRet = CTRL_CHAN_RETRY_COUNT)

lemma expired_kept {X : Tie} {ackRet : ℕ} (hX : Kept kind X) : Kept kind (Expired X ackRet) := by
  intro answers status resp recvd h
  have hkept := hX _ _ _ _ h.1
  split_ifs at hkept ⊢
  · exact ⟨hkept, .inl rfl⟩
  · exact fun status' => ⟨hkept status', .inl rfl⟩

lemma waitLoop_expired {X : Tie} (hX : Kept kind X) (n retry : ℕ)
    (hn : n + retry = CTRL_CHAN_RETRY_COUNT) (hs : Open kind number X s) :
    Fine (waitLoop n retry) (fun ackRet t => Open kind number (Expired X ackRet) t) s := by
  induction n generalizing retry s with
  | zero =>
      have hretry : retry = CTRL_CHAN_RETRY_COUNT := by omega
      exact fine_pure_open hX hs fun t ht => ht.mono fun h => ⟨h, .inr hretry⟩
  | succ n ih =>
      refine fine_step_open hX hs fun t ht => ?_
      split_ifs with hrecvd
      · exact fine_pure_open (expired_kept hX) (ht.mono fun h => ⟨h, .inl hrecvd⟩) fun _ hu => hu
      · exact ih (retry + 1) (by omega) ht

lemma wait_expired {X : Tie} (hX : Kept kind X) (hs : Open kind number X s) :
    Fine wait_for_stack_response (fun ackRet t => Open kind number (Expired X ackRet) t) s := by
  refine fine_step_open hX hs fun t ht => ?_
  rw [if_pos ht.up]
  split_ifs with hrecvd
  · exact fine_pure_open (expired_kept hX) (ht.mono fun h => ⟨h, .inl hrecvd⟩) fun _ hu => hu
  · exact waitLoop_expired hX _ _ (by decide) ht

/-- A wait ends with an answer, or after all waits. -/
lemma wait_fine {k : ℕ → Thread Shared α} (hkind : kind.isQuery = false)
    (hs : Open kind number (Watched sure) s)
    (h : ∀ ackRet t, Open kind number (Waited sure ackRet) t → Fine (k ackRet) Q t) :
    Fine (wait_for_stack_response >>= k) Q s := by
  refine fine_bind (fine_mono (wait_expired (watched_kept hkind) hs) fun ackRet t ht => h ackRet t ?_)
  refine ht.mono fun ⟨hwatched, hover⟩ => ⟨hwatched, fun hnone => ?_⟩
  rcases hover with hrecvd | hret
  · exact absurd hnone (hwatched.2.mp hrecvd)
  · exact hret

/-- The wait after a request: it got something, or the call gives up. -/
lemma awaitAck_fine {k : Option ℕ → Thread Shared α} (hkind : kind.isQuery = false)
    (hs : Open kind number (Cleared sure) s)
    (hsome : ∀ ackRet t, Open kind number Answered t → Fine (k (some ackRet)) Q t)
    (hnone : ∀ t, Free t → Fine (k none) Q t) : Fine (awaitAck kind >>= k) Q s := by
  simp only [awaitAck, missing, read_bind, atomic_bind]
  refine fine_bind (fine_step_open (cleared_kept hkind) hs fun t ht => ?_)
  split_ifs with hresp
  · exact fine_pure_open (answered_kept hkind) (ht.mono fun h => h.answered hresp) (hsome 0)
  · have ht' : Open kind number (Watched sure) t :=
      ht.mono fun h => h.watched (Bool.eq_false_iff.mpr hresp)
    refine wait_fine hkind ht' fun ackRet u hu => ?_
    refine fine_step_open (waited_kept hkind) hu fun v hv => ?_
    by_cases hmissing : ackRet = CTRL_CHAN_RETRY_COUNT ∧ v.ackRecvd = false
    · have hgot : v.answers = [] := by
        by_contra hne
        rw [hv.tie.1.2.mpr hne] at hmissing
        cases hmissing.2
      simp only [if_pos hmissing, ↓reduceIte]
      refine fine_pure_free ⟨rfl, ?_⟩ hnone
      exact List.forall_mem_append.mpr ⟨hv.own, by simp [Event.Own, hgot, hmissing.1]⟩
    · simp only [if_neg hmissing, Bool.false_eq_true, ↓reduceIte]
      have hgot : v.answers ≠ [] := by
        intro hnil
        refine hmissing ⟨hv.tie.2 hnil, ?_⟩
        rw [Bool.eq_false_iff]
        exact fun hrecvd => hv.tie.1.2.mp hrecvd hnil
      refine fine_pure_open (answered_kept hkind) (hv.mono fun h => ?_) (hsome ackRet)
      exact ⟨hgot, h.1.1 (.inr hgot)⟩

end Waiting

/-! ## Acting on a status -/

section Acting

variable {α : Type} {Q : α → Shared → Prop} {s : Shared} {kind : RequestKind} {number ackRet : ℕ}
  {X : Tie}

/-- The status is the request's own. -/
def Settled (X : Tie) (ackRet : ℕ) : Prop := ∀ answers status resp recvd,
  X answers status resp recvd →
    Told answers status ∧ (answers = [] → ackRet = CTRL_CHAN_RETRY_COUNT)

lemma settled_answered : Settled Answered ackRet := fun _ _ _ _ h =>
  ⟨h.2, fun hnone => absurd hnone h.1⟩

lemma settled_waited : Settled (Waited True ackRet) ackRet := fun _ _ _ _ h =>
  ⟨h.1.1 (.inl trivial), h.2⟩

lemma Open.act_owns (hs : Open kind number X s) (phase : Phase) (hsettled : Settled X ackRet) :
    (s.act kind ackRet phase).Owns :=
  List.forall_mem_append.mpr ⟨hs.own, List.forall_mem_singleton.mpr (hsettled _ _ _ _ hs.tie)⟩

/-- The status is read, and nobody uses the flags any longer. -/
lemma readStatus_fine {k : Ack → Thread Shared α} (hX : Kept kind X) (hsettled : Settled X ackRet)
    (hs : Open kind number X s) (h : ∀ status t, Free t → Fine (k status) Q t) :
    Fine (readStatus kind ackRet .free >>= k) Q s := by
  simp only [readStatus, atomic_bind]
  exact fine_step_open hX hs fun t ht => h _ _ ⟨rfl, ht.act_owns .free hsettled⟩

/-- The status is read in a call that reads the codec configuration. -/
lemma readStatus_held {k : Ack → Thread Shared α} (hX : Kept kind X) (hsettled : Settled X ackRet)
    (hs : Open kind number X s)
    (h : ∀ status t, Held .reading (fun _ _ _ => True) t → Fine (k status) Q t) :
    Fine (readStatus kind ackRet .reading >>= k) Q s := by
  simp only [readStatus, atomic_bind]
  exact fine_step_open hX hs fun t ht => h _ _ ⟨rfl, ht.act_owns .reading hsettled, trivial⟩

/-- The status is read and cleared: a request that is pending has got nothing from then on. -/
lemma takeStatus_fine {k : Ack → Thread Shared α} (hkind : kind.isQuery = false)
    (hs : Open kind number Answered s)
    (hpending : ∀ t, Open kind number (Watched True) t → Fine (k .pending) Q t)
    (h : ∀ status t, status ≠ .pending → Free t → Fine (k status) Q t) :
    Fine (takeStatus kind ackRet >>= k) Q s := by
  simp only [takeStatus, atomic_bind]
  refine fine_step_open (answered_kept hkind) hs fun t ht => ?_
  by_cases hstatus : t.ackStatus = .pending
  · simp only [if_pos hstatus]
    rw [hstatus]
    refine hpending _ ⟨ht.phase, ht.request, ht.up, ht.act_owns .free settled_answered, ?_⟩
    exact ⟨fun _ => rfl, by simp [Shared.act]⟩
  · simp only [if_neg hstatus]
    exact h _ _ hstatus ⟨rfl, ht.act_owns .free settled_answered⟩

/-- A request that was pending is waited for, and its status read. -/
lemma waitAgain_fine {k : Ack → Thread Shared α} (hkind : kind.isQuery = false)
    (hs : Open kind number (Watched True) s) (h : ∀ status t, Free t → Fine (k status) Q t) :
    Fine (wait_for_stack_response >>= fun ackRet => readStatus kind ackRet .free >>= k) Q s :=
  wait_fine hkind hs fun _ _ ht => readStatus_fine (waited_kept hkind) settled_waited ht h

end Acting

/-! ## Calls -/

/-- A call that starts and ends with nobody using the flags. -/
def Proper {α : Type} (p : Thread Shared α) : Prop := ∀ s, Free s → Fine p (fun _ t => Free t) s

section Proper

variable {α β : Type}

lemma proper_pure {a : α} : Proper (pure a) := fun _ hs => fine_pure_free hs fun _ ht => ht

lemma proper_bind {p : Thread Shared β} {k : β → Thread Shared α} (hp : Proper p)
    (hk : ∀ b, Proper (k b)) : Proper (p >>= k) := fun s hs =>
  fine_bind (fine_mono (hp s hs) fun b t ht => hk b t ht)

/-- A step while nobody uses the flags. -/
lemma proper_step {upd : Shared → Shared} {next : Shared → Thread Shared α}
    (hupd : ∀ s, Free s → Free (upd s)) (hnext : ∀ s, Proper (next s)) :
    Proper (step upd next) := fun _ hs =>
  fine_step_free hs fun t ht => hnext t _ (hupd t ht)

lemma proper_ite {c : Prop} [Decidable c] {p q : Thread Shared α} (hp : Proper p) (hq : Proper q) :
    Proper (if c then p else q) := by
  split_ifs
  · exact hp
  · exact hq

lemma setState_proper (st : StreamState) : Proper (setState st) :=
  proper_step (fun _ hs => hs) fun _ => proper_pure

lemma streamState_proper : Proper streamState := proper_step (fun _ hs => hs) fun _ => proper_pure

lemma read_proper (g : Shared → α) : Proper (read g) :=
  proper_step (fun _ hs => hs) fun _ => proper_pure

lemma clearStatus_proper : Proper clearStatus := proper_step (fun _ hs => hs) fun _ => proper_pure

end Proper

section Start

variable {hal : Bool}

/-- The request that a start, or its check of the connection, makes. -/
lemma ask_proper {α : Type} {kind : RequestKind} {k : Option ℕ → Thread Shared α}
    (hkind : kind.isQuery = false) (hnone : Proper (k none))
    (hsome : ∀ ackRet number t, Open kind number Answered t →
      Fine (k (some ackRet)) (fun _ u => Free u) t) :
    Proper (do
      clearStatus
      prepareResp
      request kind
      clearRecvd
      let r ← awaitAck kind
      k r) := by
  refine proper_bind clearStatus_proper fun _ s hs => ?_
  simp only [prepareResp, clearRecvd, modify_bind]
  refine fine_step_free hs fun t ht => ?_
  have hheld : Held .preparing (fun _ resp _ => resp = false)
      { t with respReceived := false, phase := .preparing } := ⟨rfl, ht.2, rfl⟩
  refine request_fine (X := Asked False) (.inl rfl) hheld ?_ fun number u hu => ?_
  · rintro status _ recvd rfl
    exact ⟨by simp, by simp⟩
  · refine fine_step_open (asked_kept hkind) hu fun v hv => ?_
    have hcleared : Open kind number (Cleared False) { v with ackRecvd := false } :=
      ⟨hv.phase, hv.request, hv.up, hv.own, hv.tie, by simp⟩
    exact awaitAck_fine hkind hcleared (fun ackRet w hw => hsome ackRet number w hw)
      fun w hw => hnone w hw

lemma startVerdict_proper (status : Ack) : Proper (startVerdict hal status) := by
  refine proper_ite ?_ (proper_ite ?_ (proper_ite ?_ proper_pure))
  · exact proper_bind (setState_proper _) fun _ => proper_pure
  · exact proper_bind (setState_proper _) fun _ => proper_pure
  · exact proper_bind (setState_proper _) fun _ => proper_pure

lemma startPending_fine {s : Shared} {number : ℕ} (hs : Open .start number (Watched True) s) :
    Fine (startPending hal) (fun _ t => Free t) s := by
  have hread : ∀ {ackRet : ℕ} {t : Shared}, Open .start number (Waited True ackRet) t →
      Fine (readStatus .start ackRet .free >>= fun status => clearStatus >>= fun _ => pure status)
        (fun _ u => Free u) t := by
    intro ackRet t ht
    refine readStatus_fine (waited_kept rfl) settled_waited ht fun status u hu => ?_
    exact proper_bind clearStatus_proper (fun _ => proper_pure) u hu
  refine wait_fine rfl hs fun ackRet t ht => ?_
  cases hal with
  | false => exact hread ht
  | true =>
      simp only [↓reduceIte, atomic_bind]
      refine fine_step_open (waited_kept rfl) ht fun u hu => ?_
      by_cases hunknown : u.ackStatus = .unknown
      · simp only [if_pos hunknown, ↓reduceIte]
        refine proper_bind clearStatus_proper (fun _ => proper_pure) _ ⟨rfl, ?_⟩
        exact hu.act_owns .free settled_waited
      · simp only [if_neg hunknown]
        exact hread hu

lemma startRequest_proper : Proper (startRequest hal) := by
  refine ask_proper rfl proper_pure fun ackRet number t ht => ?_
  refine takeStatus_fine rfl ht (fun u hu => ?_) fun status u hstatus hu => ?_
  · simp only [↓reduceIte]
    exact fine_bind (fine_mono (startPending_fine hu) fun status v hv => startVerdict_proper status v hv)
  · rw [if_neg hstatus]
    exact startVerdict_proper status u hu

lemma startOnce_proper : Proper (startOnce hal) := by
  simp only [startOnce, atomic_bind]
  refine proper_step (fun s hs => ?_) fun s => proper_ite startRequest_proper proper_pure
  split_ifs
  · exact hs
  · exact ⟨hs.1, List.forall_mem_append.mpr ⟨hs.2, List.forall_mem_singleton.mpr trivial⟩⟩

lemma startLoop_proper (n : ℕ) : Proper (startLoop hal n) := by
  induction n with
  | zero => exact proper_pure
  | succ n ih =>
      refine proper_bind startOnce_proper fun r => ?_
      cases r with
      | none => exact ih
      | some r => exact proper_pure

lemma checkConnection_proper : Proper checkConnection := by
  refine ask_proper rfl proper_pure fun ackRet number t ht => ?_
  refine readStatus_fine (answered_kept rfl) settled_answered ht fun status u hu => ?_
  exact proper_bind clearStatus_proper (fun _ => proper_ite proper_pure proper_pure) u hu

lemma startLooper_proper (n : ℕ) : Proper (startLooper hal n) := by
  induction n with
  | zero => exact proper_pure
  | succ n ih =>
      refine proper_bind (startLoop_proper _) fun r => ?_
      cases r with
      | some r => exact proper_pure
      | none =>
          refine proper_bind checkConnection_proper fun r => ?_
          cases r with
          | some r => exact proper_pure
          | none => exact ih

lemma start_proper : Proper (audio_start_stream hal) :=
  proper_bind streamState_proper fun _ =>
    proper_ite proper_pure (proper_ite proper_pure (startLooper_proper _))

end Start

section Suspend

variable {hal : Bool}

lemma suspendRequest_proper : Proper suspendRequest := by
  intro s hs
  simp only [suspendRequest, prepareRecvd, clearResp, clearStatus, modify_bind]
  refine fine_step_free hs fun t ht => ?_
  have hrecvd : Held .preparing (fun _ _ recvd => recvd = false)
      { t with ackRecvd := false, phase := .preparing } := ⟨rfl, ht.2, rfl⟩
  refine fine_step_held (.inl rfl) hrecvd fun u hu => ?_
  have hresp : Held .preparing (fun _ resp recvd => resp = false ∧ recvd = false)
      { u with respReceived := false } := ⟨hu.1, hu.2.1, rfl, hu.2.2⟩
  refine fine_step_held (.inl rfl) hresp fun v hv => ?_
  have hstatus : Held .preparing (fun _ resp recvd => resp = false ∧ recvd = false)
      { v with ackStatus := .unknown } := hv
  refine request_fine (X := Cleared False) (.inl rfl) hstatus ?_ fun number w hw => ?_
  · rintro status _ _ ⟨rfl, rfl⟩
    exact ⟨⟨by simp, by simp⟩, by simp⟩
  · refine awaitAck_fine rfl hw (fun ackRet x hx => ?_) fun x hx => proper_pure x hx
    refine takeStatus_fine rfl hx (fun y hy => ?_) fun status y hstatus hy => ?_
    · simp only [↓reduceIte]
      refine waitAgain_fine rfl hy fun status z hz => ?_
      exact proper_bind clearStatus_proper (fun _ => proper_pure) z hz
    · rw [if_neg hstatus]
      exact proper_pure y hy

lemma stop_proper : Proper (audio_stop_stream hal) := by
  refine proper_bind (read_proper _) fun up => proper_ite ?_ ?_
  · refine proper_bind streamState_proper fun st => proper_ite ?_ ?_
    · exact proper_bind (setState_proper _) fun _ => proper_pure
    · refine proper_bind suspendRequest_proper fun status => ?_
      cases status with
      | none => exact proper_pure
      | some status =>
          refine proper_ite ?_ ?_
          · exact proper_bind (setState_proper _) fun _ => proper_pure
          · exact proper_bind (setState_proper _) fun _ => proper_pure
  · exact proper_bind (setState_proper _) fun _ => proper_pure

lemma suspend_proper : Proper (audio_suspend_stream hal) := by
  refine proper_bind (read_proper _) fun up => proper_ite ?_ proper_pure
  refine proper_bind streamState_proper fun st => proper_ite proper_pure ?_
  refine proper_bind suspendRequest_proper fun status => ?_
  cases status with
  | none => exact proper_pure
  | some status => exact proper_ite (proper_bind (setState_proper _) fun _ => proper_pure) proper_pure

/-- The request that closes the stream, whose status is looked at only after all waits. -/
lemma close_proper : Proper audio_stream_close := by
  refine proper_bind streamState_proper fun st => proper_ite ?_ proper_pure
  refine proper_bind (read_proper _) fun up => proper_ite ?_ proper_pure
  intro s hs
  simp only [prepareStatus, clearResp, clearRecvd, read_bind, modify_bind]
  refine fine_step_free hs fun t ht => ?_
  have hstatus : Held .preparing (fun status _ _ => status = .unknown)
      { t with ackStatus := .unknown, phase := .preparing } := ⟨rfl, ht.2, rfl⟩
  refine fine_step_held (.inl rfl) hstatus fun u hu => ?_
  have hresp : Held .preparing (fun status resp _ => status = .unknown ∧ resp = false)
      { u with respReceived := false } := ⟨hu.1, hu.2.1, hu.2.2, rfl⟩
  refine request_fine (X := Asked True) (.inl rfl) hresp ?_ fun number v hv => ?_
  · rintro _ _ recvd ⟨rfl, rfl⟩
    exact ⟨fun _ => rfl, by simp⟩
  · refine fine_step_open (asked_kept rfl) hv fun w hw => ?_
    have hcleared : Open .suspend number (Cleared True) { w with ackRecvd := false } :=
      ⟨hw.phase, hw.request, hw.up, hw.own, hw.tie, by simp⟩
    refine fine_step_open (cleared_kept rfl) hcleared fun x hx => ?_
    split_ifs with hreceived
    · exact fine_step_open (cleared_kept rfl) hx fun y hy => proper_pure _ ⟨rfl, hy.own⟩
    · have hwatched : Open .suspend number (Watched True) x :=
        hx.mono fun h => h.watched (Bool.eq_false_iff.mpr hreceived)
      refine wait_fine rfl hwatched fun ackRet y hy => ?_
      simp only [closeFailed, atomic_bind]
      refine fine_step_open (waited_kept rfl) hy fun z hz => ?_
      by_cases hret : ackRet = CTRL_CHAN_RETRY_COUNT
      · simp only [if_pos hret]
        exact proper_ite proper_pure proper_pure _ ⟨rfl, hz.act_owns .free settled_waited⟩
      · simp only [if_neg hret]
        exact proper_ite proper_pure proper_pure _ ⟨rfl, hz.own⟩

end Suspend

section CheckReady

lemma readyLoop_proper (n : ℕ) : Proper (readyLoop n) := by
  induction n with
  | zero => exact proper_bind clearStatus_proper fun _ => proper_pure
  | succ n ih =>
      intro s hs
      simp only [readyLoop, readyRequest, atomic_bind]
      refine fine_step_free hs fun t ht => ?_
      by_cases hup : t.stackCb = true
      · simp only [if_pos hup]
        have hopen : Open .checkA2dpReady t.requests.length (Watched True)
            (Shared.ask .checkA2dpReady { t with ackStatus := .unknown, ackRecvd := false }) :=
          ⟨rfl, List.getElem?_concat_length, hup, ht.2, fun _ => rfl, by simp [Shared.ask]⟩
        refine wait_fine rfl hopen fun ackRet u hu => ?_
        refine readStatus_fine (waited_kept rfl) settled_waited hu fun status v hv => ?_
        refine proper_ite proper_pure (proper_bind (read_proper _) fun recvd => ?_) v hv
        exact proper_ite proper_pure ih
      · simp only [if_neg hup]
        exact proper_pure t ht

lemma checkReady_proper {hal : Bool} : Proper (audio_check_a2dp_ready hal) :=
  proper_bind streamState_proper fun _ => proper_ite proper_pure (readyLoop_proper _)

end CheckReady

/-! ## Reading the codec configuration -/

/-- The status is cleared, and nobody else uses the flags. -/
def Reading (s : Shared) : Prop := Held .reading (fun status _ _ => status = .unknown) s

/-- A part of a call that reads the configuration. -/
def Steady {α : Type} (p : Thread Shared α) : Prop :=
  ∀ s, Reading s → Fine p (fun _ t => Reading t) s

section Codec

variable {α β : Type}

lemma steady_pure {a : α} : Steady (pure a) := fun _ hs =>
  fine_pure_held (.inr rfl) hs fun _ ht => ht

lemma steady_bind {p : Thread Shared β} {k : β → Thread Shared α} (hp : Steady p)
    (hk : ∀ b, Steady (k b)) : Steady (p >>= k) := fun s hs =>
  fine_bind (fine_mono (hp s hs) fun b t ht => hk b t ht)

lemma steady_read (g : Shared → α) : Steady (read g) := fun _ hs =>
  fine_step_held (.inr rfl) hs fun t ht => steady_pure t ht

lemma steady_ite {c : Prop} [Decidable c] {p q : Thread Shared α} (hp : Steady p) (hq : Steady q) :
    Steady (if c then p else q) := by
  split_ifs
  · exact hp
  · exact hq

/-- The tie of a request that is no request for an acknowledgement: the status stays cleared. -/
def Queried : Tie := fun _ status _ _ => status = .unknown

lemma queried_kept {kind : RequestKind} (hkind : kind.isQuery = true) : Kept kind Queried := by
  intro answers status resp recvd h
  rw [hkind]
  exact h

lemma queryStack_steady {kind : RequestKind} (hkind : kind.isQuery = true) :
    Steady (queryStack kind) := by
  intro s hs
  have hkept : Kept kind Queried := queried_kept hkind
  have hend : ∀ number t, Open kind number Queried t →
      Fine (modify fun s => { s with phase := .reading }) (fun _ u => Reading u) t := by
    intro number t ht
    refine fine_step_open hkept ht fun u hu => ?_
    exact steady_pure _ ⟨rfl, hu.own, hu.tie⟩
  simp only [queryStack, clearResp, clearRecvd, read_bind, modify_bind]
  refine fine_step_held (.inr rfl) hs fun t ht => ?_
  have hreset : Reading { t with respReceived := false } := ht
  refine request_fine (X := Queried) (.inr rfl) hreset (fun _ _ _ h => h) fun number u hu => ?_
  refine fine_step_open hkept hu fun v hv => ?_
  have hcleared : Open kind number Queried { v with ackRecvd := false } :=
    ⟨hv.phase, hv.request, hv.up, hv.own, hv.tie⟩
  refine fine_step_open hkept hcleared fun w hw => ?_
  split_ifs
  · exact hend number w hw
  · refine fine_bind (fine_mono (wait_expired hkept hw) fun ackRet x hx => ?_)
    exact hend number x (hx.mono fun h => h.1)

lemma multicast_steady : Steady a2dp_get_multicast_status :=
  steady_bind (steady_read _) fun _ =>
    steady_ite (steady_bind (queryStack_steady rfl) fun _ => steady_read _) steady_pure

lemma devices_steady : Steady a2dp_get_num_connected_devices :=
  steady_bind (steady_read _) fun _ => steady_ite (queryStack_steady rfl) steady_pure

/-- The request for the configuration: its status is its own, since it was cleared before. -/
lemma readConfig_steady : Steady a2dp_read_codec_config := by
  refine steady_bind (steady_read _) fun up => steady_ite ?_ steady_pure
  intro s hs
  simp only [clearResp, clearRecvd, read_bind, modify_bind]
  refine fine_step_held (.inr rfl) hs fun t ht => ?_
  have hresp : Held .reading (fun status resp _ => status = .unknown ∧ resp = false)
      { t with respReceived := false } := ⟨ht.1, ht.2.1, ht.2.2, rfl⟩
  refine request_fine (X := Asked True) (.inr rfl) hresp ?_ fun number u hu => ?_
  · rintro _ _ recvd ⟨rfl, rfl⟩
    exact ⟨fun _ => rfl, by simp⟩
  have hclear : ∀ (status : Ack) t, Held .reading (fun _ _ _ => True) t →
      Fine (clearStatus >>= fun _ => pure status) (fun _ u => Reading u) t := by
    intro status t ht
    simp only [clearStatus, modify_bind]
    exact fine_step_held (.inr rfl) ht fun u hu => steady_pure _ ⟨hu.1, hu.2.1, rfl⟩
  refine fine_step_open (asked_kept rfl) hu fun v hv => ?_
  have hcleared : Open .getCodecCfg number (Cleared True) { v with ackRecvd := false } :=
    ⟨hv.phase, hv.request, hv.up, hv.own, hv.tie, by simp⟩
  refine fine_step_open (cleared_kept rfl) hcleared fun w hw => ?_
  split_ifs with hreceived
  · have hanswered : Open .getCodecCfg number Answered w := hw.mono fun h => h.answered hreceived
    exact readStatus_held (answered_kept rfl) settled_answered hanswered hclear
  · have hwatched : Open .getCodecCfg number (Watched True) w :=
      hw.mono fun h => h.watched (Bool.eq_false_iff.mpr hreceived)
    refine wait_fine rfl hwatched fun ackRet x hx => ?_
    exact readStatus_held (waited_kept rfl) settled_waited hx hclear

lemma codecLoop_steady (n : ℕ) : Steady (codecLoop n) := by
  induction n with
  | zero => exact steady_pure
  | succ n ih => exact steady_bind readConfig_steady fun _ => steady_ite steady_pure ih

/-- A call that reads the configuration begins, with the status cleared. -/
lemma beginReading_fine {Q : α → Shared → Prop} {k : Unit → Thread Shared α} {s : Shared}
    (hs : Free s) (h : ∀ t, Reading t → Fine (k ()) Q t) : Fine (beginReading >>= k) Q s := by
  simp only [beginReading, modify_bind]
  refine wp_step hs free_stable (fun _ ht => ht.2) fun t ht hcleared => ?_
  exact h _ ⟨rfl, ht.2, hcleared ht.1 rfl⟩

/-- It reads what it needs, and ends. -/
lemma endReading_fine {p : Thread Shared β} {k : β → Thread Shared α} {s : Shared} (hs : Reading s)
    (hp : Steady p) (hk : ∀ b, Proper (k b)) :
    Fine (p >>= fun b => endReading >>= fun _ => k b) (fun _ t => Free t) s := by
  refine fine_bind (fine_mono (hp s hs) fun b t ht => ?_)
  simp only [endReading, modify_bind]
  exact fine_step_held (.inr rfl) ht fun u hu => hk b _ ⟨rfl, hu.2.1⟩

lemma codecConfig_proper : Proper audio_get_codec_config := by
  intro s hs
  have hend : ∀ t, Reading t → Fine (codecLoop STREAM_START_MAX_RETRY_COUNT >>= fun found =>
      endReading >>= fun _ =>
        if found then read Shared.stackCb >>= fun up => if up then pure 1 else pure 0
        else pure (0 : ℤ)) (fun _ t => Free t) t := by
    refine fun t ht => endReading_fine ht (codecLoop_steady _) fun found => ?_
    exact proper_ite (proper_bind (read_proper _) fun _ => proper_ite proper_pure proper_pure)
      proper_pure
  refine beginReading_fine hs fun t ht => ?_
  refine fine_bind (fine_mono (multicast_steady t ht) fun multicast u hu => ?_)
  dsimp only
  split_ifs
  · exact fine_bind (fine_mono (devices_steady u hu) fun _ v hv => hend v hv)
  · exact hend u hu

lemma nextCodecConfig_proper : Proper audio_get_next_codec_config := fun _ hs =>
  beginReading_fine hs fun _ ht =>
    endReading_fine ht (codecLoop_steady _) fun _ => proper_ite proper_pure proper_pure

end Codec

/-! ## The audio thread -/

lemma call_proper (call : Call) : Proper call.thread := by
  cases call with
  | «open» =>
      exact proper_bind (setState_proper _) fun _ =>
        proper_bind (read_proper _) fun _ => proper_ite proper_pure proper_pure
  | start hal => exact start_proper
  | stop hal => exact stop_proper
  | suspend hal => exact suspend_proper
  | close => exact close_proper
  | handoffTriggered => exact proper_bind (setState_proper _) fun _ => proper_pure
  | clearSuspendFlag =>
      exact proper_bind streamState_proper fun _ =>
        proper_ite (proper_bind (setState_proper _) fun _ => proper_pure) proper_pure
  | checkReady hal => exact checkReady_proper
  | getCodecConfig => exact codecConfig_proper
  | getNextCodecConfig => exact nextCodecConfig_proper

lemma audioThread_proper (calls : List Call) : Proper (audioThread calls) := by
  induction calls with
  | nil => exact proper_pure
  | cons call calls ih =>
      exact proper_bind (call_proper call) fun _ => proper_bind ih fun _ => proper_pure

/-- **Acknowledgements reach their own request**, in every run of the audio thread, through any calls,
in which the stack and the calls that read the codec configuration keep to `Timely`: whatever a call
has acted on is the last that the stack gave for its own request, or nothing after all waits. -/
theorem acks_reach_requests {calls : List Call} {as : List (Option StackAct)} {t : Shared}
    {p : Thread Shared (List ℤ)}
    (hr : Run (Thread.GuardedStep (fun s a t => s.stack a = some t) Timely)
      (Shared.init, audioThread calls) as (t, p)) : ∀ e ∈ t.events, e.Own := by
  have hinit : Free Shared.init := ⟨rfl, by simp [Shared.Owns, Shared.init]⟩
  exact wp_inv (wp_run hr (audioThread_proper calls _ hinit))

/-- A start that is answered while it waits. -/
theorem acks_reach_requests_answered :
    ∃ as t rs, Run (Thread.GuardedStep (fun s a t => s.stack a = some t) Timely)
        (Shared.init, audioThread [.open, .start false]) as (t, .done rs) ∧
      t.events = [.acted .start .success [.success] 1] ∧ ∀ e ∈ t.events, e.Own := by
  obtain ⟨as, t, hr, hevents⟩ := Thread.exists_run Shared.stack Timely
    (Shared.init, audioThread [.open, .start false])
    (some .init :: (List.replicate 10 none ++ some (.answer 0 .success) :: List.replicate 4 none))
    [0, 0] (fun t => t.events = [.acted .start .success [.success] 1]) (by decide +kernel)
  exact ⟨as, t, _, hr, hevents, acks_reach_requests hr⟩

/-- The stack is not shut down. -/
def StaysUp (_ : Shared) (a : Option StackAct) (_ : Shared) : Prop := ∀ status, a ≠ some (.deinit status)

instance (s : Shared) (a : Option StackAct) (t : Shared) : Decidable (StaysUp s a t) :=
  match a with
  | some (.deinit status) => .isFalse fun h => h status rfl
  | some (.answer _ _) | some (.report _ _) | some .init | none => .isTrue fun _ h => by cases h

/-- The stack says that it is ready, and then gives no answer to the request for the next codec
configuration: the call acts on the success that was meant for the question before. -/
theorem codec_config_acts_on_old_answer :
    ¬ ∀ (calls : List Call) (as : List (Option StackAct)) (t : Shared) (p : Thread Shared (List ℤ)),
      Run (Thread.GuardedStep (fun s a t => s.stack a = some t) StaysUp)
        (Shared.init, audioThread calls) as (t, p) → ∀ e ∈ t.events, e.Own := by
  intro hall
  obtain ⟨as, t, hr, hevents⟩ := Thread.exists_run Shared.stack StaysUp
    (Shared.init, audioThread [.checkReady false, .getNextCodecConfig])
    (some .init :: none :: none :: some (.answer 0 .success) :: List.replicate 14 none) [1, 1]
    (fun t => t.events =
      [.acted .checkA2dpReady .success [.success] 0, .acted .getCodecCfg .success [] 3])
    (by decide +kernel)
  have hown : Event.Own (.acted .getCodecCfg .success [] 3) :=
    hall _ _ _ _ hr _ (by rw [hevents]; exact List.mem_cons_of_mem _ (List.mem_singleton.mpr rfl))
  cases hown.1

end Bluetooth.A2dp
