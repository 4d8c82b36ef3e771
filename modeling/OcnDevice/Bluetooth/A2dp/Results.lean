import OcnDevice.Bluetooth.A2dp.Model

/-!
# What the results of the stream calls tell

`audio_start_stream`, `audio_stop_stream` and `audio_suspend_stream` return zero for success, and leave
the state of the stream behind.  A result tells the truth if it fits this state (`Truthful`).

The stack never touches the state of the stream, nor what the calls have come to, so each function is
described by what it does to these, whatever the stack does meanwhile (`Does`).  Stopping and
suspending tell the truth.  Starting does, depending on the last thing that it came to (`Tells`): not if
that was a previous command still pending, which starts the stream and returns its number; if it was
a connection that is still up, then all attempts are used up, and zero is returned for a stream that
was not started; and where it gives up without touching the state, a stream started before is still
started.
-/

namespace Bluetooth.A2dp

open Thread

/-! ## Statement -/

/-- The calls that are asked about. -/
inductive StreamCall
  | start
  | stop
  | suspend
  deriving DecidableEq, Repr

namespace StreamCall

/-- The program of such a call. -/
def thread : StreamCall → Bool → Thread Shared ℤ
  | start => audio_start_stream
  | stop => audio_stop_stream
  | suspend => audio_suspend_stream

/-- A result fits the states before and after. -/
def Fits : StreamCall → ℤ → StreamState → StreamState → Prop
  | start, r, _, after => r = 0 ↔ after = .started
  | stop, r, _, after => r = 0 → after = .standby
  | suspend, r, before, after => r = 0 ↔ before ≠ .suspended ∧ after = .suspended

/-- It does, and if it is not zero then the stream is not newly marked as started or suspended. -/
def Truthful (call : StreamCall) (r : ℤ) (before after : StreamState) : Prop :=
  call.Fits r before after ∧ (r ≠ 0 → after = .started ∨ after = .suspended → after = before)

/-- For the last thing that a call came to, if any, its result tells the truth. -/
def Tells : StreamCall → StreamState → Option Event → Prop
  | start, _, some (.acted .start status _ _) => status ≠ .previousCommandPending
  | start, before, some (.acted _ status _ _) => status = .success ↔ before = .started
  | start, before, some _ => before ≠ .started
  | _, _, _ => True

end StreamCall

/-! ## What is not touched by the stack -/

/-- The state of the stream, and what the calls have come to. -/
def Shared.told (s : Shared) : StreamState × List Event := (s.state, s.events)

lemma told_stack {s t : Shared} {a : StackAct} (h : s.stack a = some t) : t.told = s.told := by
  cases a with
  | answer number status =>
      obtain ⟨kind, _, h⟩ := Option.bind_eq_some_iff.mp h
      split_ifs at h <;> cases h <;> rfl
  | report number value =>
      obtain ⟨kind, _, h⟩ := Option.bind_eq_some_iff.mp h
      split at h
      · cases h
        rfl
      · cases h
  | deinit status =>
      cases h
      rfl
  | init =>
      cases h
      rfl

/-- The stack does something. -/
def StackSteps (s t : Shared) : Prop := ∃ a, s.stack a = some t

lemma told_steps (s t : Shared) (h : StackSteps s t) : t.told = s.told := told_stack h.choose_spec

/-- What a program can come to, from a state of the stream and a history. -/
def Does {α : Type} (p : Thread Shared α) (st : StreamState) (l : List Event)
    (Q : α → StreamState → List Event → Prop) : Prop :=
  p.Ends StackSteps Shared.told (st, l) fun a v => Q a v.1 v.2

section Rules

variable {α β : Type} {st : StreamState} {l : List Event} {Q R : α → StreamState → List Event → Prop}

lemma does_mono {p : Thread Shared α} (h : Does p st l Q) (hQ : ∀ a st' l', Q a st' l' → R a st' l') :
    Does p st l R := ends_mono h fun a v => hQ a v.1 v.2

lemma does_pure {a : α} (h : Q a st l) : Does (pure a) st l Q := ends_done told_steps h

lemma does_bind {p : Thread Shared β} {k : β → Thread Shared α}
    (h : Does p st l fun b st' l' => Does (k b) st' l' Q) : Does (p >>= k) st l Q := ends_bind h

lemma does_step {upd : Shared → Shared} {next : Shared → Thread Shared α}
    (h : ∀ s, s.state = st → s.events = l → Does (next s) (upd s).state (upd s).events Q) :
    Does (step upd next) st l Q := by
  refine ends_step told_steps fun s hs => ?_
  exact h s (congrArg Prod.fst hs) (congrArg Prod.snd hs)

/-- A step that only touches the flags. -/
lemma does_keep {upd : Shared → Shared} {next : Shared → Thread Shared α}
    (hupd : ∀ s, (upd s).told = s.told) (h : ∀ s, Does (next s) st l Q) :
    Does (step upd next) st l Q := by
  refine does_step fun s hst hl => ?_
  have hs := hupd s
  rw [Shared.told, Shared.told, Prod.mk.injEq, hst, hl] at hs
  rw [hs.1, hs.2]
  exact h s

end Rules

section Functions

variable {α : Type} {st : StreamState} {l : List Event} {Q : α → StreamState → List Event → Prop}

lemma setState_does {st' : StreamState} {k : Unit → Thread Shared α} (h : Does (k ()) st' l Q) :
    Does (setState st' >>= k) st l Q := by
  refine does_step fun s _ hl => ?_
  dsimp only
  rw [hl]
  exact h

lemma streamState_does {k : StreamState → Thread Shared α} (h : Does (k st) st l Q) :
    Does (streamState >>= k) st l Q := by
  refine does_step fun s hst hl => ?_
  dsimp only [id]
  rw [hst, hl]
  exact h

lemma request_does {kind : RequestKind} {k : Unit → Thread Shared α} (h : Does (k ()) st l Q) :
    Does (request kind >>= k) st l Q := by
  simp only [request, step_bind]
  refine does_keep (fun s => ?_) fun s => ?_
  · split_ifs <;> rfl
  · split_ifs
    · exact h
    · exact ends_halt

lemma readStatus_does {kind : RequestKind} {ackRet : ℕ} {phase : Phase} {k : Ack → Thread Shared α}
    (h : ∀ status answers, Does (k status) st (l ++ [Event.acted kind status answers ackRet]) Q) :
    Does (readStatus kind ackRet phase >>= k) st l Q := by
  refine does_step fun s hst hl => ?_
  dsimp only [Shared.act]
  rw [hst, hl]
  exact h _ _

lemma takeStatus_does {kind : RequestKind} {ackRet : ℕ} {k : Ack → Thread Shared α}
    (h : ∀ status answers, Does (k status) st (l ++ [Event.acted kind status answers ackRet]) Q) :
    Does (takeStatus kind ackRet >>= k) st l Q := by
  refine does_step fun s hst hl => ?_
  dsimp only [Shared.act]
  split_ifs <;> dsimp only <;> rw [hst, hl] <;> exact h _ _

lemma waitLoop_does (n retry : ℕ) :
    Does (waitLoop n retry) st l fun _ st' l' => st' = st ∧ l' = l := by
  induction n generalizing retry with
  | zero => exact does_pure ⟨rfl, rfl⟩
  | succ n ih =>
      refine does_keep (fun s => rfl) fun s => ?_
      split_ifs
      · exact does_pure ⟨rfl, rfl⟩
      · exact ih (retry + 1)

/-- Waiting leaves everything as it is. -/
lemma wait_does {k : ℕ → Thread Shared α} (h : ∀ ackRet, Does (k ackRet) st l Q) :
    Does (wait_for_stack_response >>= k) st l Q := by
  refine does_bind (does_keep (fun s => rfl) fun s => ?_)
  split_ifs
  · exact does_pure (h 0)
  · refine does_mono (waitLoop_does _ _) ?_
    rintro ackRet _ _ ⟨rfl, rfl⟩
    exact h ackRet
  · exact does_pure (h 0)

lemma awaitAck_does {kind : RequestKind} {k : Option ℕ → Thread Shared α}
    (hsome : ∀ ackRet, Does (k (some ackRet)) st l Q)
    (hnone : ∀ answers ackRet, Does (k none) st (l ++ [Event.gaveUp kind answers ackRet]) Q) :
    Does (awaitAck kind >>= k) st l Q := by
  simp only [awaitAck, missing, read_bind, atomic_bind]
  refine does_bind (does_keep (fun s => rfl) fun s => ?_)
  split_ifs
  · exact does_pure (hsome 0)
  · refine wait_does fun ackRet => does_step fun s hst hl => ?_
    by_cases hmissing : ackRet = CTRL_CHAN_RETRY_COUNT ∧ s.ackRecvd = false
    · simp only [if_pos hmissing, hst, hl, ↓reduceIte]
      exact does_pure (hnone s.answers ackRet)
    · simp only [if_neg hmissing, hst, hl]
      exact does_pure (hsome ackRet)

end Functions

/-! ## Starting -/

/-- A start has come to an end, with a last thing that it came to: its result tells the truth if and
only if that thing says so. -/
def Ended (st : StreamState) (l : List Event) (r : ℤ) (st' : StreamState) (l' : List Event) : Prop :=
  ∃ es e, l' = l ++ (es ++ [e]) ∧
    (StreamCall.start.Truthful r st st' ↔ StreamCall.start.Tells st (some e))

/-- A start has come to an end, or goes on with the state as it was. -/
def Attempted (st : StreamState) (l : List Event) : Option ℤ → StreamState → List Event → Prop
  | some r, st', l' => Ended st l r st' l'
  | none, st', l' => st' = st ∧ l <+: l'

section Start

variable {st : StreamState} {l : List Event} {hal : Bool}

/-- An exit that leaves the state as it is, with a failure. -/
lemma truthful_failure {r : ℤ} (hr : r ≠ 0) :
    StreamCall.start.Truthful r st st ↔ st ≠ .started := by
  simp only [StreamCall.Truthful, StreamCall.Fits, hr, false_iff, implies_true, and_true, ne_eq]

lemma Ended.prepend {es l' : List Event} {r : ℤ} {st' : StreamState}
    (h : Ended st (l ++ es) r st' l') : Ended st l r st' l' := by
  obtain ⟨fs, e, hl', hiff⟩ := h
  exact ⟨es ++ fs, e, by rw [hl', List.append_assoc, List.append_assoc], hiff⟩

lemma Ended.failure {e : Event} {r : ℤ} (hr : r ≠ 0)
    (he : StreamCall.start.Tells st (some e) ↔ st ≠ .started) : Ended st l r st (l ++ [e]) :=
  ⟨[], e, rfl, (truthful_failure hr).trans he.symm⟩

/-- The second wait: what is made of the status is what was read, or success for an answer that did not
come. -/
lemma startPending_does {α : Type} {Q : α → StreamState → List Event → Prop}
    {k : Ack → Thread Shared α}
    (h : ∀ status told answers ackRet, status = told ∨ told = .unknown ∧ status = .success →
      Does (k status) st (l ++ [Event.acted .start told answers ackRet]) Q) :
    Does (startPending hal >>= k) st l Q := by
  simp only [startPending, clearStatus, modify_bind, atomic_bind]
  refine does_bind (wait_does fun ackRet => ?_)
  cases hal with
  | false =>
      refine readStatus_does fun status answers => does_keep (fun s => rfl) fun _ => does_pure ?_
      exact h status status answers ackRet (.inl rfl)
  | true =>
      refine does_step fun s hst hl => ?_
      by_cases hunknown : s.ackStatus = .unknown
      · simp only [if_pos hunknown, hst, hl, ↓reduceIte, Shared.act]
        refine does_keep (fun s => rfl) fun _ => does_pure ?_
        rw [hunknown]
        exact h .success .unknown s.answers ackRet (.inr ⟨rfl, rfl⟩)
      · simp only [if_neg hunknown, hst, hl]
        refine readStatus_does fun status answers => does_keep (fun s => rfl) fun _ => does_pure ?_
        exact h status status answers ackRet (.inl rfl)

/-- What is made of a status after it has been read. -/
lemma startVerdict_does {status told : Ack} {answers : List Ack} {ackRet : ℕ} {es : List Event}
    (htold : status = told ∨ told = .unknown ∧ status = .success) :
    Does (startVerdict hal status) st (l ++ es ++ [Event.acted .start told answers ackRet])
      (Attempted st l) := by
  have hended : ∀ {r : ℤ} {st' : StreamState},
      (StreamCall.start.Truthful r st st' ↔ told ≠ .previousCommandPending) →
      Ended st l r st' (l ++ es ++ [Event.acted .start told answers ackRet]) := by
    intro r st' hiff
    exact ⟨es, _, List.append_assoc _ _ _, hiff⟩
  rw [startVerdict]
  split_ifs with hsuccess hstop hhal
  · refine setState_does (does_pure (hended ?_))
    have hne : told ≠ .previousCommandPending := by
      rintro rfl
      simp [hsuccess] at htold
    simp [hsuccess, hne, Ack.toInt, StreamCall.Truthful, StreamCall.Fits]
  · refine setState_does (does_pure (hended ?_))
    have hne : told ≠ .previousCommandPending := by
      rintro rfl
      rcases htold with rfl | ⟨hcontra, _⟩
      · simp at hstop
      · cases hcontra
    rcases hstop with rfl | rfl | rfl | rfl <;>
      simp [hne, Ack.toInt, StreamCall.Truthful, StreamCall.Fits]
  · refine setState_does (does_pure (hended ?_))
    obtain ⟨_, rfl⟩ := hhal
    have hpending : told = .previousCommandPending := by
      rcases htold with h | ⟨_, hcontra⟩
      · exact h.symm
      · cases hcontra
    simp [hpending, Ack.toInt, StreamCall.Truthful, StreamCall.Fits]
  · refine does_pure ⟨rfl, ?_⟩
    rw [List.append_assoc]
    exact List.prefix_append _ _

lemma startRequest_does :
    Does (startRequest hal) st l (Attempted st l) := by
  simp only [startRequest, clearStatus, prepareResp, clearRecvd, modify_bind]
  refine does_keep (fun s => rfl) fun _ => does_keep (fun s => rfl) fun _ => ?_
  refine request_does (does_keep (fun s => rfl) fun _ => awaitAck_does ?_ ?_)
  · intro ackRet
    refine takeStatus_does fun status answers => ?_
    split_ifs
    · refine startPending_does fun status' told answers' ackRet' htold => ?_
      exact startVerdict_does htold
    · have h : Does (startVerdict hal status) st (l ++ [] ++ [Event.acted .start status answers ackRet])
          (Attempted st l) := startVerdict_does (.inl rfl)
      rwa [List.append_nil] at h
  · intro answers ackRet
    exact does_pure (.failure (by decide) Iff.rfl)

lemma startOnce_does :
    Does (startOnce hal) st l (Attempted st l) := by
  simp only [startOnce, atomic_bind]
  refine does_step fun s hst hl => ?_
  cases s.stackCb with
  | true =>
      simp only [↓reduceIte, hst, hl]
      exact startRequest_does
  | false =>
      simp only [Bool.false_eq_true, ↓reduceIte, hst, hl]
      exact does_pure (.failure (by decide) Iff.rfl)

/-- The inner loop comes to an end, or has left the state as it was. -/
lemma startLoop_does (n : ℕ) :
    Does (startLoop hal n) st l (Attempted st l) := by
  induction n generalizing l with
  | zero => exact does_pure ⟨rfl, List.prefix_rfl⟩
  | succ n ih =>
      refine does_bind (does_mono startOnce_does ?_)
      intro r st' l' h
      cases r with
      | some r => exact does_pure h
      | none =>
          obtain ⟨rfl, es, rfl⟩ := h
          refine does_mono ih ?_
          intro r st'' l'' h
          cases r with
          | some r => exact h.prepend
          | none => exact ⟨h.1, (List.prefix_append _ _).trans h.2⟩

lemma checkConnection_does :
    Does checkConnection st l fun r st' l' => match r with
      | some r => Ended st l r st' l'
      | none => st' = st ∧
          ∃ answers ackRet, l' = l ++ [Event.acted .getConnectionStatus .success answers ackRet] := by
  simp only [checkConnection, clearStatus, prepareResp, clearRecvd, modify_bind]
  refine does_keep (fun s => rfl) fun _ => does_keep (fun s => rfl) fun _ => ?_
  refine request_does (does_keep (fun s => rfl) fun _ => awaitAck_does ?_ ?_)
  · intro ackRet
    refine readStatus_does fun status answers => does_keep (fun s => rfl) fun _ => ?_
    split_ifs with hsuccess
    · rw [hsuccess]
      exact does_pure ⟨rfl, answers, ackRet, rfl⟩
    · refine does_pure (.failure (by decide) ?_)
      simp [StreamCall.Tells, hsuccess]
  · intro answers ackRet
    exact does_pure (.failure (by decide) Iff.rfl)

/-- The outer loop comes to an end, if it is entered at all. -/
lemma startLooper_does (n : ℕ) :
    Does (startLooper hal n) st l fun r st' l' =>
      Ended st l r st' l' ∨ r = 0 ∧ st' = st ∧ l' = l ∧ n = 0 := by
  induction n generalizing l with
  | zero => exact does_pure (.inr ⟨rfl, rfl, rfl, rfl⟩)
  | succ n ih =>
      refine does_bind (does_mono (startLoop_does _) ?_)
      intro r st₁ l₁ h
      cases r with
      | some r => exact does_pure (.inl h)
      | none =>
          obtain ⟨rfl, es, rfl⟩ := h
          refine does_bind (does_mono checkConnection_does ?_)
          intro r st₂ l₂ h
          cases r with
          | some r => exact does_pure (.inl h.prepend)
          | none =>
              obtain ⟨rfl, answers, ackRet, rfl⟩ := h
              refine does_mono ih ?_
              intro r st₃ l₃ h
              left
              rcases h with h | ⟨rfl, rfl, rfl, _⟩
              · exact h.prepend.prepend
              · -- all attempts are used up, and the connection is still up
                refine ⟨es, _, List.append_assoc _ _ _, ?_⟩
                simp [StreamCall.Truthful, StreamCall.Fits, StreamCall.Tells]

end Start

/-! ## All three calls -/

/-- A call is over: its result tells the truth if and only if the last thing that it came to says so. -/
def Over (call : StreamCall) (st : StreamState) (l : List Event) (r : ℤ) (st' : StreamState)
    (l' : List Event) : Prop :=
  ∃ es, l' = l ++ es ∧ (call.Truthful r st st' ↔ call.Tells st es.getLast?)

section Calls

variable {st : StreamState} {l l' : List Event} {hal : Bool}

lemma Ended.over {r : ℤ} {st' : StreamState} (h : Ended st l r st' l') :
    Over .start st l r st' l' := by
  obtain ⟨es, e, hl', hiff⟩ := h
  exact ⟨es ++ [e], hl', by rwa [List.getLast?_concat]⟩

/-- The start of a stream. -/
lemma start_does : Does (audio_start_stream hal) st l (Over .start st l) := by
  refine streamState_does ?_
  split_ifs with hsuspended hstarted
  · refine does_pure ⟨[], (List.append_nil l).symm, ?_⟩
    simp [StreamCall.Truthful, StreamCall.Fits, StreamCall.Tells, hsuspended]
  · refine does_pure ⟨[], (List.append_nil l).symm, ?_⟩
    simp [StreamCall.Truthful, StreamCall.Fits, StreamCall.Tells, hstarted.2]
  · refine does_mono (startLooper_does _) ?_
    intro r st' l' h
    rcases h with h | ⟨_, _, _, hcontra⟩
    · exact h.over
    · cases hcontra

/-- The request to suspend leaves the state as it is. -/
lemma suspendRequest_does {α : Type} {Q : α → StreamState → List Event → Prop}
    {k : Option Ack → Thread Shared α} (h : ∀ status l', l <+: l' → Does (k status) st l' Q) :
    Does (suspendRequest >>= k) st l Q := by
  simp only [suspendRequest, clearStatus, clearResp, prepareRecvd, modify_bind]
  refine does_bind (does_keep (fun s => rfl) fun _ => does_keep (fun s => rfl) fun _ => ?_)
  refine does_keep (fun s => rfl) fun _ => request_does (awaitAck_does ?_ ?_)
  · intro ackRet
    refine takeStatus_does fun status answers => ?_
    split_ifs
    · refine wait_does fun ackRet' => readStatus_does fun status' answers' => ?_
      refine does_keep (fun s => rfl) fun _ => does_pure ?_
      exact h (some status') _ ((List.prefix_append _ _).trans (List.prefix_append _ _))
    · exact does_pure (h (some status) _ (List.prefix_append _ _))
  · intro answers ackRet
    exact does_pure (h none _ (List.prefix_append _ _))

/-- A call of which nothing depends on what it came to. -/
lemma over_of_truthful {call : StreamCall} {r : ℤ} {st' : StreamState} (hcall : call ≠ .start)
    (hl : l <+: l') (h : call.Truthful r st st') : Over call st l r st' l' := by
  obtain ⟨es, rfl⟩ := hl
  refine ⟨es, rfl, ?_⟩
  cases call with
  | start => exact absurd rfl hcall
  | stop => exact iff_of_true h trivial
  | suspend => exact iff_of_true h trivial

lemma stop_does : Does (audio_stop_stream hal) st l (Over .stop st l) := by
  have hfail : StreamCall.stop.Truthful (-1) st .stopped := by
    simp [StreamCall.Truthful, StreamCall.Fits]
  simp only [audio_stop_stream, read_bind]
  refine does_keep (fun s => rfl) fun s => ?_
  split_ifs
  · refine streamState_does ?_
    split_ifs
    · exact setState_does (does_pure (over_of_truthful (by decide) List.prefix_rfl hfail))
    · refine suspendRequest_does fun status l' hl => ?_
      cases status with
      | none =>
          refine does_pure (over_of_truthful (by decide) hl ?_)
          simp [StreamCall.Truthful, StreamCall.Fits]
      | some status =>
          dsimp only
          split_ifs
          · refine setState_does (does_pure (over_of_truthful (by decide) hl ?_))
            simp [StreamCall.Truthful, StreamCall.Fits]
          · exact setState_does (does_pure (over_of_truthful (by decide) hl hfail))
  · exact setState_does (does_pure (over_of_truthful (by decide) List.prefix_rfl hfail))

lemma suspend_does : Does (audio_suspend_stream hal) st l (Over .suspend st l) := by
  have hfail : StreamCall.suspend.Truthful (-1) st st := by
    simp [StreamCall.Truthful, StreamCall.Fits]
  simp only [audio_suspend_stream, read_bind]
  refine does_keep (fun s => rfl) fun s => ?_
  split_ifs
  · refine streamState_does ?_
    split_ifs with hst
    · exact does_pure (over_of_truthful (by decide) List.prefix_rfl hfail)
    · refine suspendRequest_does fun status l' hl => ?_
      cases status with
      | none => exact does_pure (over_of_truthful (by decide) hl hfail)
      | some status =>
          dsimp only
          split_ifs
          · refine setState_does (does_pure (over_of_truthful (by decide) hl ?_))
            simp [StreamCall.Truthful, StreamCall.Fits, hst]
          · exact does_pure (over_of_truthful (by decide) hl hfail)
  · exact does_pure (over_of_truthful (by decide) List.prefix_rfl hfail)

lemma call_does (call : StreamCall) : Does (call.thread hal) st l (Over call st l) := by
  cases call with
  | start => exact start_does
  | stop => exact stop_does
  | suspend => exact suspend_does

end Calls

/-- **When a result tells the truth.**  From every state, in whatever way the stack answers, does not
answer or shuts down during the call, the result of a call that returns tells the truth if and only if
the last thing that the call came to says so. -/
theorem result_tells_truth {call : StreamCall} {hal : Bool} {s t : Shared} {r : ℤ}
    {as : List (Option StackAct)}
    (hr : Run (Thread.Step fun s a t => s.stack a = some t) (s, call.thread hal) as (t, .done r)) :
    call.Truthful r s.state t.state ↔
      call.Tells s.state (t.events.drop s.events.length).getLast? := by
  have hdoes : Does (call.thread hal) s.state s.events (Over call s.state s.events) :=
    call_does call
  obtain ⟨es, hes, hiff⟩ := Ends.run hdoes hr
  have hdrop : t.events.drop s.events.length = es := by
    rw [show t.events = s.events ++ es from hes, List.drop_left]
  rw [hdrop]
  exact hiff

/-- A stream that has been opened, with the stack there. -/
def Shared.opened : Shared := { Shared.init with state := .stopped, stackCb := true }

lemma opened_reached : ∃ as rs, Run (Thread.Step fun s a t => s.stack a = some t)
    (Shared.init, audioThread [.open]) as (Shared.opened, .done rs) := by
  have hr : Run (Thread.Step fun s a t => s.stack a = some t) (Shared.init, audioThread [.open])
      [some .init, none, none] (Shared.opened, .done [0]) := by
    refine .snoc (.snoc (.snoc (.nil _) (.other rfl)) (.own _ _ _)) (.own _ _ _)
  exact ⟨_, _, hr⟩

/-- The program of a call on an opened stream, executed. -/
lemma run_call (call : StreamCall) (hal : Bool) (as : List (Option StackAct)) (r : ℤ)
    (st : StreamState) (l : List Event)
    (h : ((execBy (Thread.advance Shared.stack fun _ _ _ => True)
        (Shared.opened, call.thread hal) as).map fun p =>
          decide (p.1.2.result = some r ∧ p.1.1.told = (st, l))) = some true) :
    ∃ as t, Run (Thread.Step fun s a t => s.stack a = some t) (Shared.opened, call.thread hal) as
      (t, .done r) ∧ t.told = (st, l) := by
  obtain ⟨as', t, hrun, htold⟩ := Thread.exists_run Shared.stack (fun _ _ _ => True)
    (Shared.opened, call.thread hal) as r (fun t => t.told = (st, l)) h
  exact ⟨as', t, hrun.mono fun _ _ _ hst => hst.1, htold⟩

/-- A start that is answered while it waits. -/
theorem result_tells_truth_answered :
    ∃ as t, Run (Thread.Step fun s a t => s.stack a = some t)
        (Shared.opened, StreamCall.start.thread false) as (t, .done 0) ∧
      (StreamCall.start.Truthful 0 .stopped t.state ↔
        StreamCall.start.Tells .stopped (t.events.drop 0).getLast?) := by
  obtain ⟨as, t, hr, _⟩ := run_call .start false
    [none, none, none, none, none, none, none, none, some (.answer 0 .success), none, none, none,
      none] 0 .started [.acted .start .success [.success] 1] (by decide +kernel)
  exact ⟨as, t, hr, result_tells_truth hr⟩

/-- With the property set, an opened stream is started, but the stack has still a previous command
pending: the stream is marked as started, and six is returned. -/
theorem start_returns_pending :
    ∃ s, (∃ as rs, Run (Thread.Step fun s a t => s.stack a = some t)
        (Shared.init, audioThread [.open]) as (s, .done rs)) ∧
      ∃ as t, Run (Thread.Step fun s a t => s.stack a = some t)
          (s, StreamCall.start.thread true) as (t, .done 6) ∧
        t.state = .started ∧ ¬ StreamCall.start.Truthful 6 s.state t.state := by
  obtain ⟨as, t, hr, htold⟩ := run_call .start true
    [none, none, none, none, none, some (.answer 0 .previousCommandPending), none, none, none, none]
    6 .started [.acted .start .previousCommandPending [.previousCommandPending] 0]
    (by decide +kernel)
  have hstate : t.state = .started := congrArg Prod.fst htold
  refine ⟨Shared.opened, opened_reached, as, t, hr, hstate, ?_⟩
  rw [hstate]
  simp [StreamCall.Truthful, StreamCall.Fits]

end Bluetooth.A2dp
