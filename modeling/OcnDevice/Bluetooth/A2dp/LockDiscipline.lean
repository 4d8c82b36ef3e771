import OcnDevice.Bluetooth.A2dp.Locks

/-!
# The lock discipline

A call should unlock only what it holds, hold nothing when it returns, change the state of the stream
only while it holds `audio_stream.lock`, and call through `stack_cb` only when it is not null.  So it
is in every run in which the calls come to no wrong juncture (`lock_discipline`).

The wrong ones are: `audio_stop_stream` or `audio_suspend_stream` takes a pending status first, and so
unlocks `ack_lock` twice; `audio_suspend_stream` takes a status that counts as success, and sets the
state when it has unlocked `lock`; or the stack is shut down after the call has looked at `stack_cb`,
and before it calls through it.

What a call holds at each of its steps is an assertion that the others keep (`At`).  Each part of a
call has a triple between two of these.
-/

namespace Bluetooth.A2dp.Locks

open Thread

/-! ## Statement -/

/-- A juncture that does not go wrong. -/
def Juncture.Fine : Juncture → Prop
  | request shutdown => shutdown = false
  | stopStatus status => status ≠ .pending
  | suspendStatus hal status => status ≠ .pending ∧ succeeds hal status = false

instance (j : Juncture) : Decidable j.Fine :=
  match j with
  | .request _ => inferInstanceAs (Decidable (_ = _))
  | .stopStatus _ => inferInstanceAs (Decidable (_ ≠ _))
  | .suspendStatus _ _ => inferInstanceAs (Decidable (_ ∧ _))

/-- The calls come to no wrong juncture. -/
def Careful (_ : Shared) (_ : Option Other) (t : Shared) : Prop := ∀ j ∈ t.junctures, j.Fine

instance (s : Shared) (a : Option Other) (t : Shared) : Decidable (Careful s a t) :=
  inferInstanceAs (Decidable (∀ j ∈ t.junctures, j.Fine))

/-- The others do something. -/
def Others (s t : Shared) : Prop := ∃ e, s.other e = some t ∧ Careful s (some e) t

/-- Nothing goes against the discipline from `P` to `Q`. -/
abbrev Keeps {α : Type} (P : Shared → Prop) (p : Thread Shared α) (Q : α → Shared → Prop) : Prop :=
  Triple Others (fun s t => Careful s none t) (fun s => s.faults = []) P p Q

/-! ## What a call holds -/

/-- The call has locked `lock` this often, and `ack_lock` or not; if `up`, it has found `stack_cb` set;
and nothing has gone against the discipline. -/
structure At (lock : ℕ) (ackLock up : Bool) (s : Shared) : Prop where
  lock : s.lock = lock
  ackLock : s.ackLock = ackLock
  up : up = true → s.shutdown = false → s.stackCb = true
  clean : s.faults = []

section Steps

variable {l : ℕ} {a up : Bool} {s : Shared}

/-- The others leave it alone. -/
lemma at_sound (l : ℕ) (a up : Bool) : Sound Others (fun s => s.faults = []) (At l a up) := by
  refine ⟨?_, fun t ht => ht.clean⟩
  rintro s t hs ⟨e, he, -⟩
  cases e with
  | init =>
      cases he
      exact ⟨hs.lock, hs.ackLock, fun _ _ => rfl, hs.clean⟩
  | deinit status =>
      obtain ⟨-, he⟩ := Option.ite_none_left_eq_some.mp he
      cases he
      exact ⟨hs.lock, hs.ackLock, fun _ h => absurd h Bool.true_eq_false_eq_False, hs.clean⟩
  | audio state ackStatus ackRecvd respReceived =>
      obtain ⟨-, he⟩ := Option.ite_none_right_eq_some.mp he
      cases he
      exact ⟨hs.lock, hs.ackLock, hs.up, hs.clean⟩
  | acknowledge status =>
      obtain ⟨-, he⟩ := Option.ite_none_left_eq_some.mp he
      cases he
      exact ⟨hs.lock, hs.ackLock, hs.up, hs.clean⟩
  | report =>
      obtain ⟨-, he⟩ := Option.ite_none_left_eq_some.mp he
      cases he
      exact ⟨hs.lock, hs.ackLock, hs.up, hs.clean⟩

/-- Something is changed. -/
lemma modify_keeps {l' : ℕ} {a' up' : Bool} {f : Shared → Shared}
    (h : ∀ s, At l a up s → Careful s none (f s) → At l' a' up' (f s)) :
    Keeps (At l a up) (modify f) fun _ => At l' a' up' :=
  Triple.atomic (f := fun s => ((), f s)) (at_sound l a up) (fun _ => at_sound l' a' up') h

/-- Something is read. -/
lemma read_keeps {β : Type} (g : Shared → β) : Keeps (At l a up) (read g) fun _ => At l a up :=
  Triple.atomic (f := fun s => (g s, s)) (at_sound l a up) (fun _ => at_sound l a up)
    fun _ hs _ => hs

/-- Whether `stack_cb` has been found set does not matter any more. -/
lemma At.forget (h : At l a up s) : At l a false s :=
  ⟨h.lock, h.ackLock, fun hup => absurd hup Bool.false_ne_true, h.clean⟩

lemma pure_keeps {α : Type} {r : α} {Q : α → Shared → Prop} (h : ∀ s, At l a up s → Q r s) :
    Keeps (At l a up) (pure r) Q := Triple.done (at_sound l a up) h

lemma lock_keeps : Keeps (At 0 a up) lock fun _ => At 1 a up :=
  modify_keeps fun s hs _ => ⟨by rw [hs.lock], hs.ackLock, hs.up, hs.clean⟩

lemma unlock_keeps : Keeps (At 1 a up) unlock fun _ => At 0 a up := by
  refine modify_keeps fun s hs _ => ?_
  rw [if_neg (by rw [hs.lock]; exact Nat.one_ne_zero)]
  exact ⟨by rw [hs.lock], hs.ackLock, hs.up, hs.clean⟩

lemma lockAck_keeps : Keeps (At l false up) lockAck fun _ => At l true up := by
  refine Triple.step (R := fun s t => s.ackLock = false ∧ At l true up t) (at_sound l false up)
    (fun s hs _ => ⟨hs.ackLock, hs.lock, rfl, hs.up, hs.clean⟩) fun s => Triple.of_pure fun h => ?_
  rw [h, if_neg Bool.false_ne_true]
  exact pure_keeps fun _ ht => ht

lemma unlockAck_keeps : Keeps (At l true up) unlockAck fun _ => At l false up := by
  refine modify_keeps fun s hs _ => ?_
  rw [if_pos hs.ackLock]
  exact ⟨hs.lock, rfl, hs.up, hs.clean⟩

lemma setState_keeps (state : StreamState) :
    Keeps (At 1 a up) (setState state) fun _ => At 1 a up := by
  refine modify_keeps fun s hs _ => ?_
  rw [if_neg (by rw [hs.lock]; exact Nat.one_ne_zero)]
  exact ⟨hs.lock, hs.ackLock, hs.up, hs.clean⟩

lemma clearStatus_keeps : Keeps (At l a up) clearStatus fun _ => At l a up :=
  modify_keeps fun _ hs _ => ⟨hs.lock, hs.ackLock, hs.up, hs.clean⟩

lemma clearRecvd_keeps : Keeps (At l a up) clearRecvd fun _ => At l a up :=
  modify_keeps fun _ hs _ => ⟨hs.lock, hs.ackLock, hs.up, hs.clean⟩

lemma clearResp_keeps : Keeps (At l a up) clearResp fun _ => At l a up :=
  modify_keeps fun _ hs _ => ⟨hs.lock, hs.ackLock, hs.up, hs.clean⟩

/-- A test of `stack_cb` finds it set or not. -/
lemma testStack_keeps : Keeps (At l a up) testStack fun b => At l a b := by
  refine Triple.atomic (at_sound l a up) (fun b => at_sound l a b) fun s hs _ => ?_
  cases hstack : s.stackCb with
  | true => exact ⟨hs.lock, hs.ackLock, fun _ _ => rfl, hs.clean⟩
  | false => exact ⟨hs.lock, hs.ackLock, fun h => absurd h Bool.false_ne_true, hs.clean⟩

/-- **A call through `stack_cb`**, which it has found set. -/
lemma request_keeps : Keeps (At l a true) request fun _ => At l a true := by
  refine Triple.step (R := fun s t => s.stackCb = true ∧ At l a true t) (at_sound l a true)
    (fun s hs hcareful => ?_) fun _ => Triple.of_pure fun h => ?_
  · have hshut : s.shutdown = false := by
      refine hcareful (.request s.shutdown) ?_
      split_ifs <;> exact List.mem_append_right _ (List.mem_singleton_self _)
    have hstack := hs.up rfl hshut
    rw [if_pos hstack]
    exact ⟨hstack, hs.lock, hs.ackLock, hs.up, hs.clean⟩
  · rw [if_pos h]
    exact pure_keeps fun _ ht => ht

/-- The status that is taken first makes a fine juncture. -/
lemma takeStatus_keeps (juncture : Ack → Juncture) : Keeps (At l a up) (takeStatus juncture)
    fun status s => (juncture status).Fine ∧ At l a up s :=
  Triple.atomic (at_sound l a up) (fun _ => (at_sound l a up).and_pure) fun _ hs hcareful =>
    ⟨hcareful _ (List.mem_append_right _ (List.mem_singleton_self _)), hs.lock, hs.ackLock, hs.up,
      hs.clean⟩

end Steps

/-! ## Waiting -/

section Calls

variable {l : ℕ} {up hal : Bool}

lemma waitLoop_keeps (n retry : ℕ) :
    Keeps (At l true up) (waitLoop n retry) fun _ => At l true up := by
  induction n generalizing retry with
  | zero => exact pure_keeps fun _ hs => hs
  | succ n ih =>
      refine (read_keeps Shared.ackRecvd).bind fun recvd => ?_
      split_ifs
      · exact pure_keeps fun _ hs => hs
      · exact unlockAck_keeps.bind fun _ => lockAck_keeps.bind fun _ => ih (retry + 1)

lemma wait_keeps : Keeps (At l false up) wait_for_stack_response fun _ => At l false up := by
  refine lockAck_keeps.bind fun _ => (read_keeps Shared.stackCb).bind fun b => ?_
  split_ifs
  · refine (waitLoop_keeps _ _).bind fun retry => unlockAck_keeps.bind fun _ => ?_
    exact pure_keeps fun _ hs => hs
  · exact unlockAck_keeps.bind fun _ => pure_keeps fun _ hs => hs

lemma awaitAck_keeps : Keeps (At l false up) awaitAck fun _ => At l false up := by
  refine (read_keeps Shared.respReceived).bind fun resp => ?_
  split_ifs
  · exact pure_keeps fun _ hs => hs
  · refine wait_keeps.bind fun ackRet => (read_keeps Shared.ackRecvd).bind fun recvd => ?_
    exact pure_keeps fun _ hs => hs

/-! ## Starting a stream -/

lemma startPending_keeps :
    Keeps (At l false up) (startPending hal) fun _ => At l false up := by
  refine wait_keeps.bind fun _ => (read_keeps Shared.ackStatus).bind fun first => ?_
  split_ifs
  · exact clearStatus_keeps.bind fun _ => pure_keeps fun _ hs => hs
  · refine (read_keeps Shared.ackStatus).bind fun status => clearStatus_keeps.bind fun _ => ?_
    exact pure_keeps fun _ hs => hs

lemma startVerdict_keeps (status : Ack) :
    Keeps (At 1 false up) (startVerdict hal status) fun _ => At 1 false up := by
  unfold startVerdict
  split_ifs
  · exact (setState_keeps _).bind fun _ => pure_keeps fun _ hs => hs
  · exact (setState_keeps _).bind fun _ => pure_keeps fun _ hs => hs
  · exact (setState_keeps _).bind fun _ => pure_keeps fun _ hs => hs
  · exact pure_keeps fun _ hs => hs

lemma startRequest_keeps :
    Keeps (At 1 false true) (startRequest hal) fun _ => At 1 false true := by
  refine clearStatus_keeps.bind fun _ => clearResp_keeps.bind fun _ => request_keeps.bind fun _ =>
    clearRecvd_keeps.bind fun _ => awaitAck_keeps.bind fun came => ?_
  split_ifs
  · refine lockAck_keeps.bind fun _ => (read_keeps Shared.ackStatus).bind fun status =>
      clearStatus_keeps.bind fun _ => ?_
    -- a pending status unlocks here, and any other one as well
    split_ifs
    · refine clearRecvd_keeps.bind fun _ => unlockAck_keeps.bind fun _ => ?_
      exact startPending_keeps.bind fun status => startVerdict_keeps status
    · exact unlockAck_keeps.bind fun _ => startVerdict_keeps status
  · exact pure_keeps fun _ hs => hs

/-- The inner loop: if it is used up, the last test has found `stack_cb` set, which is what the check
of the connection goes by. -/
lemma startLoop_keeps (n : ℕ) (hn : up = true ∨ n ≠ 0) :
    Keeps (At 1 false up) (startLoop hal n) fun exit => At 1 false exit.isNone := by
  induction n generalizing up with
  | zero =>
      have hup : up = true := hn.resolve_right fun h => h rfl
      exact hup ▸ pure_keeps fun _ hs => hs
  | succ n ih =>
      refine testStack_keeps.bind fun b => ?_
      cases b with
      | false => exact pure_keeps fun _ hs => hs
      | true =>
          refine startRequest_keeps.bind fun exit => ?_
          cases exit with
          | none => exact ih (.inl rfl)
          | some exit => exact pure_keeps fun _ hs => hs.forget

lemma checkConnection_keeps :
    Keeps (At 1 false true) checkConnection fun _ => At 1 false true := by
  refine clearStatus_keeps.bind fun _ => clearResp_keeps.bind fun _ => request_keeps.bind fun _ =>
    clearRecvd_keeps.bind fun _ => awaitAck_keeps.bind fun came => ?_
  split_ifs
  · refine (read_keeps Shared.ackStatus).bind fun status => clearStatus_keeps.bind fun _ => ?_
    split_ifs
    · exact pure_keeps fun _ hs => hs
    · exact pure_keeps fun _ hs => hs
  · exact pure_keeps fun _ hs => hs

lemma startLooper_keeps (n : ℕ) :
    Keeps (At 1 false up) (startLooper hal n) fun _ => At 1 false false := by
  induction n generalizing up with
  | zero => exact pure_keeps fun _ hs => hs.forget
  | succ n ih =>
      refine (startLoop_keeps _ (.inr (by decide))).bind fun exit => ?_
      cases exit with
      | some exit => exact pure_keeps fun _ hs => hs
      | none =>
          refine checkConnection_keeps.bind fun exit => ?_
          cases exit with
          | some exit => exact pure_keeps fun _ hs => hs.forget
          | none => exact ih

lemma start_keeps (hal : Bool) :
    Keeps (At 0 false up) (audio_start_stream hal) fun _ => At 0 false false := by
  refine lock_keeps.bind fun _ => (read_keeps Shared.state).bind fun state => ?_
  split_ifs
  · exact unlock_keeps.bind fun _ => pure_keeps fun _ hs => hs.forget
  · exact unlock_keeps.bind fun _ => pure_keeps fun _ hs => hs.forget
  · refine (startLooper_keeps _).bind fun exit => ?_
    cases exit with
    | goto status => exact unlock_keeps.bind fun _ => pure_keeps fun _ hs => hs
    | ret value => exact unlock_keeps.bind fun _ => pure_keeps fun _ hs => hs

/-! ## Stopping and suspending -/

/-- **The request of a stop or a suspend**: `ack_lock` is still held when it has a status, as that is
not the pending one. -/
lemma suspendRequest_keeps (juncture : Ack → Juncture)
    (hj : ∀ status, (juncture status).Fine → status ≠ .pending) :
    Keeps (At 1 false true) (suspendRequest juncture) fun r s =>
      (∀ status ∈ r, (juncture status).Fine) ∧ At 1 r.isSome true s := by
  refine clearRecvd_keeps.bind fun _ => clearResp_keeps.bind fun _ => clearStatus_keeps.bind fun _ =>
    request_keeps.bind fun _ => awaitAck_keeps.bind fun came => ?_
  split_ifs
  · refine lockAck_keeps.bind fun _ => (takeStatus_keeps juncture).bind fun status =>
      Triple.of_pure fun hfine => ?_
    rw [if_neg (hj status hfine)]
    refine pure_keeps fun _ hs => ⟨fun status' h => ?_, hs⟩
    rwa [← Option.some.inj h]
  · exact pure_keeps fun _ hs => ⟨fun _ h => absurd h (Option.not_mem_none _), hs⟩

lemma stop_keeps (hal : Bool) :
    Keeps (At 0 false up) (audio_stop_stream hal) fun _ => At 0 false false := by
  refine lock_keeps.bind fun _ => testStack_keeps.bind fun b => ?_
  cases b with
  | false =>
      refine (setState_keeps _).bind fun _ => unlock_keeps.bind fun _ => ?_
      exact pure_keeps fun _ hs => hs
  | true =>
      refine (read_keeps Shared.state).bind fun state => ?_
      split_ifs
      · refine (setState_keeps _).bind fun _ => unlock_keeps.bind fun _ => ?_
        exact pure_keeps fun _ hs => hs.forget
      · refine (suspendRequest_keeps .stopStatus fun _ h => h).bind fun r => Triple.of_pure fun _ => ?_
        cases r with
        | none => exact unlock_keeps.bind fun _ => pure_keeps fun _ hs => hs.forget
        | some status =>
            dsimp only
            split_ifs
            · refine (setState_keeps _).bind fun _ => unlock_keeps.bind fun _ =>
                unlockAck_keeps.bind fun _ => ?_
              exact pure_keeps fun _ hs => hs.forget
            · refine (setState_keeps _).bind fun _ => unlock_keeps.bind fun _ =>
                unlockAck_keeps.bind fun _ => ?_
              exact pure_keeps fun _ hs => hs.forget

lemma suspend_keeps (hal : Bool) :
    Keeps (At 0 false up) (audio_suspend_stream hal) fun _ => At 0 false false := by
  refine lock_keeps.bind fun _ => testStack_keeps.bind fun b => ?_
  cases b with
  | false => exact unlock_keeps.bind fun _ => pure_keeps fun _ hs => hs
  | true =>
      refine (read_keeps Shared.state).bind fun state => ?_
      split_ifs
      · exact unlock_keeps.bind fun _ => pure_keeps fun _ hs => hs.forget
      · refine (suspendRequest_keeps (.suspendStatus hal) fun _ h => h.1).bind fun r => Triple.of_pure fun hfine => ?_
        cases r with
        | none => exact unlock_keeps.bind fun _ => pure_keeps fun _ hs => hs.forget
        | some status =>
            have hfails : succeeds hal status = false := (hfine status rfl).2
            dsimp only
            rw [hfails, if_neg Bool.false_ne_true]
            refine unlock_keeps.bind fun _ => unlockAck_keeps.bind fun _ => ?_
            exact pure_keeps fun _ hs => hs.forget

/-! ## The other calls -/

lemma close_keeps : Keeps (At 0 false up) audio_stream_close fun _ => At 0 false false := by
  refine lock_keeps.bind fun _ => (read_keeps Shared.state).bind fun state => ?_
  split_ifs
  · refine testStack_keeps.bind fun b => ?_
    cases b with
    | false => exact unlock_keeps.bind fun _ => pure_keeps fun _ hs => hs
    | true =>
        refine clearStatus_keeps.bind fun _ => clearResp_keeps.bind fun _ =>
          request_keeps.bind fun _ => clearRecvd_keeps.bind fun _ =>
          (read_keeps Shared.respReceived).bind fun resp => ?_
        split_ifs
        · exact unlock_keeps.bind fun _ => pure_keeps fun _ hs => hs.forget
        · refine wait_keeps.bind fun ackRet => (read_keeps Shared.ackStatus).bind fun status =>
            unlock_keeps.bind fun _ => ?_
          exact pure_keeps fun _ hs => hs.forget
  · exact unlock_keeps.bind fun _ => pure_keeps fun _ hs => hs.forget

lemma readyLoop_keeps (n : ℕ) :
    Keeps (At 1 false up) (readyLoop n) fun _ => At 0 false false := by
  induction n generalizing up with
  | zero =>
      exact clearStatus_keeps.bind fun _ => unlock_keeps.bind fun _ =>
        pure_keeps fun _ hs => hs.forget
  | succ n ih =>
      refine lockAck_keeps.bind fun _ => testStack_keeps.bind fun b => ?_
      cases b with
      | false =>
          refine unlockAck_keeps.bind fun _ => unlock_keeps.bind fun _ => ?_
          exact pure_keeps fun _ hs => hs
      | true =>
          refine clearStatus_keeps.bind fun _ => clearRecvd_keeps.bind fun _ =>
            request_keeps.bind fun _ => unlockAck_keeps.bind fun _ => wait_keeps.bind fun ackRet =>
            (read_keeps Shared.ackStatus).bind fun status => ?_
          split_ifs
          · exact unlock_keeps.bind fun _ => pure_keeps fun _ hs => hs.forget
          · refine (read_keeps Shared.ackRecvd).bind fun recvd => ?_
            split_ifs
            · exact unlock_keeps.bind fun _ => pure_keeps fun _ hs => hs.forget
            · exact ih

lemma checkReady_keeps (hal : Bool) :
    Keeps (At 0 false up) (audio_check_a2dp_ready hal) fun _ => At 0 false false := by
  refine lock_keeps.bind fun _ => (read_keeps Shared.state).bind fun state => ?_
  split_ifs
  · exact unlock_keeps.bind fun _ => pure_keeps fun _ hs => hs.forget
  · exact readyLoop_keeps _

/-- **A call** begins and ends with no mutex held. -/
lemma call_keeps (call : Call) :
    Keeps (At 0 false up) call.thread fun _ => At 0 false false := by
  cases call with
  | start hal => exact start_keeps hal
  | stop hal => exact stop_keeps hal
  | suspend hal => exact suspend_keeps hal
  | close => exact close_keeps
  | checkReady hal => exact checkReady_keeps hal

lemma audioThread_keeps (calls : List Call) :
    Keeps (At 0 false up) (audioThread calls) fun _ => At 0 false false := by
  induction calls generalizing up with
  | nil => exact pure_keeps fun _ hs => hs.forget
  | cons call calls ih =>
      refine (call_keeps call).bind fun r => ?_
      have hreturns : Keeps (At 0 false false) returns fun _ => At 0 false false := by
        refine modify_keeps fun s hs _ => ?_
        rwa [if_pos ⟨hs.lock, hs.ackLock⟩]
      exact hreturns.bind fun _ => ih.bind fun rs => pure_keeps fun _ hs => hs

end Calls

/-! ## The discipline -/

/-- **The calls keep the discipline** in every run in which they come to no wrong juncture. -/
theorem lock_discipline {calls : List Call} {s t : Shared} {as : List (Option Other)}
    {p : Thread Shared (List ℤ)} (h0 : s.Idle)
    (hr : Run (GuardedStep (fun s e t => s.other e = some t) Careful) (s, audioThread calls) as
      (t, p)) : t.faults = [] := by
  have hat : At 0 false false s :=
    ⟨h0.1, h0.2.1, fun h => absurd h Bool.false_ne_true, h0.2.2⟩
  exact wp_inv (I := fun s : Shared => s.faults = []) (wp_run hr (audioThread_keeps calls s hat))

/-- A stream that is open, with the stack there. -/
def Shared.opened : Shared := ⟨.stopped, .unknown, false, false, true, 0, false, false, [], []⟩

/-- A stop that is answered at once. -/
theorem lock_discipline_stop : ∃ as t,
    Run (GuardedStep (fun s e t => s.other e = some t) Careful)
      (Shared.opened, audioThread [.stop false]) as (t, done [0]) ∧ t.faults = [] := by
  obtain ⟨as, t, hr, -⟩ := exists_run Shared.other Careful
    (Shared.opened, audioThread [.stop false])
    [none, none, none, none, none, none, none, some (.acknowledge .success), none, none, none, none,
      none, none, none] [0] (fun _ => True) (by decide +kernel)
  exact ⟨as, t, hr, lock_discipline (by decide) hr⟩

/-- **A stop that is pending first** unlocks `ack_lock` when it does not hold it. -/
theorem lock_discipline_broken : ¬ ∀ (calls : List Call) (s t : Shared) (as : List (Option Other))
    (p : Thread Shared (List ℤ)), s.Idle →
    Run (Thread.Step fun s e t => s.other e = some t) (s, audioThread calls) as (t, p) →
    t.faults = [] := by
  intro h
  obtain ⟨as, t, hr, hfault⟩ := exists_run Shared.other (fun _ _ _ => True)
    (Shared.opened, audioThread [.stop false])
    [none, none, none, none, none, none, none, some (.acknowledge .pending), none, none, none, none,
      none, none, none, none, none, some (.acknowledge .success), none, none, none, none, none, none,
      none, none, none] [0] (fun t => t.faults = [.unlockAck]) (by decide +kernel)
  have hclean := h _ _ t as _ (by decide) (hr.mono fun _ _ _ hst => hst.1)
  rw [hfault] at hclean
  cases hclean

end Bluetooth.A2dp.Locks
