import OcnDevice.Gps.LinkedList

/-!
# The message queue

Threads send messages with `msg_q_snd` and receive them with `msg_q_rcv`, which waits for one where
there is none.  A function has the mutex of the queue all along, unless it waits: what it does up to
there, and when it wakes up, is one step.  A thread may be woken up at any time.

The queue is a linked list, in which a message is put at the head and taken from the tail.  So what
was sent is what has left the queue, in this order, and what is still in it (`MsgQ.InOrder`); and
each message that has left was received by one thread or flushed.
-/

namespace Gps.MsgQueue

open LinkedList

/-- `msq_q_err_type`. -/
inductive MsqQErr
  | success
  | failureGeneral
  | invalidParameter
  | invalidHandle
  | unavailableResource
  | insufficientBuffer
  deriving DecidableEq, Repr

/-- `convert_linked_list_err_type`. -/
def convertLinkedListErrType : LinkedListErr → MsqQErr
  | .success => .success
  | .invalidParameter => .invalidParameter
  | .invalidHandle => .invalidHandle
  | .unavailableResource => .unavailableResource
  | .insufficientBuffer => .insufficientBuffer
  | .failureGeneral => .failureGeneral

/-- `msg_q`, with the threads that wait for a message, and the history: the messages that were sent,
and those that have left the queue, each with the thread that received it. -/
structure MsgQ where
  msgList : ListState := {}
  unblocked : Bool := false
  waiting : List ℕ := []
  sent : List ℕ := []
  left : List (Option ℕ × ℕ) := []

namespace MsgQ

/-- `msg_q_snd`; `elem` is what `malloc` gives to `linked_list_add`. -/
def msgQSnd (elem msgObj dealloc : Option ℕ) (q : MsgQ) : Option (MsqQErr × MsgQ) :=
  match msgObj with
  | none => some (.invalidParameter, q)
  | some m =>
      if q.unblocked then some (.unavailableResource, q)
      else
        (q.msgList.linkedListAdd elem (some m) dealloc).map fun r =>
          (convertLinkedListErrType r.1, { q with
            msgList := r.2
            sent := if convertLinkedListErrType r.1 = .success then q.sent ++ [m] else q.sent })

/-- The loop of `msg_q_rcv` is over: what it returns, and what it copies to `msg_obj`. -/
def receive (thread : ℕ) (q : MsgQ) : Option (MsqQErr × Option ℕ × MsgQ) :=
  (q.msgList.linkedListRemove true).map fun r =>
    (convertLinkedListErrType r.1, r.2.1, { q with
      msgList := r.2.2
      waiting := q.waiting.erase thread
      left := q.left ++ (r.2.1.map fun m => (some thread, m)).toList })

/-- The loop of `msg_q_rcv`, from its test on; nothing is returned if the thread waits. -/
def await (thread : ℕ) (q : MsgQ) : Option (Option (MsqQErr × Option ℕ) × MsgQ) :=
  if q.msgList.linkedListEmpty ∧ q.unblocked = false then
    some (none, { q with waiting := thread :: q.waiting.erase thread })
  else (q.receive thread).map fun r => (some (r.1, r.2.1), r.2.2)

/-- `msg_q_rcv`, with a null pointer or not. -/
def msgQRcv (thread : ℕ) (msgObj : Bool) (q : MsgQ) : Option (Option (MsqQErr × Option ℕ) × MsgQ) :=
  if msgObj = false then some (some (.invalidParameter, none), q)
  else if q.unblocked then some (some (.unavailableResource, none), q)
  else q.await thread

/-- `msg_q_flush`. -/
def msgQFlush (q : MsgQ) : Option (MsqQErr × MsgQ) :=
  q.msgList.linkedListFlush.map fun r =>
    (convertLinkedListErrType r.1, { q with
      msgList := r.2
      left := q.left ++ q.msgList.contents.map fun o => (none, o.dataPtr) })

/-- `msg_q_unblock`. -/
def msgQUnblock (q : MsgQ) : MsqQErr × MsgQ :=
  if q.unblocked then (.unavailableResource, q) else (.success, { q with unblocked := true })

end MsgQ

/-! ## Steps -/

/-- What the threads do; a thread that waits does nothing until it wakes up. -/
inductive Act
  | snd (elem msgObj dealloc : Option ℕ)
  | rcv (thread : ℕ) (msgObj : Bool)
  | wake (thread : ℕ)
  | flush
  | unblock
  deriving DecidableEq, Repr

/-- `malloc` gives an address that is not in use; a thread that wakes up was waiting, and one that
calls was not. -/
def Act.Legal (q : MsgQ) : Act → Prop
  | .snd (some a) _ _ => q.msgList.heap a = none
  | .snd none _ _ => True
  | .rcv thread _ => thread ∉ q.waiting
  | .wake thread => thread ∈ q.waiting
  | .flush => True
  | .unblock => True

/-- The state after it. -/
def MsgQ.act (q : MsgQ) : Act → Option MsgQ
  | .snd elem msgObj dealloc => (q.msgQSnd elem msgObj dealloc).map Prod.snd
  | .rcv thread msgObj => (q.msgQRcv thread msgObj).map Prod.snd
  | .wake thread => (q.await thread).map Prod.snd
  | .flush => q.msgQFlush.map Prod.snd
  | .unblock => some q.msgQUnblock.2

/-- **Messages leave in the order in which they were sent**, and none is lost or repeated. -/
def MsgQ.InOrder (q : MsgQ) : Prop :=
  q.sent = q.left.map Prod.snd ++ q.msgList.contents.map Obj.dataPtr

/-! ## What every step keeps -/

namespace MsgQ

variable {q q' : MsgQ} {a : Act}

/-- The list is kept, and the messages are in order. -/
structure Kept (q : MsgQ) : Prop where
  list : q.msgList.Kept
  inOrder : q.InOrder

/-- A message is sent. -/
lemma Kept.snd (h : q.Kept) (elem msgObj dealloc : Option ℕ)
    (hlegal : ∀ a, elem = some a → q.msgList.heap a = none) :
    ∃ r q', q.msgQSnd elem msgObj dealloc = some (r, q') ∧ q'.Kept := by
  cases msgObj with
  | none => exact ⟨_, q, rfl, h⟩
  | some m =>
      cases hun : q.unblocked with
      | true => exact ⟨_, q, by rw [msgQSnd, hun, if_pos rfl], h⟩
      | false =>
          rw [msgQSnd, hun, if_neg Bool.false_ne_true]
          cases elem with
          | none => exact ⟨_, _, rfl, h.list, h.inOrder⟩
          | some a =>
              obtain ⟨l', hadd, hlist, hcontents⟩ := h.list.add (hlegal a rfl) m dealloc
              rw [hadd]
              refine ⟨_, _, rfl, hlist, ?_⟩
              have horder := h.inOrder
              rw [InOrder] at horder ⊢
              simp [convertLinkedListErrType, hcontents, horder]

/-- A message is received, if there is one. -/
lemma Kept.receive (h : q.Kept) (thread : ℕ) :
    ∃ r data q', q.receive thread = some (r, data, q') ∧ q'.Kept := by
  have horder := h.inOrder
  rw [InOrder] at horder
  cases hs : q.msgList.contents with
  | nil =>
      rw [MsgQ.receive, h.list.remove_empty hs]
      refine ⟨_, _, _, rfl, h.list, ?_⟩
      rw [InOrder]
      simpa [convertLinkedListErrType] using horder
  | cons o os =>
      obtain ⟨l', hremove, hlist, hcontents⟩ := h.list.remove hs
      rw [MsgQ.receive, hremove]
      refine ⟨_, _, _, rfl, hlist, ?_⟩
      rw [InOrder]
      simp [hcontents, horder, hs]

lemma Kept.await (h : q.Kept) (thread : ℕ) : ∃ r q', q.await thread = some (r, q') ∧ q'.Kept := by
  rw [MsgQ.await]
  split_ifs
  · exact ⟨none, _, rfl, h.list, h.inOrder⟩
  · obtain ⟨r, data, q', hreceive, hkept⟩ := h.receive thread
    exact ⟨_, q', by rw [hreceive, Option.map_some], hkept⟩

lemma Kept.flush (h : q.Kept) : ∃ r q', q.msgQFlush = some (r, q') ∧ q'.Kept := by
  obtain ⟨l', hflush, hlist, hcontents⟩ := h.list.flush
  have horder := h.inOrder
  rw [InOrder] at horder
  rw [msgQFlush, hflush]
  refine ⟨_, _, rfl, hlist, ?_⟩
  rw [InOrder]
  simp [hcontents, horder, Function.comp_def]

/-- **Every step** goes through, and keeps the queue. -/
theorem Kept.act (h : q.Kept) (ha : a.Legal q) : ∃ q', q.act a = some q' ∧ q'.Kept := by
  cases a with
  | snd elem msgObj dealloc =>
      obtain ⟨r, q', hsnd, hkept⟩ := h.snd elem msgObj dealloc fun b hb => by
        rw [hb] at ha
        exact ha
      exact ⟨q', by rw [MsgQ.act, hsnd, Option.map_some], hkept⟩
  | rcv thread msgObj =>
      rw [MsgQ.act, msgQRcv]
      split_ifs
      · exact ⟨q, rfl, h⟩
      · exact ⟨q, rfl, h⟩
      · obtain ⟨r, q', hawait, hkept⟩ := h.await thread
        exact ⟨q', by rw [hawait, Option.map_some], hkept⟩
  | wake thread =>
      obtain ⟨r, q', hawait, hkept⟩ := h.await thread
      exact ⟨q', by rw [MsgQ.act, hawait, Option.map_some], hkept⟩
  | flush =>
      obtain ⟨r, q', hflush, hkept⟩ := h.flush
      exact ⟨q', by rw [MsgQ.act, hflush, Option.map_some], hkept⟩
  | unblock =>
      refine ⟨_, rfl, ?_⟩
      rw [msgQUnblock]
      split_ifs
      · exact h
      · exact ⟨h.list, h.inOrder⟩

end MsgQ

/-! ## Result -/

end Gps.MsgQueue
