import OcnDevice.Core.Run
import OcnDevice.Core.SingleChain

/-!
# The command queues

Events reach IPACM through two queues of messages, one for events from outside and one for events
that IPACM posts to itself.  Any thread posts; one thread, `MessageQueue::Process`, takes messages
out and processes them.  Each section between `pthread_mutex_lock` and `pthread_mutex_unlock` is one
step here, and `pthread_cond_wait` ends such a section.

`dequeue` leaves `Tail` alone, so behind the last message `Tail` keeps the address of a message that
is deleted later, and that `new` may hand out again.  Addresses are reused freely below.  The two
queues exist from the start, and the pthread calls succeed.
-/

namespace Ipacm

open Chain

/-- The address of a message. -/
abbrev Addr := ℕ

/-- `IPA_EXTERNAL_EVENT_MAX`: the events below it come from outside. -/
def ipaExternalEventMax : ℕ := 40

/-- An `ipacm_cmd_q_data`. -/
structure CmdQData where
  event : ℕ
  evtData : ℕ
  deriving DecidableEq, Repr

/-- The two instances of `MessageQueue`. -/
inductive QueueId
  | internal
  | external
  deriving DecidableEq, Repr

/-- The queue that `PostEvt` puts an event into. -/
def CmdQData.queue (data : CmdQData) : QueueId :=
  if data.event < ipaExternalEventMax then .external else .internal

/-- A `Message`.  Its callback is always `ProcessEvt`. -/
structure Message where
  next : Option Addr
  evt : CmdQData

/-- The messages that are allocated. -/
abbrev MsgHeap := Addr → Option Message

/-- `getnext`. -/
def MsgHeap.next (mem : MsgHeap) (a : Addr) : Option Addr := (mem a).bind Message.next

/-- `setnext`. -/
def MsgHeap.setnext (mem : MsgHeap) (a item : Addr) : MsgHeap :=
  Function.update mem a ((mem a).map fun m => { m with next := some item })

/-- A `MessageQueue`. -/
structure MessageQueue where
  head : Option Addr := none
  tail : Option Addr := none

/-- `enqueue`. -/
def MessageQueue.enqueue (mem : MsgHeap) (q : MessageQueue) (item : Addr) :
    MsgHeap × MessageQueue :=
  match q.head with
  | none => (mem, { head := some item, tail := some item })
  | some head =>
      match q.tail with
      | none => (mem.setnext head item, { q with tail := some item })
      | some tail => (mem.setnext tail item, { q with tail := some item })

/-- `dequeue`. -/
def MessageQueue.dequeue (mem : MsgHeap) (q : MessageQueue) : Option Addr × MessageQueue :=
  match q.head with
  | none => (none, q)
  | some tmp => (some tmp, { q with head := mem.next tmp })

/-! ## The threads -/

/-- Where `Process` is: before its next critical section, inside `pthread_cond_wait`, or at work on
a message. -/
inductive Consumer
  | running
  | waiting (signalled : Bool)
  | processing (item : Addr)
  deriving DecidableEq, Repr

/-- The queues, the thread that empties them, and the messages that callers of `PostEvt` have
created and not posted yet.  `posted` and `processed` are the history. -/
structure CmdSys where
  mem : MsgHeap
  queues : QueueId → MessageQueue
  created : Finset Addr
  consumer : Consumer
  posted : List CmdQData
  processed : List CmdQData

namespace CmdSys

/-- The state in which the threads start. -/
def init : CmdSys where
  mem := fun _ => none
  queues := fun _ => {}
  created := ∅
  consumer := .running
  posted := []
  processed := []

/-- The part of `PostEvt` before the lock: a new message at the address that `new` returns. -/
def create (s : CmdSys) (item : Addr) (data : CmdQData) : CmdSys :=
  { s with
    mem := Function.update s.mem item (some { next := none, evt := data })
    created := insert item s.created }

/-- `pthread_cond_signal`. -/
def signal : Consumer → Consumer
  | .waiting _ => .waiting true
  | c => c

/-- The critical section of `PostEvt`. -/
def postEvt (s : CmdSys) (item : Addr) : CmdSys :=
  match s.mem item with
  | none => s
  | some m =>
      let r := (s.queues m.evt.queue).enqueue s.mem item
      { s with
        mem := r.1
        queues := Function.update s.queues m.evt.queue r.2
        created := s.created.erase item
        consumer := signal s.consumer
        posted := s.posted ++ [m.evt] }

/-- The critical section of `Process`. -/
def take (s : CmdSys) : CmdSys :=
  match (s.queues .internal).dequeue s.mem with
  | (some item, q) =>
      { s with
        queues := Function.update s.queues .internal q
        consumer := .processing item }
  | (none, _) =>
      match (s.queues .external).dequeue s.mem with
      | (some item, q) =>
          { s with
            queues := Function.update s.queues .external q
            consumer := .processing item }
      | (none, _) => { s with consumer := .waiting false }

/-- Behind the callback the message is deleted. -/
def finish (s : CmdSys) (item : Addr) : CmdSys :=
  { s with
    mem := Function.update s.mem item none
    consumer := .running
    processed := s.processed ++ ((s.mem item).map Message.evt).toList }

/-- What `Process` does next. -/
def process (s : CmdSys) : CmdSys :=
  match s.consumer with
  | .running => s.take
  | .waiting _ => { s with consumer := .running }
  | .processing item => s.finish item

end CmdSys

/-- The steps of the threads.  A thread that waits may also wake up without a signal. -/
inductive CmdAct
  | create (item : Addr) (data : CmdQData)
  | post (item : Addr)
  | process
  | spurious
  deriving DecidableEq, Repr

/-- One step. -/
def CmdSys.Step (s : CmdSys) : CmdAct → CmdSys → Prop
  | .create item data, s' => s.mem item = none ∧ s' = s.create item data
  | .post item, s' => item ∈ s.created ∧ s' = s.postEvt item
  | .process, s' => s.consumer ≠ .waiting false ∧ s' = s.process
  | .spurious, s' => s.consumer = .waiting false ∧ s' = { s with consumer := .waiting true }

/-! ## The representation -/

/-- **A well-formed queue** with the messages `l`: the chain from `Head` is `l`, and unless it is
empty `Tail` is its last message.  Of the `Tail` of an empty queue nothing is said. -/
structure MessageQueue.Holds (mem : MsgHeap) (q : MessageQueue) (l : List Addr) : Prop where
  path : Path mem.next q.head l
  tail : ∀ a ∈ l.getLast?, q.tail = some a
  nodup : l.Nodup
  alloc : ∀ a ∈ l, (mem a).isSome

/-- The events of messages. -/
def MsgHeap.evts (mem : MsgHeap) (l : List Addr) : List CmdQData :=
  l.filterMap fun a => (mem a).map Message.evt

/-- The events of one queue among some events. -/
def ofQueue (k : QueueId) (l : List CmdQData) : List CmdQData := l.filter fun d => d.queue = k

/-- The message that is being processed, if any. -/
def CmdSys.item (s : CmdSys) : List Addr :=
  match s.consumer with
  | .processing item => [item]
  | _ => []

section Queue

variable {mem mem' : MsgHeap} {q : MessageQueue} {l l' : List Addr} {a b item : Addr} {m : Message}

lemma MsgHeap.setnext_self : (mem.setnext a item) a =
    (mem a).map fun m => { m with next := some item } := by
  simp [MsgHeap.setnext]

lemma MsgHeap.setnext_of_ne (h : b ≠ a) : (mem.setnext a item) b = mem b := by
  simp [MsgHeap.setnext, h]

/-- A link that is set does not touch the events. -/
lemma MsgHeap.setnext_evt (b : Addr) :
    ((mem.setnext a item) b).map Message.evt = (mem b).map Message.evt := by
  by_cases h : b = a
  · rw [h, setnext_self]
    cases mem a <;> rfl
  · rw [setnext_of_ne h]

lemma MsgHeap.evts_congr (h : ∀ a ∈ l, (mem' a).map Message.evt = (mem a).map Message.evt) :
    mem'.evts l = mem.evts l := by
  unfold MsgHeap.evts
  exact List.filterMap_congr h

@[simp] lemma MsgHeap.evts_nil : mem.evts [] = [] := rfl

lemma MsgHeap.evts_append : mem.evts (l ++ l') = mem.evts l ++ mem.evts l' := by
  simp [MsgHeap.evts]

lemma MsgHeap.evts_cons : mem.evts (a :: l) = mem.evts [a] ++ mem.evts l :=
  MsgHeap.evts_append (l := [a])

lemma MsgHeap.evts_single (h : mem a = some m) : mem.evts [a] = [m.evt] := by
  simp [MsgHeap.evts, h]

@[simp] lemma ofQueue_append (k : QueueId) (l l' : List CmdQData) :
    ofQueue k (l ++ l') = ofQueue k l ++ ofQueue k l' := by
  simp [ofQueue]

/-- **The frame of a queue**: it depends on its own messages only. -/
lemma MessageQueue.Holds.congr (h : q.Holds mem l) (hm : ∀ a ∈ l, mem' a = mem a) :
    q.Holds mem' l := by
  refine ⟨h.path.congr fun a ha => ?_, h.tail, h.nodup, fun a ha => ?_⟩
  · rw [MsgHeap.next, hm a ha, MsgHeap.next]
  · rw [hm a ha]
    exact h.alloc a ha

/-- What `enqueue` does: the link of the last message is set, if there is a message. -/
lemma MessageQueue.Holds.enqueue_eq (h : q.Holds mem l) :
    q.enqueue mem item =
      (match l.getLast? with
        | none => mem
        | some a => mem.setnext a item,
        { head := q.head.or (some item), tail := some item }) := by
  unfold MessageQueue.enqueue
  cases hq : q.head with
  | none => rw [h.path.eq_nil_iff.mpr hq]; rfl
  | some head =>
      have hne : l ≠ [] := fun e => by simp [h.path.eq_nil_iff.mp e] at hq
      have hlast := List.getLast?_eq_some_getLast hne
      rw [hlast, h.tail _ hlast, ← hq]
      simp [hq]

/-- `enqueue` changes messages of the queue only, and no event. -/
lemma MessageQueue.Holds.enqueue_mem (h : q.Holds mem l) (hb : b ∉ l) :
    (q.enqueue mem item).1 b = mem b := by
  rw [h.enqueue_eq]
  cases hl : l.getLast? with
  | none => rfl
  | some a =>
      refine MsgHeap.setnext_of_ne ?_
      rintro rfl
      exact hb (List.mem_of_getLast? hl)

lemma MessageQueue.Holds.enqueue_evt (h : q.Holds mem l) (b : Addr) :
    ((q.enqueue mem item).1 b).map Message.evt = (mem b).map Message.evt := by
  rw [h.enqueue_eq]
  cases l.getLast? with
  | none => rfl
  | some a => exact MsgHeap.setnext_evt b

/-- **`enqueue` appends**, whatever `Tail` was. -/
theorem MessageQueue.Holds.enqueue (h : q.Holds mem l) (hitem : mem item = some m)
    (hnext : m.next = none) (hnew : item ∉ l) :
    (q.enqueue mem item).2.Holds (q.enqueue mem item).1 (l ++ [item]) := by
  have hself : (q.enqueue mem item).1 item = some m := (h.enqueue_mem hnew).trans hitem
  have hpath : Path (q.enqueue mem item).1.next (q.head.or (some item)) (l ++ [item]) := by
    refine h.path.snoc _ _ h.nodup ?_ (fun a ha => ?_) fun a ha hlast => ?_
    · rw [MsgHeap.next, hself]
      exact hnext
    · obtain ⟨m', hm'⟩ := Option.isSome_iff_exists.mp (h.alloc a (List.mem_of_getLast? ha))
      rw [h.enqueue_eq, Option.mem_def.mp ha]
      simp [MsgHeap.next, MsgHeap.setnext_self, hm']
    · rw [h.enqueue_eq]
      cases hl : l.getLast? with
      | none => rfl
      | some b =>
          have hne : a ≠ b := by
            rintro rfl
            exact hlast hl
          simp only [MsgHeap.next, MsgHeap.setnext_of_ne hne]
  refine ⟨?_, by simp [h.enqueue_eq], List.nodup_append.mpr ⟨h.nodup, by simp, ?_⟩, fun a ha => ?_⟩
  · rw [h.enqueue_eq] at hpath ⊢
    exact hpath
  · rintro a ha b hb rfl
    exact hnew (List.mem_singleton.mp hb ▸ ha)
  · have hsome : ((mem a).map Message.evt).isSome := by
      rw [Option.isSome_map]
      rcases List.mem_append.mp ha with ha | ha
      · exact h.alloc a ha
      · rw [List.mem_singleton.mp ha, hitem]
        rfl
    rwa [← h.enqueue_evt a, Option.isSome_map] at hsome

/-- **`dequeue` takes the first message.** -/
theorem MessageQueue.Holds.dequeue (h : q.Holds mem l) :
    (l = [] ∧ q.dequeue mem = (none, q)) ∨ ∃ a l' q', l = a :: l' ∧
      q.dequeue mem = (some a, q') ∧ q'.Holds mem l' := by
  cases l with
  | nil =>
      refine Or.inl ⟨rfl, ?_⟩
      rw [MessageQueue.dequeue, show q.head = none from h.path]
  | cons a l' =>
      refine Or.inr ⟨a, l', { q with head := mem.next a }, rfl, ?_, h.path.2, fun b hb => ?_,
        (List.nodup_cons.mp h.nodup).2, fun b hb => h.alloc b (by simp [hb])⟩
      · rw [MessageQueue.dequeue, h.path.1]
      · refine h.tail b ?_
        cases l' with
        | nil => simp at hb
        | cons c l'' => rwa [List.getLast?_cons_cons]

end Queue

/-! ## Every interleaving -/

/-- **What holds between the steps.**  `pend` are the messages in the queues.  For each queue, what
was posted to it is what was processed of it, then the message that is being processed, then what
the queue holds; and the thread does not sleep while there is a message. -/
structure CmdSys.Ok (s : CmdSys) (pend : QueueId → List Addr) : Prop where
  holds : ∀ k, (s.queues k).Holds s.mem (pend k)
  kind : ∀ k, ∀ a ∈ pend k, ∀ m ∈ s.mem a, m.evt.queue = k
  item : ∀ a ∈ s.item, (s.mem a).isSome ∧ ∀ k, a ∉ pend k
  created : ∀ a ∈ s.created,
    (∃ m, s.mem a = some m ∧ m.next = none) ∧ a ∉ s.item ∧ ∀ k, a ∉ pend k
  order : ∀ k, ofQueue k s.posted =
    ofQueue k (s.processed ++ s.mem.evts s.item) ++ s.mem.evts (pend k)
  wait : s.consumer = .waiting false → ∀ k, pend k = []

section Invariant

variable {s s' : CmdSys} {pend : QueueId → List Addr} {a item : Addr} {data : CmdQData}
  {k : QueueId} {act : CmdAct}

lemma CmdSys.Ok.init : CmdSys.init.Ok fun _ => [] := by
  refine ⟨fun k => ⟨rfl, by simp, .nil, by simp⟩, by simp, by simp [CmdSys.item, CmdSys.init],
    by simp [CmdSys.init], fun k => rfl, fun _ _ => rfl⟩

/-- Every message that is in use is allocated. -/
lemma CmdSys.Ok.alloc (H : s.Ok pend) (ha : a ∈ s.created ∨ a ∈ s.item ∨ a ∈ pend k) :
    (s.mem a).isSome := by
  rcases ha with ha | ha | ha
  · obtain ⟨⟨m, hm, -⟩, -⟩ := H.created a ha
    simp [hm]
  · exact (H.item a ha).1
  · exact (H.holds k).alloc a ha

/-- A new message is at an address that is not in use. -/
lemma CmdSys.Ok.create (H : s.Ok pend) (hnew : s.mem item = none) :
    (s.create item data).Ok pend := by
  have hne : ∀ {b k}, b ∈ s.created ∨ b ∈ s.item ∨ b ∈ pend k → b ≠ item := fun hb e => by
    have := H.alloc hb
    rw [e, hnew] at this
    simp at this
  have hmem : ∀ {b k}, b ∈ s.created ∨ b ∈ s.item ∨ b ∈ pend k →
      (s.create item data).mem b = s.mem b := fun hb => Function.update_of_ne (hne hb) _ _
  have hevts : (s.create item data).mem.evts s.item = s.mem.evts s.item :=
    MsgHeap.evts_congr fun b hb => by rw [hmem (k := .internal) (Or.inr (Or.inl hb))]
  refine ⟨fun k => (H.holds k).congr fun b hb => hmem (Or.inr (Or.inr hb)), fun k b hb => ?_,
    fun b hb => ?_, fun b hb => ?_, fun k => ?_, H.wait⟩
  · rw [hmem (Or.inr (Or.inr hb))]
    exact H.kind k b hb
  · rw [hmem (k := .internal) (Or.inr (Or.inl hb))]
    exact H.item b hb
  · rcases Finset.mem_insert.mp hb with rfl | hb
    · exact ⟨⟨_, Function.update_self .., rfl⟩, fun h => hne (k := .internal) (Or.inr (Or.inl h)) rfl,
        fun k h => hne (Or.inr (Or.inr h)) rfl⟩
    · rw [hmem (k := .internal) (Or.inl hb)]
      exact H.created b hb
  · have : (s.create item data).mem.evts (pend k) = s.mem.evts (pend k) :=
      MsgHeap.evts_congr fun b hb => by rw [hmem (Or.inr (Or.inr hb))]
    rw [this]
    change ofQueue k s.posted = ofQueue k (s.processed ++ (s.create item data).mem.evts s.item) ++ _
    rw [hevts]
    exact H.order k

lemma CmdSys.postEvt_item : (s.postEvt item).item = s.item := by
  unfold CmdSys.postEvt CmdSys.item CmdSys.signal
  cases s.mem item <;> cases s.consumer <;> rfl

/-- A message that is posted is the last of its queue, and wakes the thread. -/
lemma CmdSys.Ok.post (H : s.Ok pend) (hitem : item ∈ s.created) :
    ∃ pend', (s.postEvt item).Ok pend' := by
  obtain ⟨⟨m, hm, hnext⟩, hnot, hnew⟩ := H.created item hitem
  have hq := H.holds m.evt.queue
  -- the messages elsewhere are not touched
  have hmem : ∀ b, b ∉ pend m.evt.queue → (s.postEvt item).mem b = s.mem b := fun b hb => by
    simp only [CmdSys.postEvt, hm]
    exact hq.enqueue_mem hb
  have hevt : ∀ b, ((s.postEvt item).mem b).map Message.evt = (s.mem b).map Message.evt :=
    fun b => by
      simp only [CmdSys.postEvt, hm]
      exact hq.enqueue_evt b
  have hother : ∀ k, k ≠ m.evt.queue → ∀ b ∈ pend k, b ∉ pend m.evt.queue := fun k hk b hb hb' => by
    obtain ⟨n, hn⟩ := Option.isSome_iff_exists.mp (hq.alloc b hb')
    exact hk ((H.kind k b hb n hn).symm.trans (H.kind _ b hb' n hn))
  refine ⟨Function.update pend m.evt.queue (pend m.evt.queue ++ [item]), fun k => ?_,
    fun k b hb n hn => ?_, fun b hb => ?_, fun b hb => ?_, fun k => ?_, fun hw => ?_⟩
  · by_cases hk : k = m.evt.queue
    · subst hk
      rw [Function.update_self]
      have henq := hq.enqueue hm hnext (hnew _)
      simpa only [CmdSys.postEvt, hm, Function.update_self] using henq
    · rw [Function.update_of_ne hk]
      have := (H.holds k).congr fun b hb => hmem b (hother k hk b hb)
      simpa only [CmdSys.postEvt, hm, Function.update_of_ne hk] using this
  · -- the kind of a message is in its event, which stays
    have hn' : (s.mem b).map Message.evt = some n.evt := by rw [← hevt b, Option.mem_def.mp hn]; rfl
    obtain ⟨n₀, hn₀, he⟩ := Option.map_eq_some_iff.mp hn'
    rw [← he]
    by_cases hk : k = m.evt.queue
    · subst hk
      rw [Function.update_self] at hb
      rcases List.mem_append.mp hb with hb | hb
      · exact H.kind _ b hb n₀ hn₀
      · rw [List.mem_singleton.mp hb, hm] at hn₀
        rw [Option.some.inj hn₀]
    · rw [Function.update_of_ne hk] at hb
      exact H.kind k b hb n₀ hn₀
  · rw [CmdSys.postEvt_item] at hb
    obtain ⟨hsome, hnp⟩ := H.item b hb
    refine ⟨by rwa [hmem b (hnp _)], fun k => ?_⟩
    by_cases hk : k = m.evt.queue
    · subst hk
      rw [Function.update_self, List.mem_append, List.mem_singleton]
      rintro (h | rfl)
      · exact hnp _ h
      · exact hnot hb
    · rw [Function.update_of_ne hk]
      exact hnp k
  · rw [CmdSys.postEvt_item]
    have hb' : b ≠ item ∧ b ∈ s.created := by
      simpa [CmdSys.postEvt, hm] using hb
    obtain ⟨hc, hi, hnp⟩ := H.created b hb'.2
    refine ⟨by rwa [hmem b (hnp _)], hi, fun k => ?_⟩
    by_cases hk : k = m.evt.queue
    · subst hk
      rw [Function.update_self, List.mem_append, List.mem_singleton]
      rintro (h | h)
      · exact hnp _ h
      · exact hb'.1 h
    · rw [Function.update_of_ne hk]
      exact hnp k
  · have hevts : ∀ l, (s.postEvt item).mem.evts l = s.mem.evts l :=
      fun l => MsgHeap.evts_congr fun b _ => hevt b
    have hposted : (s.postEvt item).posted = s.posted ++ [m.evt] := by simp [CmdSys.postEvt, hm]
    have hprocessed : (s.postEvt item).processed = s.processed := by simp [CmdSys.postEvt, hm]
    rw [CmdSys.postEvt_item, hevts, hevts, hposted, hprocessed, ofQueue_append, H.order k]
    by_cases hk : k = m.evt.queue
    · subst hk
      rw [Function.update_self, MsgHeap.evts_append, MsgHeap.evts_single hm]
      simp [ofQueue]
    · rw [Function.update_of_ne hk]
      simp [ofQueue, Ne.symm hk]
  · exfalso
    simp only [CmdSys.postEvt, hm] at hw
    cases hc : s.consumer <;> simp [hc, CmdSys.signal] at hw

/-- Taking the first message out of a queue while no message is being processed. -/
lemma CmdSys.Ok.pop (H : s.Ok pend) (hrun : s.consumer = .running) {q : MessageQueue} {l : List Addr}
    (hpend : pend k = a :: l) (hq : q.Holds s.mem l) :
    CmdSys.Ok { s with queues := Function.update s.queues k q, consumer := .processing a }
      (Function.update pend k l) := by
  have hsub : ∀ j, ∀ b ∈ Function.update pend k l j, b ∈ pend j := fun j b hb => by
    by_cases hj : j = k
    · subst hj
      rw [Function.update_self] at hb
      rw [hpend]
      exact List.mem_cons_of_mem a hb
    · rwa [Function.update_of_ne hj] at hb
  have hnodup : a ∉ l := by
    have := (H.holds k).nodup
    rw [hpend] at this
    exact (List.nodup_cons.mp this).1
  have hmem : a ∈ pend k := by simp [hpend]
  have hnil : s.item = [] := by rw [CmdSys.item, hrun]
  refine ⟨fun j => ?_, fun j b hb => H.kind j b (hsub j b hb), fun b hb => ?_, fun b hb => ?_,
    fun j => ?_, fun h => by simp at h⟩
  · by_cases hj : j = k
    · subst hj
      simpa only [Function.update_self] using hq
    · simpa only [Function.update_of_ne hj] using H.holds j
  · rw [show b = a from List.mem_singleton.mp hb]
    refine ⟨(H.holds k).alloc a hmem, fun j hj => ?_⟩
    by_cases hjk : j = k
    · subst hjk
      rw [Function.update_self] at hj
      exact hnodup hj
    · -- a message is in the queue of its kind only
      rw [Function.update_of_ne hjk] at hj
      obtain ⟨m, hm⟩ := Option.isSome_iff_exists.mp ((H.holds k).alloc a hmem)
      exact hjk ((H.kind j a hj m hm).symm.trans (H.kind k a hmem m hm))
  · obtain ⟨hc, -, hnp⟩ := H.created b hb
    refine ⟨hc, fun h => ?_, fun j h => hnp j (hsub j b h)⟩
    rw [show b = a from List.mem_singleton.mp h] at hnp
    exact hnp k hmem
  · obtain ⟨m, hm⟩ := Option.isSome_iff_exists.mp ((H.holds k).alloc a hmem)
    have hkind := H.kind k a hmem m hm
    have horder := H.order j
    rw [hnil, MsgHeap.evts_nil, List.append_nil] at horder
    change ofQueue j s.posted = ofQueue j (s.processed ++ s.mem.evts [a]) ++ _
    rw [horder, ofQueue_append, MsgHeap.evts_single hm]
    by_cases hj : j = k
    · subst hj
      rw [Function.update_self, hpend, MsgHeap.evts_cons, MsgHeap.evts_single hm]
      simp [ofQueue, hkind]
    · rw [Function.update_of_ne hj]
      simp [ofQueue, hkind, Ne.symm hj]

/-- What the critical section of `Process` does: it takes the first internal message, the first
external one when there is no internal one, or goes to sleep when there is none. -/
lemma CmdSys.Ok.take (H : s.Ok pend) (hrun : s.consumer = .running) :
    (∃ k l, (k = .external → pend .internal = []) ∧ pend k = s.take.item ++ l ∧ s.take.item ≠ [] ∧
      s.take.Ok (Function.update pend k l)) ∨
    ((∀ k, pend k = []) ∧ s.take.consumer = .waiting false ∧ s.take.Ok pend) := by
  rcases (H.holds .internal).dequeue with ⟨hl, hd⟩ | ⟨a, l, q, hl, hd, hq⟩
  · rcases (H.holds .external).dequeue with ⟨hl', hd'⟩ | ⟨a, l, q, hl', hd', hq⟩
    · have hempty : ∀ k, pend k = [] := fun k => by cases k <;> assumption
      have htake : s.take = { s with consumer := .waiting false } := by
        simp only [CmdSys.take, hd, hd']
      rw [htake]
      refine Or.inr ⟨hempty, rfl, H.holds, H.kind, by simp [CmdSys.item], fun b hb => ?_,
        fun k => ?_, fun _ => hempty⟩
      · exact ⟨(H.created b hb).1, by simp [CmdSys.item], (H.created b hb).2.2⟩
      · have := H.order k
        rwa [CmdSys.item, hrun] at this
    · have htake : s.take = { s with
          queues := Function.update s.queues .external q
          consumer := .processing a } := by simp only [CmdSys.take, hd, hd']
      rw [htake]
      exact Or.inl ⟨.external, l, fun _ => hl, hl', by simp [CmdSys.item], H.pop hrun hl' hq⟩
  · have htake : s.take = { s with
        queues := Function.update s.queues .internal q
        consumer := .processing a } := by simp only [CmdSys.take, hd]
    rw [htake]
    exact Or.inl ⟨.internal, l, by simp, hl, by simp [CmdSys.item], H.pop hrun hl hq⟩

/-- A message that was processed is deleted. -/
lemma CmdSys.Ok.finish (H : s.Ok pend) (hc : s.consumer = .processing item) :
    (s.finish item).Ok pend := by
  have hitem : s.item = [item] := by rw [CmdSys.item, hc]
  obtain ⟨hsome, hnp⟩ := H.item item (by simp [hitem])
  obtain ⟨m, hm⟩ := Option.isSome_iff_exists.mp hsome
  have hmem : ∀ b, b ≠ item → (s.finish item).mem b = s.mem b :=
    fun b hb => Function.update_of_ne hb _ _
  have hne : ∀ k, ∀ b ∈ pend k, b ≠ item := fun k b hb e => hnp k (e ▸ hb)
  refine ⟨fun k => (H.holds k).congr fun b hb => hmem b (hne k b hb), fun k b hb => ?_,
    by simp [CmdSys.item, CmdSys.finish], fun b hb => ?_, fun k => ?_,
    fun h => by simp [CmdSys.finish] at h⟩
  · rw [hmem b (hne k b hb)]
    exact H.kind k b hb
  · obtain ⟨hcr, hi, hnp'⟩ := H.created b hb
    refine ⟨?_, by simp [CmdSys.item, CmdSys.finish], hnp'⟩
    rwa [hmem b fun e => hi (by simp [hitem, e])]
  · have hevts : (s.finish item).mem.evts (pend k) = s.mem.evts (pend k) :=
      MsgHeap.evts_congr fun b hb => by rw [hmem b (hne k b hb)]
    have hproc : (s.finish item).processed = s.processed ++ [m.evt] := by simp [CmdSys.finish, hm]
    have hnil : (s.finish item).item = [] := rfl
    have := H.order k
    rw [hitem, MsgHeap.evts_single hm] at this
    rw [hevts, hproc, hnil, MsgHeap.evts_nil, List.append_nil]
    exact this

/-- The thread wakes up. -/
lemma CmdSys.Ok.wake (H : s.Ok pend) {b : Bool} (hc : s.consumer = .waiting b) {c : Consumer}
    (hitem : ∀ a, c ≠ .processing a) (hw : c ≠ .waiting false) :
    CmdSys.Ok { s with consumer := c } pend := by
  have hnil : s.item = [] := by rw [CmdSys.item, hc]
  have hnil' : CmdSys.item { s with consumer := c } = [] := by
    unfold CmdSys.item
    cases c with
    | processing a => exact absurd rfl (hitem a)
    | running => rfl
    | waiting b => rfl
  refine ⟨H.holds, H.kind, by simp [hnil'], fun a ha => ?_, fun k => ?_, fun h => absurd h hw⟩
  · rw [hnil']
    exact ⟨(H.created a ha).1, by simp, (H.created a ha).2.2⟩
  · rw [hnil', ← hnil]
    exact H.order k

/-- **Each step keeps the invariant.** -/
theorem CmdSys.Ok.step (H : s.Ok pend) (h : s.Step act s') : ∃ pend', s'.Ok pend' := by
  cases act with
  | create item data =>
      obtain ⟨hnew, rfl⟩ := h
      exact ⟨pend, H.create hnew⟩
  | post item =>
      obtain ⟨hitem, rfl⟩ := h
      exact H.post hitem
  | process =>
      obtain ⟨-, rfl⟩ := h
      unfold CmdSys.process
      cases hc : s.consumer with
      | running =>
          rcases H.take hc with ⟨k, l, -, -, -, h⟩ | ⟨-, -, h⟩
          · exact ⟨_, h⟩
          · exact ⟨_, h⟩
      | waiting b => exact ⟨pend, H.wake hc (by simp) (by simp)⟩
      | processing item => exact ⟨pend, H.finish hc⟩
  | spurious =>
      obtain ⟨hc, rfl⟩ := h
      exact ⟨pend, H.wake hc (by simp) (by simp)⟩

/-! ## Nothing stays behind -/

/-- How many steps the thread has to make until it sleeps, when nothing more is posted. -/
def CmdSys.work (s : CmdSys) (pend : QueueId → List Addr) : ℕ :=
  2 * ((pend .internal).length + (pend .external).length) +
    match s.consumer with
    | .running => 1
    | .waiting false => 0
    | .waiting true | .processing _ => 2

/-- **The thread makes progress**: unless it sleeps, its next step leaves less to do, and posts
nothing. -/
lemma CmdSys.Ok.process_work (H : s.Ok pend) (hw : s.consumer ≠ .waiting false) :
    ∃ pend', s.process.Ok pend' ∧ s.process.work pend' < s.work pend ∧
      s.process.posted = s.posted := by
  unfold CmdSys.process
  cases hc : s.consumer with
  | running =>
      have hposted : s.take.posted = s.posted := by
        unfold CmdSys.take
        rcases (s.queues .internal).dequeue s.mem with ⟨_ | _, _⟩ <;>
          rcases (s.queues .external).dequeue s.mem with ⟨_ | _, _⟩ <;> rfl
      rcases H.take hc with ⟨k, l, -, hpend, hne, h⟩ | ⟨-, hsleep, h⟩
      · refine ⟨_, h, ?_, hposted⟩
        have hlen := congrArg List.length hpend
        have hitem : ∃ a, s.take.consumer = .processing a ∧ s.take.item = [a] := by
          unfold CmdSys.item at hne ⊢
          cases hc' : s.take.consumer with
          | processing a => exact ⟨a, rfl, rfl⟩
          | running | waiting _ => simp [hc'] at hne
        obtain ⟨a, hc', hi⟩ := hitem
        rw [hi] at hlen
        simp only [List.length_append, List.length_singleton] at hlen
        unfold CmdSys.work
        rw [hc, hc']
        cases k <;> simp <;> omega
      · refine ⟨pend, h, ?_, hposted⟩
        unfold CmdSys.work
        rw [hc, hsleep]
        simp
  | waiting b =>
      cases b with
      | false => exact absurd hc hw
      | true =>
          refine ⟨pend, H.wake hc (by simp) (by simp), ?_, rfl⟩
          unfold CmdSys.work
          rw [hc]
          simp
  | processing item =>
      refine ⟨pend, H.finish hc, ?_, rfl⟩
      unfold CmdSys.work
      rw [hc]
      simp [CmdSys.finish]

/-- **The queues drain**: when nothing more is posted, the thread ends up asleep with everything
processed. -/
theorem CmdSys.Ok.drains (H : s.Ok pend) : ∃ n s', Run CmdSys.Step s (List.replicate n .process) s' ∧
    s'.consumer = .waiting false ∧ s'.posted = s.posted ∧
      ∀ k, ofQueue k s'.processed = ofQueue k s.posted := by
  induction hn : s.work pend using Nat.strong_induction_on generalizing s pend with
  | _ n ih =>
      by_cases hw : s.consumer = .waiting false
      · refine ⟨0, s, .nil s, hw, rfl, fun k => ?_⟩
        have := H.order k
        rw [H.wait hw k, CmdSys.item, hw] at this
        simpa using this.symm
      · obtain ⟨pend', h', hlt, hposted⟩ := H.process_work hw
        obtain ⟨m, s', hr, hs', hp, hall⟩ := ih _ (hn ▸ hlt) h' rfl
        exact ⟨m + 1, s', .cons ⟨hw, rfl⟩ hr, hs', hp.trans hposted, fun k => hposted ▸ hall k⟩

end Invariant

end Ipacm
