import OcnDevice.Gps.Timer.Steps

/-!
# Where a timer is

A timer belongs to its client until it is given up, by a `stop` or by the one that the message
thread makes when it has expired.  Then there is one message to remove it, then the message thread
is about to delete it, and then it is deleted (`Placed.removes`).  Apart from that there is one
message to push it, and then it may be in the heap; the removal cannot overtake the push, since the
queue is first in, first out (`Placed.order`).

`Kept` puts this together, and says that the callbacks are those of the timers that expired.
-/

namespace Gps.Timer

open LocHeapNode

/-! ## What happens to a timer -/

/-- What a step does with a timer. -/
inductive Mark
  | started (timer : LocTimerDelegate)
  | stopped (timer : LocTimerDelegate)
  | expired (timer : LocTimerDelegate)
  | calledBack (timer : LocTimerDelegate)
  | deleted (timer : LocTimerDelegate)
  deriving DecidableEq

/-- The mark of a step, if it has one.  A `start` or `stop` that returns false has none. -/
def Action.mark : Action → Option Mark
  | .start _ timer => timer.map .started
  | .stop _ timer => timer.map .stopped
  | .stopClient timer => timer.map .expired
  | .timeOutCallback timer _ => some (.calledBack timer)
  | .delete timer => some (.deleted timer)
  | _ => none

/-- The marks of a run. -/
def marks (as : List Action) : List Mark := as.filterMap Action.mark

lemma marks_concat {as : List Action} {a : Action} :
    marks (as ++ [a]) = marks as ++ a.mark.toList := by
  rw [marks, List.filterMap_append]
  cases h : a.mark with
  | none => simp [marks, h]
  | some m => simp [marks, h]

/-- How often a timer was given up. -/
def given (ms : List Mark) (timer : LocTimerDelegate) : ℕ :=
  ms.count (.stopped timer) + ms.count (.expired timer)

lemma count_concat {α : Type*} [DecidableEq α] {l : List α} {x y : α} :
    (l ++ [x]).count y = l.count y + if x = y then 1 else 0 := by
  rw [List.count_append, List.count_singleton]
  simp only [beq_iff_eq]

/-- A mark gives a timer up, or it does not count. -/
lemma given_concat {ms : List Mark} {m : Mark} {d : LocTimerDelegate} :
    given (ms ++ [m]) d = given ms d + if m = .stopped d ∨ m = .expired d then 1 else 0 := by
  simp only [given, count_concat]
  cases m with
  | stopped d' => simp; omega
  | expired d' => simp; omega
  | _ => simp

/-! ## The owner -/

variable {ms : List Mark} {m : Mark} {d : LocTimerDelegate} {k : ℕ}

/-- What the clients and their timers know of each other. -/
structure Owned (ms : List Mark) (mTimer : ℕ → Option LocTimerDelegate) (mContainer : ℕ → Bool)
    (fresh : ℕ) : Prop where
  started_le : ∀ d, ms.count (.started d) ≤ 1
  fresh : ∀ d, .started d ∈ ms → d.addr < fresh
  addr : ∀ d d', .started d ∈ ms → .started d' ∈ ms → d.addr = d'.addr → d = d'
  time : ∀ d, .started d ∈ ms → 0 < d.mFutureTime.ns
  client : ∀ k d, mTimer k = some d → d.client = k
  started : ∀ k d, mTimer k = some d → .started d ∈ ms
  contained : ∀ k d, mTimer k = some d → mContainer d.addr = true
  kept : ∀ k d, mTimer k = some d → given ms d = 0
  given_le : ∀ d, given ms d ≤ 1
  given_started : ∀ d, given ms d ≠ 0 → .started d ∈ ms

section Owned

variable {mTimer : ℕ → Option LocTimerDelegate} {mContainer : ℕ → Bool} {fresh : ℕ}

lemma Owned.not_started (h : Owned ms mTimer mContainer fresh) (hd : d.addr = fresh) :
    .started d ∉ ms :=
  fun hmem => absurd (h.fresh d hmem) (by rw [hd]; exact lt_irrefl _)

/-- A new timer has an address of its own. -/
lemma Owned.start (h : Owned ms mTimer mContainer fresh) (hd : d.addr = fresh)
    (hclient : d.client = k) (htime : 0 < d.mFutureTime.ns) :
    Owned (ms ++ [Mark.started d]) (Function.update mTimer k (some d))
      (Function.update mContainer d.addr true) (fresh + 1) := by
  have hmem : ∀ d', Mark.started d' ∈ ms ++ [Mark.started d] → .started d' ∈ ms ∨ d' = d := by
    intro d' hd'
    simpa using hd'
  have hgiven : ∀ d', given (ms ++ [Mark.started d]) d' = given ms d' := by
    intro d'
    simp [given_concat]
  have hold : ∀ k' d', Function.update mTimer k (some d) k' = some d' →
      (k' = k ∧ d' = d) ∨ mTimer k' = some d' := by
    intro k' d' hd'
    rcases eq_or_ne k' k with rfl | hne
    · rw [Function.update_self] at hd'
      exact Or.inl ⟨rfl, (Option.some.inj hd').symm⟩
    · exact Or.inr (by rwa [Function.update_of_ne hne] at hd')
  have hnone : given ms d = 0 := by
    by_contra hne
    exact h.not_started hd (h.given_started d hne)
  refine ⟨?_, ?_, ?_, ?_, ?_, ?_, ?_, ?_, ?_, ?_⟩
  · intro d'
    have hle := h.started_le d'
    rw [count_concat]
    split_ifs with heq
    · cases heq
      rw [List.count_eq_zero.mpr (h.not_started hd)]
    · exact hle
  · intro d' hd'
    rcases hmem d' hd' with hd' | rfl
    · exact (h.fresh d' hd').trans (Nat.lt_succ_self _)
    · exact hd ▸ Nat.lt_succ_self _
  · intro d₁ d₂ h₁ h₂ heq
    rcases hmem d₁ h₁ with h₁ | h₁ <;> rcases hmem d₂ h₂ with h₂ | h₂
    · exact h.addr d₁ d₂ h₁ h₂ heq
    · exact absurd (h.fresh d₁ h₁) (by rw [heq, h₂, hd]; exact lt_irrefl _)
    · exact absurd (h.fresh d₂ h₂) (by rw [← heq, h₁, hd]; exact lt_irrefl _)
    · exact h₁.trans h₂.symm
  · intro d' hd'
    rcases hmem d' hd' with hd' | rfl
    · exact h.time d' hd'
    · exact htime
  · intro k' d' hd'
    rcases hold k' d' hd' with ⟨rfl, rfl⟩ | hd'
    · exact hclient
    · exact h.client k' d' hd'
  · intro k' d' hd'
    rcases hold k' d' hd' with ⟨rfl, rfl⟩ | hd'
    · exact List.mem_append_right _ List.mem_cons_self
    · exact List.mem_append_left _ (h.started k' d' hd')
  · intro k' d' hd'
    rcases hold k' d' hd' with ⟨rfl, rfl⟩ | hd'
    · exact Function.update_self ..
    · have hlt := h.fresh d' (h.started k' d' hd')
      rw [Function.update_of_ne (by omega)]
      exact h.contained k' d' hd'
  · intro k' d' hd'
    rw [hgiven]
    rcases hold k' d' hd' with ⟨rfl, rfl⟩ | hd'
    · exact hnone
    · exact h.kept k' d' hd'
  · intro d'
    rw [hgiven]
    exact h.given_le d'
  · intro d' hne
    rw [hgiven] at hne
    exact List.mem_append_left _ (h.given_started d' hne)

/-- A client that gives up its timer has none. -/
lemma Owned.stop (h : Owned ms mTimer mContainer fresh) (hk : mTimer k = some d)
    (hm : m = .stopped d ∨ m = .expired d) :
    Owned (ms ++ [m]) (Function.update mTimer k none) (Function.update mContainer d.addr false)
      fresh := by
  have hmem : ∀ d', Mark.started d' ∈ ms ++ [m] ↔ .started d' ∈ ms := by
    intro d'
    rcases hm with rfl | rfl <;> simp
  have hgiven : ∀ d', given (ms ++ [m]) d' = given ms d' + if d = d' then 1 else 0 := by
    intro d'
    rw [given_concat]
    rcases hm with rfl | rfl <;> simp
  have hold : ∀ k' d', Function.update mTimer k none k' = some d' →
      mTimer k' = some d' ∧ d ≠ d' := by
    intro k' d' hd'
    rcases eq_or_ne k' k with rfl | hne
    · simp at hd'
    · rw [Function.update_of_ne hne] at hd'
      refine ⟨hd', ?_⟩
      rintro rfl
      exact hne ((h.client k' d hd').symm.trans (h.client k d hk))
  refine ⟨?_, ?_, ?_, ?_, ?_, ?_, ?_, ?_, ?_, ?_⟩
  · intro d'
    rcases hm with rfl | rfl <;> simpa [count_concat] using h.started_le d'
  · intro d' hd'
    exact h.fresh d' ((hmem d').mp hd')
  · intro d₁ d₂ h₁ h₂
    exact h.addr d₁ d₂ ((hmem d₁).mp h₁) ((hmem d₂).mp h₂)
  · intro d' hd'
    exact h.time d' ((hmem d').mp hd')
  · intro k' d' hd'
    exact h.client k' d' (hold k' d' hd').1
  · intro k' d' hd'
    exact (hmem d').mpr (h.started k' d' (hold k' d' hd').1)
  · intro k' d' hd'
    obtain ⟨hd', hne⟩ := hold k' d' hd'
    have haddr : d'.addr ≠ d.addr := fun heq =>
      hne (h.addr d' d (h.started k' d' hd') (h.started k d hk) heq).symm
    rw [Function.update_of_ne haddr]
    exact h.contained k' d' hd'
  · intro k' d' hd'
    obtain ⟨hd', hne⟩ := hold k' d' hd'
    rw [hgiven, if_neg hne, h.kept k' d' hd']
  · intro d'
    have hle := h.given_le d'
    rw [hgiven]
    split_ifs with heq
    · rw [← heq, h.kept k d hk]
    · omega
  · intro d' hne
    rw [hgiven] at hne
    rw [hmem]
    rcases eq_or_ne d d' with rfl | hne'
    · exact h.started k d hk
    · rw [if_neg hne', add_zero] at hne
      exact h.given_started d' hne

/-- The other marks do not matter to the owner. -/
lemma Owned.mark (h : Owned ms mTimer mContainer fresh)
    (hm : m = .calledBack d ∨ m = .deleted d) : Owned (ms ++ [m]) mTimer mContainer fresh := by
  have hmem : ∀ d', Mark.started d' ∈ ms ++ [m] ↔ .started d' ∈ ms := by
    intro d'
    rcases hm with rfl | rfl <;> simp
  have hgiven : ∀ d', given (ms ++ [m]) d' = given ms d' := by
    intro d'
    rw [given_concat]
    rcases hm with rfl | rfl <;> simp
  have hle : ∀ d', (ms ++ [m]).count (.started d') ≤ 1 := by
    intro d'
    rcases hm with rfl | rfl <;> simpa [count_concat] using h.started_le d'
  refine ⟨hle, ?_, ?_, ?_, h.client, ?_, h.contained, ?_, ?_, ?_⟩ <;> simp only [hmem, hgiven]
  · exact h.fresh
  · exact h.addr
  · exact h.time
  · exact h.started
  · exact h.kept
  · exact h.given_le
  · exact h.given_started

end Owned

/-! ## The place -/

/-- A push does not come after the removal of its timer. -/
def InOrder (msg msg' : LocMsg) : Prop := ∀ d, msg = .timerRemove d → msg' ≠ .timerPush d

/-- Where the timers are: in the messages, in the heaps, or with the message thread that deletes
`del`. -/
structure Placed (ms : List Mark) (msgs : List LocMsg) (held : Bool → Multiset LocTimerDelegate)
    (del : Option LocTimerDelegate) : Prop where
  removes : ∀ d, given ms d =
    msgs.count (.timerRemove d) + del.toList.count d + ms.count (.deleted d)
  pushed : ∀ d, .timerPush d ∈ msgs → .started d ∈ ms
  held_started : ∀ c d, d ∈ held c → .started d ∈ ms
  held_wake : ∀ c d, d ∈ held c → d.wakeOnExpire = c
  once : ∀ d c, msgs.count (.timerPush d) + (held c).count d ≤ 1
  order : msgs.Pairwise InOrder
  gone : ∀ d, d ∈ del ∨ .deleted d ∈ ms → .timerPush d ∉ msgs ∧ ∀ c, d ∉ held c

section Placed

variable {msgs rest : List LocMsg} {held : Bool → Multiset LocTimerDelegate}
  {del : Option LocTimerDelegate} {c : Bool} {M : Multiset LocTimerDelegate}

/-- What is about to be deleted, or is deleted, was given up. -/
lemma Placed.given_pos (h : Placed ms msgs held del)
    (hd : .timerRemove d ∈ msgs ∨ d ∈ del ∨ .deleted d ∈ ms) : 0 < given ms d := by
  have hsum := h.removes d
  rcases hd with hd | hd | hd
  · have := List.count_pos_iff.mpr hd
    omega
  · have := List.count_pos_iff.mpr (Option.mem_toList.mpr hd)
    omega
  · have := List.count_pos_iff.mpr hd
    omega

/-- A new timer is pushed. -/
lemma Placed.start (h : Placed ms msgs held del) (hd : .started d ∉ ms) (hgiven : given ms d = 0) :
    Placed (ms ++ [Mark.started d]) (msgs ++ [LocMsg.timerPush d]) held del := by
  have hpush : .timerPush d ∉ msgs := fun hmem => hd (h.pushed d hmem)
  have hheld : ∀ c, d ∉ held c := fun c hmem => hd (h.held_started c d hmem)
  refine ⟨?_, ?_, ?_, h.held_wake, ?_, ?_, ?_⟩
  · intro d'
    have hsum := h.removes d'
    simpa [given_concat, count_concat] using hsum
  · intro d' hd'
    rcases List.mem_append.mp hd' with hd' | hd'
    · exact List.mem_append_left _ (h.pushed d' hd')
    · cases List.mem_singleton.mp hd'
      exact List.mem_append_right _ List.mem_cons_self
  · intro c d' hd'
    exact List.mem_append_left _ (h.held_started c d' hd')
  · intro d' c
    have hle := h.once d' c
    rw [count_concat]
    split_ifs with heq
    · cases heq
      rw [List.count_eq_zero.mpr hpush, Multiset.count_eq_zero.mpr (hheld c)]
    · exact hle
  · refine List.pairwise_append.mpr ⟨h.order, List.pairwise_singleton _ _, ?_⟩
    intro msg hmsg msg' hmsg' d' hd' heq
    cases hd'
    cases heq.symm.trans (List.mem_singleton.mp hmsg')
    exact absurd hgiven (h.given_pos (Or.inl hmsg)).ne'
  · intro d' hd'
    have hd'' : d' ∈ del ∨ .deleted d' ∈ ms := by simpa using hd'
    obtain ⟨hmsgs, hnot⟩ := h.gone d' hd''
    refine ⟨fun hmem => ?_, hnot⟩
    rcases List.mem_append.mp hmem with hmem | hmem
    · exact hmsgs hmem
    · cases List.mem_singleton.mp hmem
      exact absurd hgiven (h.given_pos (Or.inr hd'')).ne'

/-- A timer that is given up is removed. -/
lemma Placed.stop (h : Placed ms msgs held del) (hm : m = .stopped d ∨ m = .expired d) :
    Placed (ms ++ [m]) (msgs ++ [LocMsg.timerRemove d]) held del := by
  have hold : ∀ {m' : Mark}, (∀ d', m' ≠ .stopped d' ∧ m' ≠ .expired d') →
      (m' ∈ ms ++ [m] ↔ m' ∈ ms) := by
    intro m' hm'
    have hne : m' ≠ m := by
      rcases hm with rfl | rfl
      · exact (hm' d).1
      · exact (hm' d).2
    simp [hne]
  have hdel : ∀ d', Mark.deleted d' ∈ ms ++ [m] ↔ .deleted d' ∈ ms := fun d' => hold (by simp)
  have hstart : ∀ d', Mark.started d' ∈ ms ++ [m] ↔ .started d' ∈ ms := fun d' => hold (by simp)
  refine ⟨?_, ?_, ?_, h.held_wake, ?_, ?_, ?_⟩
  · intro d'
    have hsum := h.removes d'
    simp only [given_concat, count_concat, LocMsg.timerRemove.injEq]
    rcases hm with rfl | rfl <;> simp <;> omega
  · intro d' hd'
    exact (hstart d').mpr (h.pushed d' (by simpa using hd'))
  · intro c d' hd'
    exact (hstart d').mpr (h.held_started c d' hd')
  · intro d' c
    simpa [count_concat] using h.once d' c
  · refine List.pairwise_append.mpr ⟨h.order, List.pairwise_singleton _ _, ?_⟩
    intro msg _ msg' hmsg' d' _ heq
    cases heq.symm.trans (List.mem_singleton.mp hmsg')
  · intro d' hd'
    rw [hdel] at hd'
    obtain ⟨hmsgs, hnot⟩ := h.gone d' hd'
    exact ⟨by simpa using hmsgs, hnot⟩

/-- The poll thread posts. -/
lemma Placed.post (h : Placed ms msgs held del) :
    Placed ms (msgs ++ [LocMsg.timerExpire c]) held del := by
  refine ⟨?_, ?_, h.held_started, h.held_wake, ?_, ?_, ?_⟩
  · intro d'
    simpa [count_concat] using h.removes d'
  · intro d' hd'
    exact h.pushed d' (by simpa using hd')
  · intro d' c
    simpa [count_concat] using h.once d' c
  · refine List.pairwise_append.mpr ⟨h.order, List.pairwise_singleton _ _, ?_⟩
    intro msg _ msg' hmsg' d' _ heq
    cases heq.symm.trans (List.mem_singleton.mp hmsg')
  · intro d' hd'
    obtain ⟨hmsgs, hnot⟩ := h.gone d' hd'
    exact ⟨by simpa using hmsgs, hnot⟩

/-- Timers leave a heap. -/
lemma Placed.shrink (h : Placed ms msgs held del) (hle : M ≤ held c) :
    Placed ms msgs (Function.update held c M) del := by
  have hsub : ∀ c', Function.update held c M c' ≤ held c' := by
    intro c'
    rcases eq_or_ne c' c with rfl | hne
    · rwa [Function.update_self]
    · rw [Function.update_of_ne hne]
  refine ⟨h.removes, h.pushed, ?_, ?_, ?_, h.order, ?_⟩
  · intro c' d' hd'
    exact h.held_started c' d' (Multiset.mem_of_le (hsub c') hd')
  · intro c' d' hd'
    exact h.held_wake c' d' (Multiset.mem_of_le (hsub c') hd')
  · intro d' c'
    have hcount := Multiset.count_le_of_le d' (hsub c')
    have hle := h.once d' c'
    omega
  · intro d' hd'
    obtain ⟨hmsgs, hnot⟩ := h.gone d' hd'
    exact ⟨hmsgs, fun c' hmem => hnot c' (Multiset.mem_of_le (hsub c') hmem)⟩

/-- The message thread takes a push. -/
lemma Placed.push (h : Placed ms (.timerPush d :: rest) held del) :
    Placed ms rest (Function.update held d.wakeOnExpire (held d.wakeOnExpire + {d})) del := by
  have hmem : ∀ c' d', d' ∈ Function.update held d.wakeOnExpire (held d.wakeOnExpire + {d}) c' →
      d' ∈ held c' ∨ (d' = d ∧ c' = d.wakeOnExpire) := by
    intro c' d' hd'
    rcases eq_or_ne c' d.wakeOnExpire with rfl | hne
    · rw [Function.update_self] at hd'
      rcases Multiset.mem_add.mp hd' with hd' | hd'
      · exact Or.inl hd'
      · exact Or.inr ⟨Multiset.mem_singleton.mp hd', rfl⟩
    · exact Or.inl (by rwa [Function.update_of_ne hne] at hd')
  refine ⟨?_, ?_, ?_, ?_, ?_, (List.pairwise_cons.mp h.order).2, ?_⟩
  · intro d'
    simpa using h.removes d'
  · intro d' hd'
    exact h.pushed d' (List.mem_cons_of_mem _ hd')
  · intro c' d' hd'
    rcases hmem c' d' hd' with hd' | ⟨rfl, _⟩
    · exact h.held_started c' d' hd'
    · exact h.pushed d' List.mem_cons_self
  · intro c' d' hd'
    rcases hmem c' d' hd' with hd' | ⟨rfl, rfl⟩
    · exact h.held_wake c' d' hd'
    · rfl
  · intro d' c'
    have hle := h.once d' c'
    rw [List.count_cons] at hle
    rcases eq_or_ne c' d.wakeOnExpire with rfl | hne
    · rw [Function.update_self, Multiset.count_add, Multiset.count_singleton]
      rcases eq_or_ne d' d with rfl | hne
      · simp at hle ⊢
        omega
      · rw [if_neg hne]
        omega
    · rw [Function.update_of_ne hne]
      omega
  · intro d' hd'
    obtain ⟨hmsgs, hnot⟩ := h.gone d' hd'
    rw [List.mem_cons, not_or] at hmsgs
    refine ⟨hmsgs.2, fun c' hd' => ?_⟩
    rcases hmem c' d' hd' with hd' | ⟨rfl, _⟩
    · exact hnot c' hd'
    · exact hmsgs.1 rfl

/-- The message thread takes a removal, and has the timer to delete. -/
lemma Placed.remove (h : Placed ms (.timerRemove d :: rest) held none) :
    Placed ms rest (Function.update held d.wakeOnExpire ((held d.wakeOnExpire).erase d))
      (some d) := by
  have h' := h.shrink (c := d.wakeOnExpire) (Multiset.erase_le d _)
  have hnot : ∀ c, d ∉ Function.update held d.wakeOnExpire ((held d.wakeOnExpire).erase d) c := by
    intro c hmem
    rcases eq_or_ne c d.wakeOnExpire with rfl | hne
    · have hle := h.once d d.wakeOnExpire
      rw [Function.update_self, ← Multiset.count_pos, Multiset.count_erase_self] at hmem
      omega
    · exact hne (h'.held_wake c d hmem).symm
  obtain ⟨horder, hrest⟩ := List.pairwise_cons.mp h.order
  refine ⟨?_, ?_, h'.held_started, h'.held_wake, ?_, hrest, ?_⟩
  · intro d'
    have hsum := h.removes d'
    rw [List.count_cons] at hsum
    simp only [beq_iff_eq, LocMsg.timerRemove.injEq, Option.toList_none, List.count_nil] at hsum
    rw [Option.toList_some, List.count_singleton]
    simp only [beq_iff_eq]
    omega
  · intro d' hd'
    exact h.pushed d' (List.mem_cons_of_mem _ hd')
  · intro d' c
    simpa using h'.once d' c
  · intro d' hd'
    rcases hd' with hd' | hd'
    · cases hd'
      exact ⟨fun hmem => horder _ hmem d rfl rfl, hnot⟩
    · obtain ⟨hmsgs, hnot'⟩ := h'.gone d' (Or.inr hd')
      exact ⟨fun hmem => hmsgs (List.mem_cons_of_mem _ hmem), hnot'⟩

/-- The message thread takes a message of the poll thread. -/
lemma Placed.expire (h : Placed ms (.timerExpire c :: rest) held del) :
    Placed ms rest held del := by
  refine ⟨?_, ?_, h.held_started, h.held_wake, ?_, (List.pairwise_cons.mp h.order).2, ?_⟩
  · intro d'
    simpa using h.removes d'
  · intro d' hd'
    exact h.pushed d' (List.mem_cons_of_mem _ hd')
  · intro d' c'
    simpa using h.once d' c'
  · intro d' hd'
    obtain ⟨hmsgs, hnot⟩ := h.gone d' hd'
    exact ⟨fun hmem => hmsgs (List.mem_cons_of_mem _ hmem), hnot⟩

/-- The message thread deletes. -/
lemma Placed.delete (h : Placed ms msgs held (some d)) :
    Placed (ms ++ [Mark.deleted d]) msgs held none := by
  refine ⟨?_, ?_, ?_, h.held_wake, h.once, h.order, ?_⟩
  · intro d'
    have hsum := h.removes d'
    rw [Option.toList_some, List.count_singleton] at hsum
    simp only [beq_iff_eq] at hsum
    simp only [given_concat, count_concat, Mark.deleted.injEq]
    simp
    omega
  · intro d' hd'
    exact List.mem_append_left _ (h.pushed d' hd')
  · intro c d' hd'
    exact List.mem_append_left _ (h.held_started c d' hd')
  · intro d' hd'
    refine h.gone d' ?_
    simp at hd'
    rcases hd' with hd' | rfl
    · exact Or.inr hd'
    · exact Or.inl rfl

/-- The message thread calls back. -/
lemma Placed.call (h : Placed ms msgs held del) :
    Placed (ms ++ [Mark.calledBack d]) msgs held del := by
  refine ⟨?_, ?_, ?_, h.held_wake, h.once, h.order, ?_⟩
  · intro d'
    simpa [given_concat, count_concat] using h.removes d'
  · intro d' hd'
    exact List.mem_append_left _ (h.pushed d' hd')
  · intro c d' hd'
    exact List.mem_append_left _ (h.held_started c d' hd')
  · intro d' hd'
    exact h.gone d' (by simpa using hd')

end Placed

end Gps.Timer
