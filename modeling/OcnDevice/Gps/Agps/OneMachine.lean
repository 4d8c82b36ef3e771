import Mathlib
import OcnDevice.Gps.Agps.Manager

/-!
# One handle, one machine

A handle is at a place when it is subscribed there or when a request that waits in the queue will
subscribe it there.  The invariant is that every handle is at one place at most (`OneEach`), where
the handles of the modem's own requests are distinct.

The DS machine breaks it in two ways, both of which put a handle into the queue for regular SUPL
while it is still at the DS machine: a start that falls back leaves the subscriber in the list,
and a refused call deletes its subscribers although a retry for one of them waits in the queue.
`Firm` excludes these, and the release of a handle that the DS machine holds in RELEASED, where
the release does not end the subscription.
-/

namespace Gps.Agps

open AgpsManager

variable {c : Conf} {s t : AgpsManager} {n n' : Nif} {h : ℤ}

/-! ## The condition -/

/-- The input makes the DS machine try to start a call, and the start falls back to regular
SUPL. -/
def FallsBack (c : Conf) (r : Reply) (s : AgpsManager) (i : Input) : Prop :=
  ∃ p ∈ dsTakes c r s i, p.1.Attempts p.2 ∧ p.1.StartFails c r

instance (c : Conf) (r : Reply) (s : AgpsManager) (i : Input) : Decidable (FallsBack c r s i) :=
  inferInstanceAs (Decidable (∃ p ∈ dsTakes c r s i, _))

/-- The release of a handle finds it in a machine that is not in RELEASED. -/
def ReleaseEnds (s : AgpsManager) : Input → Prop
  | .releaseATL h => ∀ p ∈ s.search h, s.stateIn p.1 ≠ .released
  | _ => True

instance (s : AgpsManager) : (i : Input) → Decidable (ReleaseEnds s i)
  | .releaseATL h => inferInstanceAs (Decidable (∀ p ∈ s.search h, _))
  | .createAgpsStateMachines | .requestATL _ _ | .reportDataCallOpened | .reportDataCallClosed
  | .reportAtlOpenSuccess .. | .reportAtlOpenFailed _ | .reportAtlClosed _ | .handleModemSSR
  | .postedRequest | .retryTimer => inferInstanceAs (Decidable True)

/-- **The condition**: no start of a data call falls back, nobody who is refused has a retry in
the queue, and a release ends its subscription. -/
structure Firm (c : Conf) (s : AgpsManager) (i : Input) (r : Reply) : Prop where
  starts : ¬FallsBack c r s i
  refuses : ∀ x ∈ refused c s i, (x.connHandle, .suplEs) ∉ s.queue
  releases : ReleaseEnds s i

instance (c : Conf) (s : AgpsManager) (i : Input) (r : Reply) : Decidable (Firm c s i r) :=
  decidable_of_iff (¬FallsBack c r s i ∧
      (∀ x ∈ refused c s i, (x.connHandle, .suplEs) ∉ s.queue) ∧ ReleaseEnds s i)
    ⟨fun h => ⟨h.1, h.2.1, h.2.2⟩, fun h => ⟨h.starts, h.refuses, h.releases⟩⟩

/-- A step that meets the condition. -/
def FirmStep (c : Conf) (s : AgpsManager) (a : Action) (t : AgpsManager) : Prop :=
  Step c s a t ∧ Firm c s a.input a.reply

/-- The handles of the modem's requests in a run. -/
def asked (as : List Action) : List ℤ :=
  as.filterMap fun a =>
    match a.input with
    | .requestATL h _ => some h
    | _ => none

lemma asked_append (as bs : List Action) : asked (as ++ bs) = asked as ++ asked bs :=
  List.filterMap_append

/-! ## Where a handle is -/

/-- The handle is subscribed at the place, or a request waits that will subscribe it there. -/
def At (c : Conf) (s : AgpsManager) (h : ℤ) (n : Nif) : Prop :=
  (∃ x ∈ s.subs n, x.connHandle = h) ∨ ∃ type, (h, type) ∈ s.queue ∧ place c type = n

/-- Every handle is at one place at most, and at none before the modem asked for it. -/
structure OneEach (c : Conf) (as : List Action) (s : AgpsManager) : Prop where
  one : ∀ h n n', At c s h n → At c s h n' → n = n'
  known : ∀ h n, At c s h n → h ∈ asked as
  pdn : s.subs .ds ≠ [] → c.usePdn = true

/-- **Where a handle comes from**: it was there, or the modem asks for it, or the step posts a
request for it. -/
lemma at_origin {a : Action} (hst : Step c s a t) (hat : At c t h n) :
    At c s h n ∨ (∃ type, a.input = .requestATL h type ∧ n = place c type) ∨
      ∃ type, .sendMsg h type ∈ a.outs ∧ n = place c type := by
  obtain ⟨he, hqueue⟩ := hst.effect
  rcases hat with ⟨x, hx, rfl⟩ | ⟨type, hq, rfl⟩
  · cases he with
    | event n₁ event m₀ m pre hsent hm₀ hcr hm htn ht houts hpre =>
        by_cases hn : n = n₁
        · subst hn
          rw [taken_after htn] at hx
          rcases AgpsStateMachine.mem_subscribersAfter hx with hx | ⟨hev, -⟩ | ⟨-, -, -, y, hy, -, rfl⟩
          · rw [(taken_subscribers hm₀ hm).1] at hx
            exact Or.inl (Or.inl ⟨x, hx, rfl⟩)
          · rw [AgpsStateMachine.translate_eq_subscribe] at hev
            subst hev
            rcases sent_subscribe hsent with ⟨type, hin, hn⟩ | ⟨type, hin, hn⟩
            · exact Or.inr (Or.inl ⟨type, hin, hn⟩)
            · exact Or.inl (Or.inr ⟨type, hin, hn.symm⟩)
          · rw [(taken_subscribers hm₀ hm).1] at hy
            exact Or.inl (Or.inl ⟨y, hy, rfl⟩)
        · rw [(ht n hn).subs] at hx
          exact Or.inl (Or.inl ⟨x, hx, rfl⟩)
    | idle hspr _ _ =>
        rw [(hspr n).subs] at hx
        exact Or.inl (Or.inl ⟨x, hx, rfl⟩)
    | restart _ ht _ =>
        simp only [subs, ht] at hx
        cases hn : s.nif n <;> simp [hn, AgpsStateMachine.dropAllSubscribers] at hx
  · rw [hqueue] at hq
    rcases List.mem_append.mp hq with hq | hq
    · exact Or.inl (Or.inr ⟨type, mem_waiting hq, rfl⟩)
    · exact Or.inr (Or.inr ⟨type, mem_posted.mp hq, rfl⟩)

/-- **Whom a firm step posts a request for**: the retry timer for a subscriber of the DS machine,
and a refusal for the subscribers that the DS machine gives up. -/
lemma sendMsg_origin {a : Action} {type : AGpsExtType} (hst : Step c s a t)
    (hf : Firm c s a.input a.reply) (ho : .sendMsg h type ∈ a.outs) :
    (∃ x ∈ s.subs .ds, x.connHandle = h) ∧
      (a.input = .retryTimer ∧ type = .suplEs ∨
        a.input ≠ .retryTimer ∧ type = .supl ∧ t.subs .ds = [] ∧ (h, .suplEs) ∉ s.queue) := by
  cases hst.effect.1 with
  | event n event m₀ m pre hsent hm₀ hcr hm htn ht houts hpre =>
      rw [houts] at ho
      rcases List.mem_append.mp ho with ho | ho
      · cases hpre _ ho
      · obtain ⟨⟨hk, htype⟩, hwhy⟩ := AgpsStateMachine.mem_sendMsg ho
        have hn : n = .ds := by cases n <;> simp [Nif.kind] at hk ⊢
        subst hn
        obtain ⟨hsubs, -⟩ := taken_subscribers hm₀ hm
        rcases hwhy with ⟨href, hmem⟩ | ⟨hatt, hfail, -⟩
        · obtain ⟨x, hx, hxh⟩ := List.mem_map.mp hmem
          have hxr := mem_refused hsent (taken_refuses hm₀ hm href) href hx
          have hnot := hf.refuses x hxr
          rw [hxh] at hnot
          rw [hsubs] at hx
          refine ⟨⟨x, hx, hxh⟩, Or.inr ⟨?_, htype, ?_, hnot⟩⟩
          · intro hin
            simp [hin, sent] at hsent
          · rw [taken_after htn, href.1]
            simp [AgpsStateMachine.subscribersAfter, href.2]
        · refine absurd ?_ hf.starts
          have hev : event ≠ .granted := by
            rintro rfl
            rcases hatt with ⟨hx, -⟩ | ⟨hx | hx, -⟩ <;> cases hx
          refine ⟨(m, event), ?_, hatt, hfail⟩
          rcases hm with rfl | ⟨hx, -⟩
          · rcases hm₀ with hm₀ | ⟨hnone, rfl⟩
            · simp only [dsTakes, hsent, hm₀]
              rfl
            · simp only [dsTakes, hsent, hnone, if_pos (hcr rfl hnone)]
              rfl
          · exact absurd hx hev
  | idle hspr hidle hnone =>
      have hid := hidle _ ho
      cases hin : a.input with
      | requestATL h' type' =>
          rw [hin] at hid
          rcases hid with hid | hid <;> cases hid
      | postedRequest =>
          rw [hin] at hid
          rcases hid with hid | ⟨h', type', rest, -, hid⟩ <;> cases hid
      | retryTimer =>
          rw [hin] at hid
          obtain ⟨x, hx, -, hid⟩ := hid
          cases hid
          exact ⟨⟨x, hx, rfl⟩, Or.inl ⟨rfl, rfl⟩⟩
      | _ =>
          rw [hin] at hid
          cases hid
  | restart _ _ houts => rcases houts _ ho with ho | ho | ho | ho <;> cases ho

/-- **Where a handle comes from in a firm step**: it was there, or the modem asks for it for the
first time, or it leaves the DS machine for regular SUPL. -/
lemma OneEach.origin {as : List Action} {a : Action} (hs : OneEach c as s) (hst : Step c s a t)
    (hf : Firm c s a.input a.reply) (hat : At c t h n) :
    At c s h n ∨ (∃ type, a.input = .requestATL h type ∧ n = place c type) ∨
      n = .agnss ∧ At c s h .ds ∧ ¬At c t h .ds := by
  rcases at_origin hst hat with hat | hin | ⟨type, ho, hn⟩
  · exact Or.inl hat
  · exact Or.inr (Or.inl hin)
  · obtain ⟨hx, ⟨-, rfl⟩ | ⟨hne, rfl, hnil, hq⟩⟩ := sendMsg_origin hst hf ho
    · have hpdn : c.usePdn = true := by
        refine hs.pdn ?_
        obtain ⟨x, hx, -⟩ := hx
        exact List.ne_nil_of_mem hx
      have hds : n = .ds := hn.trans (place_eq_ds.mpr ⟨rfl, hpdn⟩)
      subst hds
      exact Or.inl (Or.inl hx)
    · refine Or.inr (Or.inr ⟨hn, Or.inl hx, ?_⟩)
      rintro (⟨x, hx, -⟩ | ⟨type, hmem, hpl⟩)
      · rw [hnil] at hx
        exact absurd hx List.not_mem_nil
      · obtain ⟨rfl, -⟩ := place_eq_ds.mp hpl
        rw [hst.effect.2] at hmem
        rcases List.mem_append.mp hmem with hmem | hmem
        · exact hq (mem_waiting hmem)
        · obtain ⟨-, ⟨hin, -⟩ | ⟨-, htype, -⟩⟩ := sendMsg_origin hst hf (mem_posted.mp hmem)
          · exact hne hin
          · cases htype

/-- **A firm step** keeps every handle at one place, when the modem asks for new handles only. -/
lemma OneEach.step {as : List Action} {a : Action} (hs : OneEach c as s) (hst : FirmStep c s a t)
    (hd : (asked (as ++ [a])).Nodup) : OneEach c (as ++ [a]) t := by
  obtain ⟨hstep, hf⟩ := hst
  have hnew : ∀ h type, a.input = .requestATL h type → ∀ n, ¬At c s h n := by
    intro h type hin n hat
    have hmem := hs.known h n hat
    rw [asked_append, List.nodup_append] at hd
    refine hd.2.2 h hmem h ?_ rfl
    simp [asked, hin]
  refine ⟨?_, ?_, ?_⟩
  · intro h n n' hat hat'
    rcases hs.origin hstep hf hat with ho | ⟨type, hin, hn⟩ | ⟨hn, hds, hnot⟩
    · rcases hs.origin hstep hf hat' with ho' | ⟨type, hin, -⟩ | ⟨-, hds, hnot⟩
      · exact hs.one h n n' ho ho'
      · exact absurd ho (hnew h type hin n)
      · have heq := hs.one h n .ds ho hds
        subst heq
        exact absurd hat hnot
    · rcases hs.origin hstep hf hat' with ho' | ⟨type', hin', hn'⟩ | ⟨-, hds, -⟩
      · exact absurd ho' (hnew h type hin n')
      · rw [hin] at hin'
        cases hin'
        exact hn.trans hn'.symm
      · exact absurd hds (hnew h type hin .ds)
    · rcases hs.origin hstep hf hat' with ho' | ⟨type, hin, -⟩ | ⟨hn', -, -⟩
      · have heq := hs.one h n' .ds ho' hds
        subst heq
        exact absurd hat' hnot
      · exact absurd hds (hnew h type hin .ds)
      · exact hn.trans hn'.symm
  · intro h n hat
    rw [asked_append, List.mem_append]
    rcases hs.origin hstep hf hat with ho | ⟨type, hin, -⟩ | ⟨-, hds, -⟩
    · exact Or.inl (hs.known h n ho)
    · right
      simp [asked, hin]
    · exact Or.inl (hs.known h .ds hds)
  · intro hne
    obtain ⟨x, hx⟩ := List.exists_mem_of_ne_nil _ hne
    rcases at_origin hstep (n := .ds) (Or.inl ⟨x, hx, rfl⟩) with (⟨y, hy, -⟩ | ⟨type, -, hpl⟩) |
        ⟨type, -, hpl⟩ | ⟨type, -, hpl⟩
    · exact hs.pdn (List.ne_nil_of_mem hy)
    · exact (place_eq_ds.mp hpl).2
    · exact (place_eq_ds.mp hpl.symm).2
    · exact (place_eq_ds.mp hpl.symm).2

/-! ## Runs -/

/-- **One handle, one machine** in every run of firm steps in which the modem's handles are
distinct: a handle is subscribed in one machine at most, and so its release ends every
subscription of it. -/
theorem one_handle_one_machine {as : List Action} (hr : Run (FirmStep c) init as s)
    (hd : (asked as).Nodup) :
    (∀ h n n', (∃ x ∈ s.subs n, x.connHandle = h) → (∃ x ∈ s.subs n', x.connHandle = h) →
      n = n') ∧
    ∀ h r outs t, FirmStep c s ⟨.releaseATL h, r, outs⟩ t →
      ∀ n, ∀ x ∈ t.subs n, x.connHandle = h → x.isInactive = true := by
  have hinv : ∀ n, ((s.subs n).map (·.connHandle)).Nodup := by
    refine hr.invariant (P := fun s => ∀ n, ((s.subs n).map (·.connHandle)).Nodup)
      (fun s a t hs hst => distinct_step hs hst.1) ?_
    intro n
    exact List.nodup_nil
  have hone : OneEach c as s := by
    refine hr.history (P := fun as s => (asked as).Nodup → OneEach c as s) ?_ ?_ hd
    · intro as s a t ih hst hd
      refine (ih ?_).step hst hd
      rw [asked_append, List.nodup_append] at hd
      exact hd.1
    · intro _
      refine ⟨?_, ?_, fun hne => absurd rfl hne⟩
      · rintro h n n' (⟨x, hx, -⟩ | ⟨type, hx, -⟩) <;> exact absurd hx List.not_mem_nil
      · rintro h n (⟨x, hx, -⟩ | ⟨type, hx, -⟩) <;> exact absurd hx List.not_mem_nil
  refine ⟨fun h n n' hx hx' => hone.one h n n' (Or.inl hx) (Or.inl hx'), ?_⟩
  rintro h r outs t ⟨hst, hf⟩ n x hx hxh
  cases hsearch : s.search h with
  | none =>
      have hnone := search_eq_none.mp hsearch
      cases hst.effect.1 with
      | idle hspr _ _ =>
          rw [(hspr n).subs] at hx
          exact absurd hxh (subscriberIn_eq_none.mp (hnone n) x hx)
      | event n₁ event m₀ m pre hsent hm₀ hcr hm htn ht houts hpre =>
          simp [sent, hsearch] at hsent
      | restart hin _ _ => cases hin
  | some p =>
      obtain ⟨n₁, sub⟩ := p
      obtain ⟨hself, hsame⟩ := inactive_of_release hinv rfl hsearch (hf.releases _ hsearch) hst
      by_cases hn : n = n₁
      · subst hn
        exact hself x hx hxh
      · rw [hsame n hn] at hx
        exact absurd (hone.one h n n₁ (Or.inl ⟨x, hx, hxh⟩)
          (Or.inl ⟨sub, subscriberIn_some (search_some hsearch)⟩)) hn

/-- The next state where the step is firm. -/
def nextFirm (c : Conf) (s : AgpsManager) (p : Input × Reply) : Option (AgpsManager × Action) :=
  if Firm c s p.1 p.2 then next c s p else none

lemma firmStep_of_next {p : Input × Reply} {q : AgpsManager × Action}
    (h : nextFirm c s p = some q) : FirmStep c s q.2 q.1 := by
  simp only [nextFirm] at h
  split at h
  · rename_i hf
    refine ⟨step_of_next h, ?_⟩
    obtain ⟨q', -, rfl⟩ := Option.map_eq_some_iff.mp h
    exact hf
  · cases h

/-- The DS client knows no emergency profile. -/
def unsupportedReply : Reply := ⟨errUnsupported, false, 0⟩

/-- **A handle in two machines**: there is no emergency profile, so that the DS machine keeps the
handle in its list and posts a request for regular SUPL, which subscribes it once more. -/
theorem handle_in_two_machines :
    ¬∀ (c : Conf) (as : List Action) (s : AgpsManager),
      Run (Step c) init as s → (asked as).Nodup →
        ∀ h n n', (∃ x ∈ s.subs n, x.connHandle = h) → (∃ x ∈ s.subs n', x.connHandle = h) →
          n = n' := by
  intro hall
  have hrun : (execBy (next emergencyConf) init
      [(.createAgpsStateMachines, okReply), (.requestATL 1 .suplEs, unsupportedReply),
        (.postedRequest, okReply)]).map (fun p =>
        decide ((asked p.2).Nodup ∧ (∃ x ∈ p.1.subs .agnss, x.connHandle = 1) ∧
          ∃ x ∈ p.1.subs .ds, x.connHandle = 1)) = some true := by
    decide +kernel
  obtain ⟨p, hp, hdec⟩ := Option.map_eq_some_iff.mp hrun
  obtain ⟨hd, hagnss, hds⟩ := of_decide_eq_true hdec
  have hr : Run (Step emergencyConf) init p.2 p.1 :=
    Run.of_execBy (fun _ _ _ h => step_of_next h) hp
  have heq := hall emergencyConf p.2 p.1 hr hd 1 .agnss .ds hagnss hds
  cases heq

/-- An emergency request that is refused after its start and taken over by regular SUPL, beside
one that is released. -/
theorem one_handle_one_machine_refused :
    ∃ p, execBy (nextFirm emergencyConf) init
      [(.createAgpsStateMachines, okReply), (.requestATL 1 .suplEs, okReply),
        (.requestATL 2 .wwanAny, okReply), (.reportDataCallClosed, okReply),
        (.postedRequest, okReply)] = some p ∧
      ∀ h n n', (∃ x ∈ p.1.subs n, x.connHandle = h) →
        (∃ x ∈ p.1.subs n', x.connHandle = h) → n = n' := by
  have hrun : (execBy (nextFirm emergencyConf) init
      [(.createAgpsStateMachines, okReply), (.requestATL 1 .suplEs, okReply),
        (.requestATL 2 .wwanAny, okReply), (.reportDataCallClosed, okReply),
        (.postedRequest, okReply)]).map (fun p => decide (asked p.2).Nodup) = some true := by
    decide +kernel
  obtain ⟨p, hp, hdec⟩ := Option.map_eq_some_iff.mp hrun
  have hr : Run (FirmStep emergencyConf) init p.2 p.1 :=
    Run.of_execBy (fun _ _ _ h => firmStep_of_next h) hp
  exact ⟨p, hp, (one_handle_one_machine hr (of_decide_eq_true hdec)).1⟩

end Gps.Agps
