import OcnDevice.Core.Run
import OcnDevice.Core.SingleChain

/-!
# The event dispatcher

Listeners register for events in a singly linked list.  `ProcessEvt` walks over the list and calls
back every listener that is registered for the event; a callback may register and deregister
listeners, which changes the list under the walk.

A node is identified by the number of the `malloc` that made it, so a node that was freed is never
confused with one that came to lie in the same place.  A registration for which `malloc` fails
changes nothing and is left out.
-/

namespace Ipacm

open Chain

/-- A `cmd_evts`: a node of the list of registrations. -/
structure CmdEvts where
  event : ℕ
  obj : ℕ
  next : Option ℕ
  deriving DecidableEq, Repr

/-- The list of registrations.  `fresh` counts the nodes made so far. -/
structure EvtDispatcher where
  head : Option ℕ := none
  mem : ℕ → Option CmdEvts := fun _ => none
  fresh : ℕ := 0

namespace EvtDispatcher

/-- `next` of a node. -/
def next (d : EvtDispatcher) (a : ℕ) : Option ℕ := (d.mem a).bind CmdEvts.next

/-- What a node registers, without its link. -/
def entry (d : EvtDispatcher) (a : ℕ) : Option (ℕ × ℕ) := (d.mem a).map fun n => (n.event, n.obj)

/-- Write `next` of a node. -/
def setNext (d : EvtDispatcher) (a : ℕ) (p : Option ℕ) : EvtDispatcher :=
  { d with mem := Function.update d.mem a ((d.mem a).map fun n => { n with next := p }) }

/-- `free`. -/
def free (d : EvtDispatcher) (a : ℕ) : EvtDispatcher :=
  { d with mem := Function.update d.mem a none }

/-- `while (tmp->next) tmp = tmp->next`, for at most `fuel` passes. -/
def lastFrom (d : EvtDispatcher) : ℕ → ℕ → ℕ
  | 0, tmp => tmp
  | fuel + 1, tmp =>
      match d.next tmp with
      | none => tmp
      | some tmp' => d.lastFrom fuel tmp'

/-- `registr`. -/
def registr (d : EvtDispatcher) (event obj : ℕ) : EvtDispatcher :=
  let nw := d.fresh
  let d' := { d with
    mem := Function.update d.mem nw (some { event, obj, next := none })
    fresh := d.fresh + 1 }
  match d.head with
  | none => { d' with head := some nw }
  | some tmp => d'.setNext (d'.lastFrom d.fresh tmp) (some nw)

/-- Take the node `tmp` out of the list. -/
def unlink (d : EvtDispatcher) (prev : Option ℕ) (tmp : ℕ) : EvtDispatcher :=
  if some tmp = d.head then { d with head := d.next tmp }
  else
    match prev with
    | none => d
    | some prev => if d.next tmp = none then d.setNext prev none else d.setNext prev (d.next tmp)

/-- The loop of `deregistr`, for at most `fuel` passes. -/
def deregistrFrom (param : ℕ) : ℕ → EvtDispatcher → Option ℕ → Option ℕ → EvtDispatcher
  | 0, d, _, _ => d
  | _ + 1, d, _, none => d
  | fuel + 1, d, prev, some tmp =>
      if (d.mem tmp).map CmdEvts.obj = some param then
        let d' := d.unlink prev tmp
        deregistrFrom param fuel (d'.free tmp) prev (d'.next tmp)
      else deregistrFrom param fuel d (some tmp) (d.next tmp)

/-- `deregistr`. -/
def deregistr (d : EvtDispatcher) (param : ℕ) : EvtDispatcher :=
  deregistrFrom param d.fresh d d.head d.head

/-- The nodes from a pointer on, at most `fuel` of them. -/
def nodesFrom (d : EvtDispatcher) : ℕ → Option ℕ → List ℕ
  | 0, _ => []
  | _ + 1, none => []
  | fuel + 1, some a => a :: d.nodesFrom fuel (d.next a)

/-- The nodes of the list. -/
def nodes (d : EvtDispatcher) : List ℕ := d.nodesFrom d.fresh d.head

end EvtDispatcher

/-- What a callback does to the list. -/
inductive DispOp
  | registr (event obj : ℕ)
  | deregistr (param : ℕ)
  deriving DecidableEq, Repr

/-- Do it. -/
def DispOp.run (d : EvtDispatcher) : DispOp → EvtDispatcher
  | .registr event obj => d.registr event obj
  | .deregistr param => d.deregistr param

/-- A dispatch on its way: the list, the next node to look at, and the nodes whose listeners were
called. -/
structure Dispatch where
  d : EvtDispatcher
  tmp : Option ℕ
  calls : List ℕ

/-- `ProcessEvt` in front of its loop. -/
def Dispatch.start (d : EvtDispatcher) : Dispatch := { d, tmp := d.head, calls := [] }

/-- One pass of the loop of `ProcessEvt`.  If the listener is called, its callback does `ops`.
There is no pass at a node that was freed. -/
def Dispatch.visit (evt : ℕ) (s : Dispatch) (ops : List DispOp) : Option Dispatch :=
  s.tmp.bind fun tmp => (s.d.mem tmp).map fun tmp1 =>
    if tmp1.event = evt then
      { d := ops.foldl DispOp.run s.d, tmp := tmp1.next, calls := s.calls ++ [tmp] }
    else { s with tmp := tmp1.next }

/-- The node that the loop looks at next was not freed. -/
def Dispatch.Safe (s : Dispatch) : Prop := ∀ tmp ∈ s.tmp, (s.d.mem tmp).isSome

/-- **The callback spares the next node**: it does not deregister the listener that the node behind
the current one belongs to. -/
def Dispatch.Spares (evt : ℕ) (s : Dispatch) (ops : List DispOp) : Prop :=
  ∀ tmp ∈ s.tmp, ∀ n ∈ s.d.mem tmp, n.event = evt → ∀ u ∈ n.next, ∀ m ∈ s.d.mem u,
    DispOp.deregistr m.obj ∉ ops

instance (s : Dispatch) : Decidable s.Safe := by
  unfold Dispatch.Safe
  infer_instance

instance (evt : ℕ) (s : Dispatch) (ops : List DispOp) : Decidable (s.Spares evt ops) := by
  unfold Dispatch.Spares
  infer_instance

/-- A pass with a callback that spares the next node. -/
def Dispatch.SparingStep (evt : ℕ) (s : Dispatch) (ops : List DispOp) (s' : Dispatch) : Prop :=
  s.Spares evt ops ∧ s.visit evt ops = some s'

/-! ## The list -/

/-- **A well-formed list** with the nodes `l`: the chain from `head` is `l`, which is in the order of
registration, and the nodes that are allocated are just those. -/
structure EvtDispatcher.Holds (d : EvtDispatcher) (l : List ℕ) : Prop where
  path : Path d.next d.head l
  sorted : l.Pairwise (· < ·)
  lt : ∀ a ∈ l, a < d.fresh
  alloc : ∀ a, (d.mem a).isSome ↔ a ∈ l

/-- What is registered stays what it was, or is deregistered. -/
structure EvtDispatcher.Later (d d' : EvtDispatcher) : Prop where
  fresh : d.fresh ≤ d'.fresh
  entry : ∀ a < d.fresh, d'.entry a = d.entry a ∨ d'.mem a = none

section List

variable {d d' d'' : EvtDispatcher} {l l' front rest : List ℕ} {a b tmp event obj param fuel : ℕ}
  {p prev : Option ℕ}

lemma EvtDispatcher.Holds.nodup (H : d.Holds l) : l.Nodup := H.sorted.imp Nat.ne_of_lt

lemma EvtDispatcher.Holds.some_of_mem (H : d.Holds l) (ha : a ∈ l) : ∃ n, d.mem a = some n :=
  Option.isSome_iff_exists.mp ((H.alloc a).mpr ha)

lemma EvtDispatcher.Holds.none_of_not_mem (H : d.Holds l) (ha : a ∉ l) : d.mem a = none := by
  rw [← Option.not_isSome_iff_eq_none, H.alloc]
  exact ha

/-- There are no more nodes than were made. -/
lemma EvtDispatcher.Holds.length_le (H : d.Holds l) : l.length ≤ d.fresh := by
  have hsub : l ⊆ List.range d.fresh := fun a ha => List.mem_range.mpr (H.lt a ha)
  simpa using (H.nodup.subperm hsub).length_le

lemma EvtDispatcher.nodesFrom_eq (h : Path d.next p l) (hfuel : l.length ≤ fuel) :
    d.nodesFrom fuel p = l := by
  induction l generalizing p fuel with
  | nil =>
      rw [path_nil.mp h]
      cases fuel <;> rfl
  | cons x l ih =>
      obtain ⟨rfl, h⟩ := h
      obtain ⟨fuel, rfl⟩ : ∃ n, fuel = n + 1 := ⟨fuel - 1, by simp at hfuel; omega⟩
      rw [nodesFrom, ih h (by simpa using hfuel)]

lemma EvtDispatcher.Holds.nodes_eq (H : d.Holds l) : d.nodes = l :=
  nodesFrom_eq H.path H.length_le

lemma EvtDispatcher.lastFrom_eq (h : Path d.next (some a) l) (hfuel : l.length ≤ fuel + 1) :
    some (d.lastFrom fuel a) = l.getLast? := by
  induction fuel generalizing a l with
  | zero =>
      cases l with
      | nil => exact absurd h (by simp)
      | cons x l =>
          obtain rfl : l = [] := by simpa using hfuel
          simpa [lastFrom] using h.1
  | succ fuel ih =>
      cases l with
      | nil => exact absurd h (by simp)
      | cons x l =>
          obtain ⟨hx, h⟩ := h
          obtain rfl : a = x := Option.some.inj hx
          rw [lastFrom]
          cases hn : d.next a with
          | none => simp [(h.eq_nil_iff).mpr hn]
          | some b =>
              rw [hn] at h
              cases l with
              | nil => exact absurd h (by simp)
              | cons y l =>
                  rw [List.getLast?_cons_cons]
                  exact ih h (by simpa using hfuel)

@[simp] lemma EvtDispatcher.setNext_next_self (h : (d.mem a).isSome) :
    (d.setNext a p).next a = p := by
  obtain ⟨n, hn⟩ := Option.isSome_iff_exists.mp h
  simp [setNext, next, hn]

lemma EvtDispatcher.setNext_mem_of_ne (h : b ≠ a) : (d.setNext a p).mem b = d.mem b := by
  simp [setNext, h]

lemma EvtDispatcher.setNext_next_of_ne (h : b ≠ a) : (d.setNext a p).next b = d.next b := by
  rw [next, setNext_mem_of_ne h, next]

lemma EvtDispatcher.setNext_entry : (d.setNext a p).entry b = d.entry b := by
  by_cases h : b = a
  · rw [h]
    cases hn : d.mem a <;> simp [entry, setNext, hn]
  · rw [entry, setNext_mem_of_ne h, entry]

lemma EvtDispatcher.isSome_entry : (d.entry a).isSome = (d.mem a).isSome := by simp [entry]

lemma EvtDispatcher.Later.refl : d.Later d := ⟨le_rfl, fun _ _ => Or.inl rfl⟩

lemma EvtDispatcher.Later.trans (h : d.Later d') (h' : d'.Later d'') : d.Later d'' := by
  refine ⟨h.fresh.trans h'.fresh, fun a ha => ?_⟩
  rcases h'.entry a (ha.trans_le h.fresh) with he | he
  · rcases h.entry a ha with he' | he'
    · exact Or.inl (he.trans he')
    · right
      rw [← Option.not_isSome_iff_eq_none, ← isSome_entry, he, isSome_entry, he']
      simp
  · exact Or.inr he

/-- **`registr` appends a node.** -/
theorem EvtDispatcher.Holds.registr (event obj : ℕ) (H : d.Holds l) :
    (d.registr event obj).Holds (l ++ [d.fresh]) ∧ d.Later (d.registr event obj) ∧
      (d.registr event obj).fresh = d.fresh + 1 := by
  have hnew : d.fresh ∉ l := fun h => lt_irrefl _ (H.lt _ h)
  set d₁ : EvtDispatcher := { d with
    mem := Function.update d.mem d.fresh (some { event, obj, next := none })
    fresh := d.fresh + 1 } with hd₁
  have hmem : ∀ b, b ≠ d.fresh → d₁.mem b = d.mem b := fun b hb => Function.update_of_ne hb _ _
  have hself : d₁.mem d.fresh = some { event, obj, next := none } := Function.update_self ..
  have hne : ∀ b ∈ l, b ≠ d.fresh := fun b hb e => hnew (e ▸ hb)
  have hpath₁ : Path d₁.next d.head l :=
    H.path.congr fun b hb => by rw [next, hmem b (hne b hb), next]
  have hsorted : (l ++ [d.fresh]).Pairwise (· < ·) :=
    List.pairwise_append.mpr ⟨H.sorted, by simp, fun a ha b hb => by
      rw [List.mem_singleton.mp hb]
      exact H.lt a ha⟩
  have hlt : ∀ a ∈ l ++ [d.fresh], a < d.fresh + 1 := fun a ha => by
    rcases List.mem_append.mp ha with ha | ha
    · exact Nat.lt_succ_of_lt (H.lt a ha)
    · rw [List.mem_singleton.mp ha]
      exact Nat.lt_succ_self _
  have halloc : ∀ a, (d₁.mem a).isSome ↔ a ∈ l ++ [d.fresh] := fun a => by
    rw [List.mem_append, List.mem_singleton]
    by_cases ha : a = d.fresh
    · rw [ha, hself]
      simp
    · rw [hmem a ha, H.alloc]
      simp [ha]
  have hend : d₁.next d.fresh = none := by rw [next, hself]; rfl
  cases hhead : d.head with
  | none =>
      obtain rfl : l = [] := H.path.eq_nil_iff.mpr hhead
      have heq : d.registr event obj = { d₁ with head := some d.fresh } := by
        unfold EvtDispatcher.registr
        split
        · rfl
        · simp_all
      rw [heq]
      exact ⟨⟨⟨rfl, hend⟩, hsorted, hlt, halloc⟩, ⟨Nat.le_succ _, fun a ha =>
        Or.inl (by rw [entry, entry, ← hmem a ha.ne])⟩, rfl⟩
  | some tmp =>
      have hfuel : l.length ≤ d.fresh + 1 := H.length_le.trans (Nat.le_succ _)
      have hlast := lastFrom_eq (hhead ▸ hpath₁) hfuel
      set last := d₁.lastFrom d.fresh tmp with hlast_def
      have heq : d.registr event obj = d₁.setNext last (some d.fresh) := by
        unfold EvtDispatcher.registr
        split
        · simp_all
        · rename_i tmp' htmp
          obtain rfl : tmp = tmp' := Option.some.inj (hhead.symm.trans htmp)
          rfl
      have hlmem : last ∈ l := List.mem_of_getLast? hlast.symm
      rw [heq]
      refine ⟨⟨?_, hsorted, hlt, fun a => ?_⟩, ⟨Nat.le_succ _, fun a ha => Or.inl ?_⟩, rfl⟩
      · have hp := Path.snoc (d₁.setNext last (some d.fresh)).next d.fresh hpath₁
          H.nodup ?_ (fun y hy => ?_) fun y hy hy' => ?_
        · rw [hhead] at hp
          change Path _ d.head _
          rwa [hhead]
        · rw [setNext_next_of_ne (hne _ hlmem).symm, hend]
        · obtain rfl : last = y := Option.some.inj (hlast.trans hy)
          exact setNext_next_self ((halloc last).mpr (by simp [hlmem]))
        · refine setNext_next_of_ne ?_
          rintro rfl
          exact hy' hlast.symm
      · rw [← isSome_entry, setNext_entry, isSome_entry]
        exact halloc a
      · rw [setNext_entry, entry, entry, ← hmem a ha.ne]

/-- Taking a node out of the list, behind the nodes `front`. -/
lemma EvtDispatcher.Holds.drop (H : d.Holds (front ++ tmp :: rest))
    (hprev : front ≠ [] → prev = front.getLast?) :
    ((d.unlink prev tmp).free tmp).Holds (front ++ rest) ∧
      d.Later ((d.unlink prev tmp).free tmp) ∧ (d.unlink prev tmp).next tmp = d.next tmp ∧
      (d.unlink prev tmp).fresh = d.fresh := by
  have hnot : tmp ∉ front ++ rest := by
    have := H.nodup
    rw [List.nodup_middle, List.nodup_cons] at this
    exact this.1
  have hfree : ∀ {e : EvtDispatcher} {b}, b ≠ tmp → (e.free tmp).mem b = e.mem b :=
    fun hb => Function.update_of_ne hb _ _
  have hne : ∀ b ∈ front ++ rest, b ≠ tmp := fun b hb e => hnot (e ▸ hb)
  -- whichever pointer is written, the entries stay
  have hcommon : ∀ e : EvtDispatcher, e.fresh = d.fresh → (∀ b, e.entry b = d.entry b) →
      e.head = (if front = [] then d.next tmp else d.head) →
      (∀ y ∈ front.getLast?, e.next y = d.next tmp) →
      (∀ y ∈ front ++ rest, y ∉ front.getLast? → e.next y = d.next y) →
      (e.free tmp).Holds (front ++ rest) ∧ d.Later (e.free tmp) := by
    intro e hfresh hentry hhead hlast hn
    have hnext : ∀ b ∈ front ++ rest, (e.free tmp).next b = e.next b := fun b hb => by
      rw [next, hfree (hne b hb), next]
    refine ⟨⟨?_, ?_, fun a ha => ?_, fun a => ?_⟩, ⟨hfresh.ge, fun a ha => ?_⟩⟩
    · have hd := H.nodup
      exact H.path.unlink hd hhead
        (fun y hy => (hnext y (by simp [List.mem_of_getLast? hy])).trans (hlast y hy))
        fun y hy hy' => (hnext y hy).trans (hn y hy hy')
    · exact H.sorted.sublist (by simp)
    · change a < e.fresh
      rw [hfresh]
      exact H.lt a (by simp at ha ⊢; tauto)
    · by_cases ha : a = tmp
      · rw [ha]
        simp only [free, Function.update_self, Option.isSome_none, Bool.false_eq_true, false_iff]
        exact hnot
      · rw [hfree ha, ← isSome_entry, hentry, isSome_entry, H.alloc]
        simp [ha]
    · by_cases ha' : a = tmp
      · exact Or.inr (by rw [ha']; exact Function.update_self ..)
      · exact Or.inl (by rw [entry, hfree ha', ← entry, hentry])
  cases front with
  | nil =>
      have hu : d.unlink prev tmp = { d with head := d.next tmp } := by
        unfold EvtDispatcher.unlink
        rw [if_pos H.path.1.symm]
      rw [hu]
      obtain ⟨h1, h2⟩ := hcommon { d with head := d.next tmp } rfl (fun _ => rfl) (by simp) (by simp)
        fun _ _ _ => rfl
      exact ⟨h1, h2, rfl, rfl⟩
  | cons x front =>
      have hlast := List.getLast?_eq_some_getLast (List.cons_ne_nil x front)
      set b := (x :: front).getLast (List.cons_ne_nil x front)
      have hb : b ∈ x :: front := List.mem_of_getLast? hlast
      have hbtmp : b ≠ tmp := hne b (List.mem_append_left _ hb)
      have hhead : ¬ some tmp = d.head := by
        rw [H.path.1]
        intro e
        exact hne x (by simp) (Option.some.inj e).symm
      have hu : d.unlink prev tmp = d.setNext b (d.next tmp) := by
        unfold EvtDispatcher.unlink
        rw [if_neg hhead, hprev (List.cons_ne_nil x front), hlast]
        by_cases h : d.next tmp = none <;> simp [h]
      rw [hu]
      have hself : ∀ y ∈ (x :: front).getLast?, (d.setNext b (d.next tmp)).next y = d.next tmp :=
        fun y hy => by
          obtain rfl : b = y := Option.some.inj (hlast.symm.trans hy)
          exact setNext_next_self ((H.alloc b).mpr (List.mem_append_left _ hb))
      have hother : ∀ y ∈ x :: front ++ rest, y ∉ (x :: front).getLast? →
          (d.setNext b (d.next tmp)).next y = d.next y := fun y _ hy => by
        refine setNext_next_of_ne ?_
        rintro rfl
        exact hy hlast
      obtain ⟨h1, h2⟩ := hcommon (d.setNext b (d.next tmp)) rfl (fun _ => setNext_entry)
        (by simp [setNext]) hself hother
      exact ⟨h1, h2, setNext_next_of_ne hbtmp.symm, rfl⟩

lemma EvtDispatcher.Later.entry_eq (h : d.Later d') (ha : a < d.fresh) (hsome : (d'.mem a).isSome) :
    d'.entry a = d.entry a := by
  rcases h.entry a ha with he | he
  · exact he
  · rw [he] at hsome
    simp at hsome

/-- The owner of a node. -/
def EvtDispatcher.owner (d : EvtDispatcher) (a : ℕ) : Option ℕ := (d.mem a).map CmdEvts.obj

lemma EvtDispatcher.owner_eq : d.owner a = (d.entry a).map Prod.snd := by
  rw [owner, entry, Option.map_map]
  rfl

/-- The loop of `deregistr` behind the nodes `front`, none of which it takes out any more. -/
lemma EvtDispatcher.Holds.deregistrFrom (front : List ℕ) (prev : Option ℕ)
    (param : ℕ) (H : d.Holds (front ++ rest)) (hprev : front ≠ [] → prev = front.getLast?) (hfuel : rest.length ≤ fuel) :
    (deregistrFrom param fuel d prev rest.head?).Holds
        (front ++ rest.filter fun a => d.owner a ≠ some param) ∧
      d.Later (EvtDispatcher.deregistrFrom param fuel d prev rest.head?) ∧
      (EvtDispatcher.deregistrFrom param fuel d prev rest.head?).fresh = d.fresh := by
  induction rest generalizing d front prev fuel with
  | nil =>
      have hend : EvtDispatcher.deregistrFrom param fuel d prev none = d := by
        cases fuel <;> rfl
      rw [List.head?_nil, hend]
      exact ⟨H, .refl, rfl⟩
  | cons tmp rest ih =>
      obtain ⟨fuel, rfl⟩ : ∃ n, fuel = n + 1 := ⟨fuel - 1, by simp at hfuel; omega⟩
      have hfuel' : rest.length ≤ fuel := by simpa using hfuel
      have hhead : d.next tmp = rest.head? := by
        cases rest with
        | nil => exact H.path.next_last
        | cons y rest => exact H.path.back.1
      rw [List.head?_cons, EvtDispatcher.deregistrFrom]
      by_cases hobj : (d.mem tmp).map CmdEvts.obj = some param
      · obtain ⟨H', hlater, hnext, hfresh⟩ := H.drop hprev
        rw [if_pos hobj]
        simp only [hnext, hhead]
        obtain ⟨h1, h2, h3⟩ := ih front prev H' hprev hfuel'
        refine ⟨?_, hlater.trans h2, h3.trans hfresh⟩
        have hsame : rest.filter (fun a => d.owner a ≠ some param) =
            rest.filter fun a => ((d.unlink prev tmp).free tmp).owner a ≠ some param := by
          refine List.filter_congr fun a ha => ?_
          have hmem : a ∈ front ++ rest := List.mem_append_right _ ha
          rw [owner_eq, owner_eq, hlater.entry_eq (H.lt a (by simp [ha])) ((H'.alloc a).mpr hmem)]
        rw [List.filter_cons_of_neg (by simpa [owner] using hobj), hsame]
        exact h1
      · rw [if_neg hobj, hhead]
        have happ : front ++ tmp :: rest = (front ++ [tmp]) ++ rest := by simp
        obtain ⟨h1, h2, h3⟩ := ih (front ++ [tmp]) (some tmp) (happ ▸ H)
          (fun _ => by simp) hfuel'
        refine ⟨?_, h2, h3⟩
        rw [List.filter_cons_of_pos (by simpa [owner] using hobj)]
        simpa using h1

/-- **`deregistr` takes out the nodes of the listener**, and no others. -/
theorem EvtDispatcher.Holds.deregistr (param : ℕ) (H : d.Holds l) :
    (d.deregistr param).Holds (l.filter fun a => d.owner a ≠ some param) ∧
      d.Later (d.deregistr param) ∧ (d.deregistr param).fresh = d.fresh := by
  have hhead : d.head = l.head? := by
    cases l with
    | nil => exact H.path
    | cons x l => exact H.path.1
  have := EvtDispatcher.Holds.deregistrFrom [] d.head param H
    (fun h => absurd rfl h) H.length_le
  unfold EvtDispatcher.deregistr
  rw [hhead] at this ⊢
  exact this

/-- What a callback leaves of the nodes there were: those whose listener it does not deregister. -/
theorem EvtDispatcher.Holds.run (ops : List DispOp) (H : d.Holds l) :
    ∃ l', (ops.foldl DispOp.run d).Holds l' ∧ d.Later (ops.foldl DispOp.run d) ∧
      ∀ a ∈ l, a ∈ l' ↔ ∀ o ∈ d.owner a, DispOp.deregistr o ∉ ops := by
  induction ops generalizing d l with
  | nil => exact ⟨l, H, .refl, fun a ha => by simp [ha]⟩
  | cons op ops ih =>
      rw [List.foldl_cons]
      cases op with
      | registr event obj =>
          obtain ⟨H', hlater, hfresh⟩ := H.registr event obj
          obtain ⟨l', h1, h2, h3⟩ := ih H'
          refine ⟨l', h1, hlater.trans h2, fun a ha => ?_⟩
          have hmem : a ∈ l ++ [d.fresh] := List.mem_append_left _ ha
          have hown : (d.registr event obj).owner a = d.owner a := by
            rw [owner_eq, owner_eq, hlater.entry_eq (H.lt a ha) ((H'.alloc a).mpr hmem)]
          rw [h3 a hmem, hown]
          simp
      | deregistr param =>
          obtain ⟨H', hlater, hfresh⟩ := H.deregistr param
          obtain ⟨l', h1, h2, h3⟩ := ih H'
          refine ⟨l', h1, hlater.trans h2, fun a ha => ?_⟩
          obtain ⟨n, hn⟩ := H.some_of_mem ha
          have hown : d.owner a = some n.obj := by simp [owner, hn]
          by_cases hobj : n.obj = param
          · -- taken out now, and what was freed stays freed
            have hgone : a ∉ l.filter fun a => d.owner a ≠ some param := by simp [hown, hobj]
            have hnot : a ∉ l' := fun hmem => by
              have hsome := (h1.alloc a).mpr hmem
              have he := h2.entry_eq (hlater.fresh.trans_lt' (H.lt a ha)) hsome
              rw [← isSome_entry, he, isSome_entry, H'.none_of_not_mem hgone] at hsome
              simp at hsome
            simp [hnot, hown, hobj]
          · have hmem : a ∈ l.filter fun a => d.owner a ≠ some param := by simp [ha, hown, hobj]
            have hown' : (d.deregistr param).owner a = some n.obj := by
              rw [← hown, owner_eq, owner_eq, hlater.entry_eq (H.lt a ha) ((H'.alloc a).mpr hmem)]
            change a ∈ l' ↔ _
            rw [h3 a hmem, hown', hown]
            simp [hobj]

end List

/-! ## The walk -/

/-- **What holds between the passes** of a dispatch that started with the list `d₀`: the nodes called
so far are in order and in front of the next one, and among the nodes of the start that are in front
of the next one and still there, all that are registered for the event were called. -/
structure Dispatch.Ok (evt : ℕ) (d₀ : EvtDispatcher) (s : Dispatch) (l : List ℕ) : Prop where
  holds : s.d.Holds l
  later : d₀.Later s.d
  tmp : ∀ t ∈ s.tmp, t ∈ l
  sorted : s.calls.Pairwise (· < ·)
  front : ∀ a ∈ s.calls, ∀ t ∈ s.tmp, a < t
  event : ∀ a ∈ s.calls, a < d₀.fresh → (d₀.mem a).map CmdEvts.event = some evt
  done : ∀ a ∈ l, a < d₀.fresh → (d₀.mem a).map CmdEvts.event = some evt →
    (∀ t ∈ s.tmp, a < t) → a ∈ s.calls

section Walk

variable {d₀ : EvtDispatcher} {s s' : Dispatch} {l : List ℕ} {evt : ℕ} {ops : List DispOp}

lemma EvtDispatcher.event_eq {d : EvtDispatcher} {a : ℕ} :
    (d.mem a).map CmdEvts.event = (d.entry a).map Prod.fst := by
  rw [entry, Option.map_map]
  rfl

lemma Dispatch.Ok.start (H : d₀.Holds l) : (Dispatch.start d₀).Ok evt d₀ l := by
  have hhead : ∀ t ∈ d₀.head, t ∈ l ∧ ∀ a ∈ l, t ≤ a := fun t ht => by
    cases l with
    | nil => simp [path_nil.mp H.path] at ht
    | cons x l =>
        obtain rfl : x = t := Option.some.inj (H.path.1.symm.trans ht)
        exact ⟨by simp, List.forall_mem_cons.mpr
          ⟨le_rfl, fun a ha => (List.rel_of_pairwise_cons H.sorted ha).le⟩⟩
  refine ⟨H, .refl, fun t ht => (hhead t ht).1, .nil, by simp [Dispatch.start],
    by simp [Dispatch.start], fun a ha _ _ hlt => ?_⟩
  cases hd : d₀.head with
  | none => simp [H.path.eq_nil_iff.mpr hd] at ha
  | some t => exact absurd (hlt t hd) (not_lt.mpr ((hhead t hd).2 a ha))

/-- The node behind a node of the list, with nothing in between. -/
lemma EvtDispatcher.Holds.next_node {d : EvtDispatcher} {t : ℕ} (H : d.Holds l) (ht : t ∈ l) :
    (∀ u ∈ d.next t, u ∈ l ∧ t < u) ∧ ∀ a ∈ l, (∀ u ∈ d.next t, a < u) → a ≤ t := by
  obtain ⟨front, rest, rfl⟩ := List.append_of_mem ht
  have hback := H.path.back
  obtain ⟨-, hsorted, hfront⟩ := List.pairwise_append.mp H.sorted
  refine ⟨fun u hu => ?_, fun a ha hlt => ?_⟩
  · cases rest with
    | nil => simp [path_nil.mp hback] at hu
    | cons y rest =>
        obtain rfl : y = u := Option.some.inj (hback.1.symm.trans hu)
        exact ⟨by simp, List.rel_of_pairwise_cons hsorted (by simp)⟩
  · rcases List.mem_append.mp ha with ha | ha
    · exact (hfront a ha t (by simp)).le
    · rcases List.mem_cons.mp ha with rfl | ha
      · exact le_rfl
      · cases rest with
        | nil => simp at ha
        | cons y rest =>
            have hay := hlt y hback.1
            rcases List.mem_cons.mp ha with rfl | ha
            · exact absurd hay (lt_irrefl _)
            · have := List.rel_of_pairwise_cons (List.pairwise_cons.mp hsorted).2 ha
              exact absurd hay (not_lt.mpr (le_of_lt this))

/-- **One pass.**  The next node was not freed exactly when the callback spared it, and then the
invariant holds again. -/
theorem Dispatch.Ok.visit (H : s.Ok evt d₀ l) (h : s.visit evt ops = some s') :
    (s'.Safe ↔ s.Spares evt ops) ∧ (s.Spares evt ops → ∃ l', s'.Ok evt d₀ l') := by
  obtain ⟨t, ht, hs⟩ := Option.bind_eq_some_iff.mp h
  obtain ⟨n, hn, hs'⟩ := Option.map_eq_some_iff.mp hs
  have htl : t ∈ l := H.tmp t ht
  have hnext : s.d.next t = n.next := by rw [EvtDispatcher.next, hn]; rfl
  obtain ⟨hu, hlast⟩ := H.holds.next_node htl
  rw [hnext] at hu hlast
  by_cases hevt : n.event = evt
  · rw [if_pos hevt] at hs'
    obtain ⟨l', hl', hlater, halive⟩ := H.holds.run ops
    -- the next node is freed when its owner is deregistered
    have hspare : s.Spares evt ops ↔ ∀ u ∈ n.next, u ∈ l' := by
      constructor
      · intro hsp u hmem
        refine (halive u (hu u hmem).1).mpr fun o ho => ?_
        obtain ⟨m, hm, rfl⟩ := Option.map_eq_some_iff.mp ho
        exact hsp t ht n hn hevt u hmem m hm
      · intro hall t' ht' n' hn' _ u hmem m hm
        obtain rfl : t = t' := Option.some.inj (ht.symm.trans ht')
        obtain rfl : n = n' := Option.some.inj (hn.symm.trans hn')
        refine (halive u (hu u hmem).1).mp (hall u hmem) m.obj ?_
        rw [EvtDispatcher.owner, Option.mem_def.mp hm]
        rfl
    subst hs'
    refine ⟨?_, fun hsp => ⟨l', hl', H.later.trans hlater, hspare.mp hsp, ?_, ?_, ?_, ?_⟩⟩
    · rw [hspare]
      exact forall₂_congr fun u _ => hl'.alloc u
    · refine List.pairwise_append.mpr ⟨H.sorted, by simp, fun a ha b hb => ?_⟩
      rw [List.mem_singleton.mp hb]
      exact H.front a ha t ht
    · intro a ha u hmem
      rcases List.mem_append.mp ha with ha | ha
      · exact (H.front a ha t ht).trans (hu u hmem).2
      · rw [List.mem_singleton.mp ha]
        exact (hu u hmem).2
    · intro a ha hlt
      rcases List.mem_append.mp ha with ha | ha
      · exact H.event a ha hlt
      · obtain rfl := List.mem_singleton.mp ha
        have hsome : (s.d.mem a).isSome := by rw [hn]; rfl
        rw [EvtDispatcher.event_eq, ← H.later.entry_eq hlt hsome, ← EvtDispatcher.event_eq, hn]
        exact congrArg some hevt
    · intro a ha hlt hreg hbefore
      -- a node of the start that is there now was there before the callback
      have hmem : a ∈ l := by
        rw [← H.holds.alloc, ← EvtDispatcher.isSome_entry,
          ← hlater.entry_eq (hlt.trans_le H.later.fresh) ((hl'.alloc a).mpr ha),
          EvtDispatcher.isSome_entry]
        exact (hl'.alloc a).mpr ha
      rw [List.mem_append, List.mem_singleton]
      rcases (hlast a hmem hbefore).lt_or_eq with hat | hat
      · refine Or.inl (H.done a hmem hlt hreg fun t' ht' => ?_)
        rwa [← Option.some.inj (ht.symm.trans ht')]
      · exact Or.inr hat
  · rw [if_neg hevt] at hs'
    have hsp : s.Spares evt ops := fun t' ht' n' hn' he => by
      obtain rfl : t = t' := Option.some.inj (ht.symm.trans ht')
      obtain rfl : n = n' := Option.some.inj (hn.symm.trans hn')
      exact absurd he hevt
    subst hs'
    refine ⟨iff_of_true (fun u hmem => (H.holds.alloc u).mpr (hu u hmem).1) hsp, fun _ =>
      ⟨l, H.holds, H.later, fun u hmem => (hu u hmem).1, H.sorted,
        fun a ha u hmem => (H.front a ha t ht).trans (hu u hmem).2, H.event,
        fun a ha hlt hreg hbefore => ?_⟩⟩
    rcases (hlast a ha hbefore).lt_or_eq with hat | rfl
    · refine H.done a ha hlt hreg fun t' ht' => ?_
      rwa [← Option.some.inj (ht.symm.trans ht')]
    · -- the node that was looked at is registered for another event
      have hsome : (s.d.mem a).isSome := by rw [hn]; rfl
      rw [EvtDispatcher.event_eq, ← H.later.entry_eq hlt hsome, ← EvtDispatcher.event_eq, hn] at hreg
      exact absurd (Option.some.inj hreg) hevt

end Walk

lemma EvtDispatcher.holds_init : EvtDispatcher.Holds {} [] :=
  ⟨rfl, .nil, by simp, by simp⟩

/-- **Dispatching is safe as long as each callback spares the next node**, and just so long.  The
listeners that were registered for the event at the start and are so at the end are called once
each and in the order of registration; and at any time `deregistr` takes out the registrations of
its listener and leaves the others in their order. -/
theorem dispatch_safe {evt : ℕ} {built : List DispOp} {d₀ : EvtDispatcher}
    {callbacks : List (List DispOp)} {s : Dispatch} (h0 : built.foldl DispOp.run {} = d₀)
    (hr : Run (Dispatch.SparingStep evt) (Dispatch.start d₀) callbacks s) :
    s.Safe ∧ (∀ ops s', s.visit evt ops = some s' → (s'.Safe ↔ s.Spares evt ops)) ∧
      s.calls.Nodup ∧
      (s.tmp = none → (s.calls.filter fun a => a ∈ d₀.nodes ∧ a ∈ s.d.nodes) =
        d₀.nodes.filter fun a =>
          (d₀.mem a).map CmdEvts.event = some evt ∧ a ∈ s.d.nodes) ∧
      ∀ param, (s.d.deregistr param).nodes =
          (s.d.nodes.filter fun a => s.d.owner a ≠ some param) ∧
        ∀ a ∈ (s.d.deregistr param).nodes, (s.d.deregistr param).entry a = s.d.entry a := by
  obtain ⟨l₀, H₀, -⟩ := EvtDispatcher.holds_init.run built
  rw [h0] at H₀
  obtain ⟨l, H⟩ := hr.invariant (P := fun s => ∃ l, Dispatch.Ok evt d₀ s l)
    (fun _ _ _ ⟨_, h⟩ hst => (h.visit hst.2).2 hst.1) ⟨l₀, .start H₀⟩
  refine ⟨fun t ht => (H.holds.alloc t).mpr (H.tmp t ht), fun ops s' h => (H.visit h).1,
    H.sorted.imp Nat.ne_of_lt, fun hnone => ?_, fun param => ?_⟩
  · rw [H₀.nodes_eq, H.holds.nodes_eq]
    refine (H.sorted.filter _).eq_of_mem_iff (H₀.sorted.filter _) fun a => ?_
    simp only [List.mem_filter, decide_eq_true_eq]
    constructor
    · rintro ⟨hcall, h₀, hl⟩
      exact ⟨h₀, H.event a hcall (H₀.lt a h₀), hl⟩
    · rintro ⟨h₀, hreg, hl⟩
      exact ⟨H.done a hl (H₀.lt a h₀) hreg (by simp [hnone]), h₀, hl⟩
  · obtain ⟨h1, h2, -⟩ := H.holds.deregistr param
    rw [h1.nodes_eq, H.holds.nodes_eq]
    refine ⟨rfl, fun a ha => h2.entry_eq (H.holds.lt a (List.mem_of_mem_filter ha)) ?_⟩
    exact (h1.alloc a).mpr ha

/-- Listener 1 is registered for events 5 and 6, and listener 2 for event 5. -/
def twoListeners : EvtDispatcher :=
  [DispOp.registr 5 1, .registr 6 1, .registr 5 2].foldl DispOp.run {}

/-- Listener 2 is taken out from behind, which does no harm. -/
theorem dispatch_safe_two : ∃ s, Run (Dispatch.SparingStep 5) (Dispatch.start twoListeners)
    [[.deregistr 2], []] s ∧ s.Safe := by
  have hr : Run (Dispatch.SparingStep 5) (Dispatch.start twoListeners) [[.deregistr 2], []] _ :=
    .cons ⟨by decide, rfl⟩ (.cons ⟨by decide, rfl⟩ (.nil _))
  exact ⟨_, hr, (dispatch_safe rfl hr).1⟩

/-- A listener that deregisters itself in its callback takes the next node with it, and the loop
goes on there. -/
theorem dispatch_unsafe : ∃ s, (Dispatch.start twoListeners).visit 5 [.deregistr 1] = some s ∧
    ¬ s.Safe := by
  refine ⟨_, rfl, ?_⟩
  decide

/-! ## What is registered -/

/-- **The registrations of the list**, in order. -/
def EvtDispatcher.Lists (d : EvtDispatcher) (R : List (ℕ × ℕ)) : Prop :=
  ∃ l, d.Holds l ∧ l.map d.entry = R.map some

section Lists

variable {d : EvtDispatcher} {R : List (ℕ × ℕ)} {l : List ℕ} {a event obj : ℕ}

lemma EvtDispatcher.lists_init : EvtDispatcher.Lists {} [] := ⟨[], holds_init, rfl⟩

lemma EvtDispatcher.registr_entry : (d.registr event obj).entry d.fresh = some (event, obj) := by
  unfold EvtDispatcher.registr
  cases d.head with
  | none => simp [entry]
  | some tmp => rw [setNext_entry]; simp [entry]

/-- A registration comes behind the others. -/
lemma EvtDispatcher.Lists.registr (event obj : ℕ) (H : d.Lists R) :
    (d.registr event obj).Lists (R ++ [(event, obj)]) := by
  obtain ⟨l, H, hl⟩ := H
  obtain ⟨H', hlater, -⟩ := H.registr event obj
  refine ⟨_, H', ?_⟩
  have hold : l.map (d.registr event obj).entry = l.map d.entry := by
    refine List.map_congr_left fun a ha => hlater.entry_eq (H.lt a ha) ?_
    exact (H'.alloc a).mpr (List.mem_append_left _ ha)
  rw [List.map_append, hold, hl]
  simp [registr_entry]

lemma EvtDispatcher.owner_of_entry (h : d.entry a = some (event, obj)) : d.owner a = some obj := by
  rw [owner_eq, h]
  rfl

/-- Of a list of nodes those of one listener are left out, and so are their registrations. -/
lemma EvtDispatcher.map_entry_filter (param : ℕ) (h : l.map d.entry = R.map some) :
    (l.filter fun a => d.owner a ≠ some param).map d.entry =
      (R.filter fun r => r.2 ≠ param).map some := by
  induction R generalizing l with
  | nil =>
      obtain rfl : l = [] := by simpa using h
      rfl
  | cons r R ih =>
      cases l with
      | nil => simp at h
      | cons a l =>
          simp only [List.map_cons, List.cons.injEq] at h
          have hown : d.owner a = some r.2 := owner_of_entry h.1
          rw [List.filter_cons, List.filter_cons, hown]
          by_cases hr : r.2 = param
          · simpa [hr] using ih h.2
          · simpa [hr, h.1] using ih h.2

/-- The registrations of a listener are taken out. -/
lemma EvtDispatcher.Lists.deregistr (param : ℕ) (H : d.Lists R) :
    (d.deregistr param).Lists (R.filter fun r => r.2 ≠ param) := by
  obtain ⟨l, H, hl⟩ := H
  obtain ⟨H', hlater, -⟩ := H.deregistr param
  refine ⟨_, H', ?_⟩
  rw [← map_entry_filter param hl]
  refine List.map_congr_left fun a ha => ?_
  exact hlater.entry_eq (H.lt a (List.mem_of_mem_filter ha)) ((H'.alloc a).mpr ha)

/-- A listener that owns a node is one of those that are registered. -/
lemma EvtDispatcher.Lists.owner_mem (H : d.Lists R) (ha : a ∈ d.nodes) (ho : d.owner a = some obj) :
    ∃ event, (event, obj) ∈ R := by
  obtain ⟨l, H, hl⟩ := H
  rw [H.nodes_eq] at ha
  obtain ⟨r, hr, he⟩ : ∃ r ∈ R, some r = d.entry a := by
    have := List.mem_map_of_mem (f := d.entry) ha
    rwa [hl, List.mem_map] at this
  rw [owner_eq, ← he] at ho
  obtain rfl : r.2 = obj := Option.some.inj ho
  exact ⟨r.1, hr⟩

end Lists

end Ipacm
