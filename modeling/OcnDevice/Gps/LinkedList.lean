import OcnDevice.Core.Run
import OcnDevice.Core.SingleChain

/-!
# The linked list

A list is kept as elements with links both ways: `linked_list_add` puts a new one in front, so that
`linked_list_remove`, which takes the one at the tail, takes the oldest; `linked_list_search` goes
from the newest on, and may take out what it finds; and `linked_list_flush` takes out all.

The elements are in a heap, of which an address is used or not; a step fails where it follows a
pointer to an address that is not in use.  The state keeps a history: which objects were added, and
those whose elements were freed.

`Rep` says which elements are on the list.  An element is taken out in two ways, by
`linked_list_remove` at the tail and by `linked_list_search` anywhere; what both do to the heap is
`Unlinked`, and `Rep.unlinked` is what comes of it.
-/

namespace Gps.LinkedList

/-- `linked_list_err_type`. -/
inductive LinkedListErr
  | success
  | failureGeneral
  | invalidParameter
  | invalidHandle
  | unavailableResource
  | insufficientBuffer
  deriving DecidableEq, Repr

/-- An object, and the function that releases it. -/
structure Obj where
  dataPtr : ℕ
  deallocFunc : Option ℕ
  deriving DecidableEq, Repr

/-- `list_element`. -/
structure ListElement extends Obj where
  next : Option ℕ
  prev : Option ℕ
  deriving DecidableEq, Repr

/-- `list_state`, with the heap and the history: the calls of the functions that release an object,
the objects that were added, and those whose element was freed. -/
structure ListState where
  pHead : Option ℕ := none
  pTail : Option ℕ := none
  heap : ℕ → Option ListElement := fun _ => none
  /-- How many elements there are. -/
  live : ℕ := 0
  calls : List (ℕ × ℕ) := []
  added : List Obj := []
  freed : List Obj := []

namespace ListState

/-! ## The heap -/

/-- A heap in which `next` of an element is written, if there is one. -/
def writeNext (p v : Option ℕ) (heap : ℕ → Option ListElement) (a : ℕ) : Option ListElement :=
  if p = some a then (heap a).map fun e => { e with next := v } else heap a

/-- A heap in which `prev` of an element is written. -/
def writePrev (p v : Option ℕ) (heap : ℕ → Option ListElement) (a : ℕ) : Option ListElement :=
  if p = some a then (heap a).map fun e => { e with prev := v } else heap a

/-- `p->next = v`. -/
def setNext (p v : Option ℕ) (s : ListState) : Option ListState :=
  if (p.bind s.heap).isSome then some { s with heap := writeNext p v s.heap } else none

/-- `p->prev = v`. -/
def setPrev (p v : Option ℕ) (s : ListState) : Option ListState :=
  if (p.bind s.heap).isSome then some { s with heap := writePrev p v s.heap } else none

/-- The link in front goes to `v`: it is `next` of the element there, or the head. -/
def setFront (p v : Option ℕ) (s : ListState) : Option ListState :=
  if p = none then some { s with pHead := v } else s.setNext p v

/-- The link behind goes to `v`: it is `prev` of the element there, or the tail. -/
def setBehind (p v : Option ℕ) (s : ListState) : Option ListState :=
  if p = none then some { s with pTail := v } else s.setPrev p v

/-- `malloc` has given an element, and it is filled. -/
def malloc (a : ℕ) (o : Obj) (s : ListState) : ListState :=
  { s with
    heap := Function.update s.heap a (some ⟨o, none, none⟩)
    live := s.live + 1
    added := s.added ++ [o] }

/-- `free`. -/
def free (a : ℕ) (s : ListState) : Option ListState :=
  (s.heap a).map fun e =>
    { s with
      heap := Function.update s.heap a none
      live := s.live - 1
      freed := s.freed ++ [e.toObj] }

/-- `dealloc_func` is called, if there is one. -/
def dealloc (o : Obj) (s : ListState) : ListState :=
  { s with
    calls :=
      match o.deallocFunc with
      | some f => s.calls ++ [(f, o.dataPtr)]
      | none => s.calls }

/-! ## The functions -/

/-- `linked_list_add`; `elem` is what `malloc` gives. -/
def linkedListAdd (elem dataObj deallocFunc : Option ℕ) (s : ListState) :
    Option (LinkedListErr × ListState) :=
  match dataObj, elem with
  | none, _ => some (.invalidParameter, s)
  | some _, none => some (.failureGeneral, s)
  | some d, some a => do
      let s := s.malloc a ⟨d, deallocFunc⟩
      let tmp := s.pHead
      let s := { s with pHead := some a }
      let s ← s.setNext s.pHead tmp
      let s ← s.setBehind tmp s.pHead
      return (.success, s)

/-- `linked_list_remove`, and what it copies to `data_obj`, which may be null. -/
def linkedListRemove (dataObj : Bool) (s : ListState) :
    Option (LinkedListErr × Option ℕ × ListState) :=
  if dataObj = false then some (.invalidParameter, none, s)
  else
    match s.pTail with
    | none => some (.unavailableResource, none, s)
    | some tmp => do
        let e ← s.heap tmp
        let s := { s with pTail := e.prev }
        let s ← s.setFront s.pTail none
        let e ← s.heap tmp
        let s ← s.free tmp
        return (.success, some e.dataPtr, s)

/-- `linked_list_empty`. -/
def linkedListEmpty (s : ListState) : Bool := s.pHead.isNone

/-- The loop of `linked_list_flush`; there are no more elements than `fuel`. -/
def flushLoop : ℕ → ListState → Option ListState
  | 0, s => if s.pHead = none then some s else none
  | fuel + 1, s =>
      match s.pHead with
      | none => some s
      | some a => do
          let e ← s.heap a
          let s ← (s.dealloc e.toObj).free a
          flushLoop fuel { s with pHead := e.next }

/-- `linked_list_flush`. -/
def linkedListFlush (s : ListState) : Option (LinkedListErr × ListState) :=
  (flushLoop s.live s).map fun s => (.success, { s with pTail := none })

/-- An element is taken out by `linked_list_search`; the object is released unless it is handed
out. -/
def takeOut (tmp : ℕ) (dataP : Bool) (s : ListState) : Option ListState := do
  let e ← s.heap tmp
  let s ← s.setFront e.prev e.next
  let e ← s.heap tmp
  let s ← s.setBehind e.next e.prev
  let s ← s.setNext (some tmp) none
  let s ← s.setPrev (some tmp) none
  let e ← s.heap tmp
  let s := if dataP then s else s.dealloc e.toObj
  s.free tmp

/-- The loop of `linked_list_search`: the object that is found. -/
def searchLoop (equal : ℕ → Bool) (dataP rmIfFound : Bool) :
    ℕ → Option ℕ → ListState → Option (Option ℕ × ListState)
  | _, none, s => some (none, s)
  | 0, some _, _ => none
  | fuel + 1, some tmp, s => do
      let e ← s.heap tmp
      if equal e.dataPtr then
        if rmIfFound then (s.takeOut tmp dataP).map fun s => (some e.dataPtr, s)
        else some (some e.dataPtr, s)
      else searchLoop equal dataP rmIfFound fuel e.next s

/-- `linked_list_search`, and what it copies to `data_p`, which may be null; `equal` is given
`data_0` already. -/
def linkedListSearch (dataP : Bool) (equal : Option (ℕ → Bool)) (rmIfFound : Bool) (s : ListState) :
    Option (LinkedListErr × Option ℕ × ListState) :=
  match equal, s.pTail with
  | none, _ => some (.invalidHandle, none, s)
  | some _, none => some (.unavailableResource, none, s)
  | some equal, some _ =>
      (searchLoop equal dataP rmIfFound s.live s.pHead s).map fun r =>
        (.success, if dataP then r.1 else none, r.2)

end ListState

/-! ## Sequences of calls -/

/-- A call, with what `malloc` gives. -/
inductive Call
  | add (elem dataObj deallocFunc : Option ℕ)
  | remove (dataObj : Bool)
  | search (dataP : Bool) (equal : Option (ℕ → Bool)) (rmIfFound : Bool)
  | flush

/-- What a call returns, the data it copies, and the state then. -/
def ListState.call (s : ListState) : Call → Option (LinkedListErr × Option ℕ × ListState)
  | .add elem dataObj deallocFunc =>
      (s.linkedListAdd elem dataObj deallocFunc).map fun r => (r.1, none, r.2)
  | .remove dataObj => s.linkedListRemove dataObj
  | .search dataP equal rmIfFound => s.linkedListSearch dataP equal rmIfFound
  | .flush => s.linkedListFlush.map fun r => (r.1, none, r.2)

/-- `malloc` gives an address that is not in use. -/
def Call.Legal (s : ListState) : Call → Prop
  | .add (some a) _ _ => s.heap a = none
  | _ => True

namespace ListState

/-- `next`, of an address. -/
def next (s : ListState) (a : ℕ) : Option ℕ := (s.heap a).bind ListElement.next

/-- `prev`, of an address. -/
def prev (s : ListState) (a : ℕ) : Option ℕ := (s.heap a).bind ListElement.prev

/-- The objects from an element on towards the head, which are at most so many. -/
def walkBack (s : ListState) : ℕ → Option ℕ → List Obj
  | 0, _ => []
  | fuel + 1, p =>
      match p.bind s.heap with
      | some e => e.toObj :: s.walkBack fuel e.prev
      | none => []

/-- The objects in the list, from the tail on. -/
def contents (s : ListState) : List Obj := s.walkBack s.live s.pTail

/-- **The list is consistent**: the head and the tail lead through the same elements, each of them
once; the links are inverse; no other elements are ends, and no others are in use. -/
structure Consistent (s : ListState) (l : List ℕ) : Prop where
  nodup : l.Nodup
  forth : Chain.Path s.next s.pHead l
  back : Chain.Path s.prev s.pTail l.reverse
  inverse : ∀ a ∈ l, ∀ b ∈ l, s.next a = some b ↔ s.prev b = some a
  first : ∀ a ∈ l, s.prev a = none ↔ s.pHead = some a
  last : ∀ a ∈ l, s.next a = none ↔ s.pTail = some a
  used : ∀ a, (s.heap a).isSome ↔ a ∈ l

/-- **The list holds what was added and not taken out**, in the order in which it was added. -/
structure Holds (s : ListState) : Prop where
  order : s.contents.Sublist s.added
  exact : (s.contents ++ s.freed).Perm s.added

end ListState

namespace ListState

variable {s s' : ListState} {l l₁ l₂ : List ℕ} {a b : ℕ} {e : ListElement} {o : Obj}

/-! ## The elements on the list -/

/-- The object of an address. -/
def obj (s : ListState) (a : ℕ) : Option Obj := (s.heap a).map ListElement.toObj

/-- The elements that are on the list, from the head on, and no others. -/
structure Rep (s : ListState) (l : List ℕ) : Prop where
  links : Chain.TwoWay s.next s.prev s.pHead s.pTail l
  used : ∀ a, (s.heap a).isSome ↔ a ∈ l
  live : s.live = l.length

lemma Rep.heap (h : s.Rep l) (ha : a ∈ l) : ∃ e, s.heap a = some e ∧ s.next a = e.next ∧
    s.prev a = e.prev ∧ s.obj a = some e.toObj := by
  obtain ⟨e, he⟩ := Option.isSome_iff_exists.mp ((h.used a).mpr ha)
  exact ⟨e, he, by rw [next, he]; rfl, by rw [prev, he]; rfl, by rw [obj, he]; rfl⟩

/-- The objects along the links to the head. -/
lemma walkBack_eq {p : Option ℕ} (hpath : Chain.Path s.prev p l)
    (hused : ∀ a ∈ l, (s.heap a).isSome) : s.walkBack l.length p = l.filterMap s.obj := by
  induction l generalizing p with
  | nil => rfl
  | cons a l ih =>
      obtain ⟨rfl, hpath⟩ := hpath
      obtain ⟨e, he⟩ := Option.isSome_iff_exists.mp (hused a List.mem_cons_self)
      have hprev : s.prev a = e.prev := by rw [prev, he]; rfl
      have hobj : s.obj a = some e.toObj := by rw [obj, he]; rfl
      rw [List.length_cons, walkBack, Option.bind_some, he, List.filterMap_cons, hobj]
      dsimp only
      rw [← hprev, ih hpath fun b hb => hused b (List.mem_cons_of_mem _ hb)]

/-- **The contents** are the objects of the elements, from the tail on. -/
lemma Rep.contents (h : s.Rep l) : s.contents = l.reverse.filterMap s.obj := by
  rw [ListState.contents, h.live, ← List.length_reverse]
  exact walkBack_eq h.links.back fun a ha => (h.used a).mpr (List.mem_reverse.mp ha)

/-! ## Writing links -/

section Links

variable {heap : ℕ → Option ListElement} {p v : Option ℕ}

@[simp] lemma writeNext_none : writeNext none v heap = heap := rfl

@[simp] lemma writePrev_none : writePrev none v heap = heap := rfl

@[simp] lemma prev_writeNext (y : ℕ) :
    (writeNext p v heap y).bind ListElement.prev = (heap y).bind ListElement.prev := by
  rw [writeNext]
  split_ifs <;> cases heap y <;> rfl

@[simp] lemma next_writePrev (y : ℕ) :
    (writePrev p v heap y).bind ListElement.next = (heap y).bind ListElement.next := by
  rw [writePrev]
  split_ifs <;> cases heap y <;> rfl

@[simp] lemma obj_writeNext (y : ℕ) :
    (writeNext p v heap y).map ListElement.toObj = (heap y).map ListElement.toObj := by
  rw [writeNext]
  split_ifs <;> cases heap y <;> rfl

@[simp] lemma obj_writePrev (y : ℕ) :
    (writePrev p v heap y).map ListElement.toObj = (heap y).map ListElement.toObj := by
  rw [writePrev]
  split_ifs <;> cases heap y <;> rfl

lemma next_writeNext {y : ℕ} (hy : p = some y → (heap y).isSome) :
    (writeNext p v heap y).bind ListElement.next =
      if p = some y then v else (heap y).bind ListElement.next := by
  rw [writeNext]
  split_ifs with hp
  · obtain ⟨e, he⟩ := Option.isSome_iff_exists.mp (hy hp)
    rw [he]
    rfl
  · rfl

lemma prev_writePrev {y : ℕ} (hy : p = some y → (heap y).isSome) :
    (writePrev p v heap y).bind ListElement.prev =
      if p = some y then v else (heap y).bind ListElement.prev := by
  rw [writePrev]
  split_ifs with hp
  · obtain ⟨e, he⟩ := Option.isSome_iff_exists.mp (hy hp)
    rw [he]
    rfl
  · rfl

lemma isSome_writeNext (y : ℕ) : (writeNext p v heap y).isSome = (heap y).isSome := by
  rw [writeNext]
  split_ifs <;> cases heap y <;> rfl

/-- The links of an element are cleared before it is freed. -/
lemma clear_eq (he : heap a = some e) :
    writePrev (some a) none (writeNext (some a) none heap) a = some ⟨e.toObj, none, none⟩ ∧
      Function.update (writePrev (some a) none (writeNext (some a) none heap)) a none =
        Function.update heap a none := by
  constructor
  · rw [writePrev, if_pos rfl, writeNext, if_pos rfl, he]
    rfl
  · funext y
    rcases eq_or_ne y a with rfl | hy
    · rw [Function.update_self, Function.update_self]
    · have hne : some a ≠ some y := fun h => hy (Option.some.inj h).symm
      rw [Function.update_of_ne hy, Function.update_of_ne hy, writePrev, if_neg hne, writeNext,
        if_neg hne]

lemma setNext_eq (ha : (s.heap a).isSome) :
    s.setNext (some a) v = some { s with heap := writeNext (some a) v s.heap } := if_pos ha

lemma setPrev_eq (ha : (s.heap a).isSome) :
    s.setPrev (some a) v = some { s with heap := writePrev (some a) v s.heap } := if_pos ha

lemma setFront_eq (hp : ∀ b, p = some b → (s.heap b).isSome) : s.setFront p v =
    some { s with pHead := if p = none then v else s.pHead, heap := writeNext p v s.heap } := by
  cases p with
  | none => rfl
  | some b => exact setNext_eq (hp b rfl)

lemma setBehind_eq (hp : ∀ b, p = some b → (s.heap b).isSome) : s.setBehind p v =
    some { s with pTail := if p = none then v else s.pTail, heap := writePrev p v s.heap } := by
  cases p with
  | none => rfl
  | some b => exact setPrev_eq (hp b rfl)

end Links

/-! ## Adding -/

/-- What is done to add an element with an object. -/
structure Pushed (s s' : ListState) (a : ℕ) (o : Obj) : Prop where
  head : s'.pHead = some a
  tail : s'.pTail = s.pTail.or (some a)
  heap : s'.heap a = some ⟨o, s.pHead, none⟩
  next : ∀ y ≠ a, s'.next y = s.next y
  prev : ∀ y ≠ a, s'.prev y = if s.pHead = some y then some a else s.prev y
  obj : ∀ y ≠ a, s'.obj y = s.obj y
  live : s'.live = s.live + 1
  added : s'.added = s.added ++ [o]
  freed : s'.freed = s.freed

/-- `linked_list_add` does it. -/
lemma Rep.add (h : s.Rep l) (hfree : s.heap a = none) (d : ℕ) (f : Option ℕ) :
    ∃ s', s.linkedListAdd (some a) (some d) f = some (.success, s') ∧ Pushed s s' a ⟨d, f⟩ := by
  have hused : ∀ b, s.pHead = some b → (s.heap b).isSome := fun b hb => by
    rw [h.used]
    rw [h.links.head_eq] at hb
    exact List.mem_of_mem_head? hb
  have hne : ∀ b, s.pHead = some b → b ≠ a := fun b hb he => by
    have hb' := hused b hb
    rw [he, hfree] at hb'
    cases hb'
  have hheap : writePrev s.pHead (some a) (writeNext (some a) s.pHead
      (Function.update s.heap a (some ⟨⟨d, f⟩, none, none⟩))) =
        Function.update (writePrev s.pHead (some a) s.heap) a (some ⟨⟨d, f⟩, s.pHead, none⟩) := by
    funext y
    rcases eq_or_ne y a with rfl | hy
    · have hhead : s.pHead ≠ some y := fun he => hne y he rfl
      simp [writePrev, writeNext, hhead]
    · simp [writePrev, writeNext, hy, hy.symm]
  refine ⟨{ s.malloc a ⟨d, f⟩ with
    pHead := some a
    pTail := if s.pHead = none then some a else s.pTail
    heap := Function.update (writePrev s.pHead (some a) s.heap) a (some ⟨⟨d, f⟩, s.pHead, none⟩) },
    ?_, ?_⟩
  · simp only [linkedListAdd, malloc, Option.bind_eq_bind]
    rw [setNext_eq (by simp), Option.bind_some, setBehind_eq, Option.bind_some, hheap]
    · rfl
    · intro b hb
      simp [writeNext, hne b hb, (hne b hb).symm, hused b hb]
  · constructor
    · rfl
    · dsimp only
      rw [h.links.head_eq, h.links.tail_eq]
      cases l with
      | nil => rfl
      | cons b l => simp [List.getLast?_cons]
    · exact Function.update_self ..
    · intro y hy
      simp [next, hy]
    · intro y hy
      simp [prev, hy, prev_writePrev (hused y)]
    · intro y hy
      simp [obj, hy]
    · rfl
    · rfl
    · rfl

/-- **An element is added** in front. -/
lemma Rep.pushed (h : s.Rep l) (hfree : s.heap a = none) (hp : Pushed s s' a o) :
    s'.Rep (a :: l) ∧ s'.contents = s.contents ++ [o] := by
  have ha : a ∉ l := fun hmem => by simpa [hfree] using (h.used a).mpr hmem
  have hne : ∀ y ∈ l, y ≠ a := fun y hy he => ha (he ▸ hy)
  have hhead := h.links.head_eq
  have hrep : s'.Rep (a :: l) := by
    refine ⟨?_, fun y => ?_, ?_⟩
    · rw [hp.head]
      refine h.links.push ha ?_ ?_ hp.tail ?_ (fun y hy => hp.next y (hne y hy)) ?_
      · rw [next, hp.heap]
        rfl
      · rw [prev, hp.heap]
        rfl
      · intro y hy
        rw [hp.prev y (hne y (List.mem_of_mem_head? hy)), hhead, if_pos (Option.mem_def.mp hy)]
      · intro y hy hnot
        rw [hp.prev y (hne y hy), hhead, if_neg (mt Option.mem_def.mpr hnot)]
    · rcases eq_or_ne y a with rfl | hya
      · simp [hp.heap]
      · have hobj : (s'.heap y).isSome = (s.heap y).isSome := by
          simpa [obj] using congrArg Option.isSome (hp.obj y hya)
        rw [hobj, h.used, List.mem_cons, or_iff_right hya]
    · rw [hp.live, h.live, List.length_cons]
  refine ⟨hrep, ?_⟩
  have hobj : s'.obj a = some o := by
    rw [obj, hp.heap]
    rfl
  rw [hrep.contents, h.contents, List.reverse_cons, List.filterMap_append,
    List.filterMap_congr fun y hy => hp.obj y (hne y (List.mem_reverse.mp hy))]
  simp [hobj]

/-! ## Taking out -/

/-- What is done to take out an element, with its object. -/
structure Unlinked (s s' : ListState) (a : ℕ) (o : Obj) : Prop where
  head : s'.pHead = if s.pHead = some a then s.next a else s.pHead
  tail : s'.pTail = if s.pTail = some a then s.prev a else s.pTail
  object : s.obj a = some o
  gone : s'.heap a = none
  next : ∀ y ≠ a, s'.next y = if s.prev a = some y then s.next a else s.next y
  prev : ∀ y ≠ a, s'.prev y = if s.next a = some y then s.prev a else s.prev y
  obj : ∀ y ≠ a, s'.obj y = s.obj y
  live : s'.live = s.live - 1
  added : s'.added = s.added
  freed : s'.freed = s.freed ++ [o]

/-- **An element is taken out.** -/
lemma Rep.unlinked (h : s.Rep (l₁ ++ a :: l₂)) (hu : Unlinked s s' a o) :
    s'.Rep (l₁ ++ l₂) ∧ s.contents = l₂.reverse.filterMap s.obj ++ o :: l₁.reverse.filterMap s.obj ∧
      s'.contents = l₂.reverse.filterMap s.obj ++ l₁.reverse.filterMap s.obj := by
  have hnodup := h.links.nodup
  have hmiddle := List.nodup_middle.mp hnodup
  have hne : ∀ y ∈ l₁ ++ l₂, y ≠ a := fun y hy he => (List.nodup_cons.mp hmiddle).1 (he ▸ hy)
  have hnext := h.links.next_eq
  have hprev := h.links.prev_eq
  have hmem : a ∈ l₁ ++ a :: l₂ := by simp
  have hfirst : s.pHead = some a ↔ l₁ = [] := by
    rw [← h.links.prev_eq_none_iff hmem, hprev, List.getLast?_eq_none_iff]
  have hlast : s.pTail = some a ↔ l₂ = [] := by
    rw [← h.links.next_eq_none_iff hmem, hnext, List.head?_eq_none_iff]
  have hrep : s'.Rep (l₁ ++ l₂) := by
    refine ⟨?_, fun y => ?_, ?_⟩
    · refine h.links.unlink ?_ ?_ ?_ ?_ ?_ ?_
      · rw [hu.head]
        exact if_congr hfirst rfl rfl
      · rw [hu.tail]
        exact if_congr hlast rfl rfl
      · intro y hy
        have hy₁ : y ∈ l₁ := List.mem_of_getLast? hy
        rw [hu.next y (hne y (List.mem_append_left _ hy₁)), hprev, if_pos (Option.mem_def.mp hy)]
      · intro y hy
        have hy₂ : y ∈ l₂ := List.mem_of_mem_head? hy
        rw [hu.prev y (hne y (List.mem_append_right _ hy₂)), hnext, if_pos (Option.mem_def.mp hy)]
      · intro y hy hnot
        rw [hu.next y (hne y hy), hprev, if_neg (mt Option.mem_def.mpr hnot)]
      · intro y hy hnot
        rw [hu.prev y (hne y hy), hnext, if_neg (mt Option.mem_def.mpr hnot)]
    · rcases eq_or_ne y a with rfl | hya
      · have hnot : y ∉ l₁ ++ l₂ := (List.nodup_cons.mp hmiddle).1
        simpa [hu.gone] using hnot
      · have hobj : (s'.heap y).isSome = (s.heap y).isSome := by
          simpa [ListState.obj] using congrArg Option.isSome (hu.obj y hya)
        rw [hobj, h.used]
        simp [hya]
    · rw [hu.live, h.live]
      simp only [List.length_append, List.length_cons]
      omega
  refine ⟨hrep, ?_, ?_⟩
  · rw [h.contents]
    simp [hu.object]
  · rw [hrep.contents, List.filterMap_congr fun y hy => hu.obj y (hne y (List.mem_reverse.mp hy))]
    simp

/-- The element behind, and the one in front, are on the list. -/
lemma Rep.neighbours (h : s.Rep l) (he : s.heap a = some e) (ha : a ∈ l) :
    (∀ b, e.prev = some b → (s.heap b).isSome ∧ b ≠ a) ∧
      ∀ b, e.next = some b → (s.heap b).isSome ∧ b ≠ a := by
  obtain ⟨l₁, l₂, rfl⟩ := List.append_of_mem ha
  have hnodup := (List.nodup_cons.mp (List.nodup_middle.mp h.links.nodup)).1
  have hprev : e.prev = l₁.getLast? := by
    rw [← h.links.prev_eq, prev, he]
    rfl
  have hnext : e.next = l₂.head? := by
    rw [← h.links.next_eq, next, he]
    rfl
  constructor
  · intro b hb
    have hmem : b ∈ l₁ := List.mem_of_getLast? (hprev ▸ hb)
    exact ⟨(h.used b).mpr (by simp [hmem]), fun hba => hnodup (by simp [← hba, hmem])⟩
  · intro b hb
    have hmem : b ∈ l₂ := List.mem_of_mem_head? (hnext ▸ hb)
    exact ⟨(h.used b).mpr (by simp [hmem]), fun hba => hnodup (by simp [← hba, hmem])⟩

/-- The links around an element are led past it, and it is freed. -/
lemma Rep.bypassed (h : s.Rep l) (he : s.heap a = some e) (ha : a ∈ l) (c : List (ℕ × ℕ)) :
    Unlinked s { s with
      pHead := if e.prev = none then e.next else s.pHead
      pTail := if e.next = none then e.prev else s.pTail
      heap := Function.update (writePrev e.next e.prev (writeNext e.prev e.next s.heap)) a none
      live := s.live - 1
      calls := c
      freed := s.freed ++ [e.toObj] } a e.toObj := by
  obtain ⟨hprev, hnext⟩ := h.neighbours he ha
  have hsnext : s.next a = e.next := by
    rw [next, he]
    rfl
  have hsprev : s.prev a = e.prev := by
    rw [prev, he]
    rfl
  constructor
  · dsimp only
    rw [← hsprev, ← hsnext]
    exact if_congr (h.links.prev_eq_none_iff ha) rfl rfl
  · dsimp only
    rw [← hsprev, ← hsnext]
    exact if_congr (h.links.next_eq_none_iff ha) rfl rfl
  · rw [obj, he]
    rfl
  · exact Function.update_self ..
  · intro y hy
    rw [hsprev, hsnext]
    simp [next, hy, next_writeNext fun hp => (hprev y hp).1]
  · intro y hy
    rw [hsprev, hsnext]
    have hused : e.next = some y → (writeNext e.prev e.next s.heap y).isSome := fun hn =>
      (isSome_writeNext y).trans (hnext y hn).1
    simp [prev, hy, prev_writePrev hused]
  · intro y hy
    simp [obj, hy]
  · rfl
  · rfl
  · rfl

/-- **`linked_list_remove`** takes out the element at the tail. -/
lemma Rep.remove (h : s.Rep (l ++ [a])) (he : s.heap a = some e) :
    ∃ s', s.linkedListRemove true = some (.success, some e.dataPtr, s') ∧
      Unlinked s s' a e.toObj := by
  have ha : a ∈ l ++ [a] := by simp
  obtain ⟨hprev, -⟩ := h.neighbours he ha
  have htail : s.pTail = some a := by rw [h.links.tail_eq, List.getLast?_concat]
  have hnext : e.next = none := by
    have hlast := (h.links.next_eq_none_iff ha).mpr htail
    rwa [next, he] at hlast
  refine ⟨_, ?_, h.bypassed he ha s.calls⟩
  have hread : writeNext e.prev none s.heap a = some e := by
    rw [writeNext, if_neg fun hp => (hprev a hp).2 rfl, he]
  simp only [linkedListRemove, htail, he, Option.bind_eq_bind, Option.bind_some, Bool.true_eq_false,
    if_false]
  rw [setFront_eq, Option.bind_some]
  · simp [free, hread, hnext]
  · exact fun b hb => (hprev b hb).1

/-- **`linked_list_search`** takes out what it finds. -/
lemma Rep.takeOut (h : s.Rep l) (he : s.heap a = some e) (ha : a ∈ l) (dataP : Bool) :
    ∃ s', s.takeOut a dataP = some s' ∧ Unlinked s s' a e.toObj := by
  obtain ⟨hprev, hnext⟩ := h.neighbours he ha
  refine ⟨_, ?_, h.bypassed he ha (if dataP then s.calls else (s.dealloc e.toObj).calls)⟩
  have hread : writeNext e.prev e.next s.heap a = some e := by
    rw [writeNext, if_neg fun hp => (hprev a hp).2 rfl, he]
  have hread' : writePrev e.next e.prev (writeNext e.prev e.next s.heap) a = some e := by
    rw [writePrev, if_neg fun hn => (hnext a hn).2 rfl, hread]
  obtain ⟨hcleared, hfreed⟩ := clear_eq hread'
  have hsome : (writePrev e.next e.prev (writeNext e.prev e.next s.heap) a).isSome := by
    rw [hread']
    rfl
  simp only [ListState.takeOut, he, Option.bind_eq_bind, Option.bind_some]
  rw [setFront_eq fun b hb => (hprev b hb).1, Option.bind_some]
  dsimp only
  rw [hread, Option.bind_some, setBehind_eq, Option.bind_some]
  · rw [setNext_eq, Option.bind_some]
    · rw [setPrev_eq, Option.bind_some]
      · dsimp only
        rw [hcleared, Option.bind_some]
        cases dataP <;> simp [free, dealloc, hcleared, hfreed]
      · exact (isSome_writeNext a).trans hsome
    · exact hsome
  · exact fun b hb => (isSome_writeNext b).trans (hnext b hb).1

/-- What a search through some elements comes to: none of them matches, or the first that does is
found, and taken out if that is asked for. -/
def Found (s s' : ListState) (equal : ℕ → Bool) (rm : Bool) (l : List ℕ) (found : Option ℕ) :
    Prop :=
  (found = none ∧ s' = s ∧ ∀ a ∈ l, ∀ o, s.obj a = some o → equal o.dataPtr = false) ∨
    ∃ l₁ a l₂ o, l = l₁ ++ a :: l₂ ∧ (∀ b ∈ l₁, ∀ o, s.obj b = some o → equal o.dataPtr = false) ∧
      s.obj a = some o ∧ equal o.dataPtr = true ∧ found = some o.dataPtr ∧
      if rm then Unlinked s s' a o else s' = s

/-- An element that does not match is passed over. -/
lemma Found.cons {equal : ℕ → Bool} {rm : Bool} {found : Option ℕ}
    (ha : ∀ o, s.obj a = some o → equal o.dataPtr = false) (h : Found s s' equal rm l found) :
    Found s s' equal rm (a :: l) found := by
  rcases h with ⟨hnone, hsame, hall⟩ | ⟨l₁, b, l₂, o, rfl, hbefore, hb⟩
  · exact Or.inl ⟨hnone, hsame, List.forall_mem_cons.mpr ⟨ha, hall⟩⟩
  · exact Or.inr ⟨a :: l₁, b, l₂, o, rfl, List.forall_mem_cons.mpr ⟨ha, hbefore⟩, hb⟩

/-- **The loop of `linked_list_search`.** -/
lemma Rep.searchLoop (h : s.Rep l) (equal : ℕ → Bool) (dataP rm : Bool) {fuel : ℕ}
    (hl : l = l₁ ++ l₂) (hfuel : l₂.length ≤ fuel) :
    ∃ found s', searchLoop equal dataP rm fuel l₂.head? s = some (found, s') ∧
      Found s s' equal rm l₂ found := by
  induction l₂ generalizing l₁ fuel with
  | nil => exact ⟨none, s, by cases fuel <;> rfl, Or.inl ⟨rfl, rfl, fun a ha => by cases ha⟩⟩
  | cons a l₂ ih =>
      obtain ⟨fuel, rfl⟩ : ∃ k, fuel = k + 1 := Nat.exists_eq_succ_of_ne_zero (by
        rintro rfl
        cases hfuel)
      have ha : a ∈ l := by simp [hl]
      obtain ⟨e, he, hnext, -, hobj⟩ := h.heap ha
      rw [List.head?_cons, ListState.searchLoop, he, Option.bind_eq_bind, Option.bind_some]
      cases heq : equal e.dataPtr with
      | false =>
          have hbehind : e.next = l₂.head? := by
            rw [← hnext]
            exact (hl ▸ h).links.next_eq
          have hpassed : l = (l₁ ++ [a]) ++ l₂ := by simp [hl]
          have hleft : l₂.length ≤ fuel := by simpa using hfuel
          obtain ⟨found, s', hloop, hfound⟩ := ih hpassed hleft
          refine ⟨found, s', ?_, hfound.cons fun o ho => ?_⟩
          · rw [if_neg Bool.false_ne_true, hbehind, hloop]
          · rw [hobj, Option.some.injEq] at ho
            rw [← ho, heq]
      | true =>
          have hnil : ∀ b ∈ ([] : List ℕ), ∀ o, s.obj b = some o → equal o.dataPtr = false :=
            fun b hb => absurd hb List.not_mem_nil
          cases rm with
          | true =>
              obtain ⟨s', htake, hun⟩ := h.takeOut he ha dataP
              refine ⟨_, s', ?_, Or.inr ⟨[], a, l₂, e.toObj, rfl, hnil, hobj, heq, rfl, hun⟩⟩
              rw [if_pos rfl, if_pos rfl, htake, Option.map_some]
          | false =>
              exact ⟨_, s, rfl, Or.inr ⟨[], a, l₂, e.toObj, rfl, hnil, hobj, heq, rfl, rfl⟩⟩

/-! ## Flushing -/

/-- The element at the head is freed. -/
lemma flush_pass (hhead : s.pHead = some a) (he : s.heap a = some e) :
    ∃ t : ListState, (∀ fuel, flushLoop (fuel + 1) s = flushLoop fuel t) ∧ t.pHead = e.next ∧
      t.heap = Function.update s.heap a none ∧ t.live = s.live - 1 ∧ t.added = s.added ∧
      t.freed = s.freed ++ [e.toObj] := by
  refine ⟨{ s.dealloc e.toObj with
    pHead := e.next
    heap := Function.update s.heap a none
    live := s.live - 1
    freed := s.freed ++ [e.toObj] }, fun fuel => ?_, rfl, rfl, rfl, rfl, rfl⟩
  rw [flushLoop, hhead]
  simp only [he, Option.bind_eq_bind, Option.bind_some, free, dealloc, Option.map_some]

/-- **The loop of `linked_list_flush`** frees every element. -/
lemma flushLoop_eq (hpath : Chain.Path s.next s.pHead l) (hnodup : l.Nodup)
    (hused : ∀ a, (s.heap a).isSome ↔ a ∈ l) (hlive : s.live = l.length) :
    ∃ s', flushLoop l.length s = some s' ∧ s'.pHead = none ∧ (∀ a, s'.heap a = none) ∧
      s'.live = 0 ∧ s'.added = s.added ∧ s'.freed = s.freed ++ l.filterMap s.obj := by
  induction l generalizing s with
  | nil =>
      refine ⟨s, ?_, hpath, fun a => ?_, hlive, rfl, (List.append_nil _).symm⟩
      · exact if_pos hpath
      · have ha := (hused a).not.mpr List.not_mem_nil
        simpa using ha
  | cons a l ih =>
      obtain ⟨hhead, hpath⟩ := hpath
      obtain ⟨ha, hnodup⟩ := List.nodup_cons.mp hnodup
      obtain ⟨e, he⟩ := Option.isSome_iff_exists.mp ((hused a).mpr List.mem_cons_self)
      have hne : ∀ y ∈ l, y ≠ a := fun y hy hya => ha (hya ▸ hy)
      have hnext : s.next a = e.next := by
        rw [next, he]
        rfl
      have hobj : s.obj a = some e.toObj := by
        rw [obj, he]
        rfl
      obtain ⟨t, hpass, hthead, htheap, htlive, htadded, htfreed⟩ := flush_pass hhead he
      have htnext : ∀ y ∈ l, t.next y = s.next y := fun y hy => by
        rw [next, next, htheap, Function.update_of_ne (hne y hy)]
      have htobj : ∀ y ∈ l, t.obj y = s.obj y := fun y hy => by
        rw [obj, obj, htheap, Function.update_of_ne (hne y hy)]
      have htused : ∀ y, (t.heap y).isSome ↔ y ∈ l := fun y => by
        rw [htheap]
        rcases eq_or_ne y a with rfl | hya
        · simp [ha]
        · simp [hya, hused]
      have htlength : t.live = l.length := by
        rw [List.length_cons] at hlive
        omega
      obtain ⟨s', hloop, hend, hempty, hnone, hadded, hfreed⟩ :=
        ih (hthead ▸ hnext ▸ hpath.congr htnext) hnodup htused htlength
      refine ⟨s', by rw [List.length_cons, hpass, hloop], hend, hempty, hnone,
        hadded.trans htadded, ?_⟩
      rw [hfreed, htfreed, List.filterMap_congr htobj, List.filterMap_cons, hobj, List.append_assoc]
      rfl

/-- **`linked_list_flush`** takes out all elements. -/
lemma Rep.flush (h : s.Rep l) :
    ∃ s', s.linkedListFlush = some (.success, s') ∧ s'.Rep [] ∧ s'.contents = [] ∧
      s'.added = s.added ∧ s'.freed = s.freed ++ s.contents.reverse := by
  obtain ⟨s', hloop, hhead, hempty, hlive, hadded, hfreed⟩ :=
    flushLoop_eq h.links.forth h.links.nodup h.used h.live
  have hrep : Rep { s' with pTail := none } [] :=
    ⟨⟨List.nodup_nil, hhead, rfl⟩, fun a => by simp [hempty], hlive⟩
  refine ⟨{ s' with pTail := none }, ?_, hrep, hrep.contents, hadded, ?_⟩
  · rw [linkedListFlush, h.live, hloop, Option.map_some]
  · rw [hfreed, h.contents, List.filterMap_reverse, List.reverse_reverse]

/-! ## What every call keeps -/

/-- The list is linked up, and holds what it should. -/
structure Kept (s : ListState) : Prop where
  rep : ∃ l, s.Rep l
  holds : s.Holds

lemma kept_init : Kept {} where
  rep := ⟨[], ⟨List.nodup_nil, rfl, rfl⟩, fun a => by simp, rfl⟩
  holds := ⟨List.Sublist.slnil, .nil⟩

lemma Rep.contents_eq_nil_iff (h : s.Rep l) : s.contents = [] ↔ l = [] := by
  rw [h.contents]
  constructor
  · intro hnil
    rcases List.eq_nil_or_concat l with rfl | ⟨k, a, rfl⟩
    · rfl
    · obtain ⟨e, -, -, -, hobj⟩ := h.heap (a := a) (by simp)
      simp [hobj] at hnil
  · rintro rfl
    rfl

lemma Kept.empty (h : s.Kept) : s.linkedListEmpty = s.contents.isEmpty := by
  obtain ⟨l, hl⟩ := h.rep
  rw [Bool.eq_iff_iff, List.isEmpty_iff, hl.contents_eq_nil_iff, linkedListEmpty, hl.links.head_eq,
    Option.isNone_iff_eq_none, List.head?_eq_none_iff]

/-- What taking out an element does to what is held. -/
lemma Kept.unlinked (h : s.Kept) (hl : s.Rep (l₁ ++ a :: l₂)) (hu : Unlinked s s' a o) :
    s'.Kept := by
  obtain ⟨hrep, hbefore, hafter⟩ := hl.unlinked hu
  obtain ⟨horder, hexact⟩ := h.holds
  refine ⟨⟨_, hrep⟩, ?_, ?_⟩
  · rw [hafter, hu.added]
    refine List.Sublist.trans ?_ (hbefore ▸ horder)
    exact List.Sublist.append_left (List.sublist_cons_self ..) _
  · rw [hafter, hu.added, hu.freed]
    refine List.Perm.trans ?_ (hbefore ▸ hexact)
    rw [← List.append_assoc]
    refine (List.perm_append_singleton ..).trans ?_
    rw [List.append_assoc, List.append_assoc, List.cons_append]
    exact List.perm_middle.symm

/-- **Adding** puts an object at the end of what is held. -/
lemma Kept.add (h : s.Kept) (hfree : s.heap a = none) (d : ℕ) (f : Option ℕ) :
    ∃ s', s.linkedListAdd (some a) (some d) f = some (.success, s') ∧ s'.Kept ∧
      s'.contents = s.contents ++ [⟨d, f⟩] := by
  obtain ⟨l, hl⟩ := h.rep
  obtain ⟨s', hadd, hp⟩ := hl.add hfree d f
  obtain ⟨hrep, hcontents⟩ := hl.pushed hfree hp
  obtain ⟨horder, hexact⟩ := h.holds
  refine ⟨s', hadd, ⟨⟨_, hrep⟩, ?_, ?_⟩, hcontents⟩
  · rw [hcontents, hp.added]
    exact horder.append (List.Sublist.refl _)
  · rw [hcontents, hp.added, hp.freed, List.append_assoc]
    refine (List.perm_append_comm.append_left _).trans ?_
    rw [← List.append_assoc]
    exact hexact.append_right _

/-- **Removing** takes the oldest of what is held. -/
lemma Kept.remove {os : List Obj} (h : s.Kept) (hs : s.contents = o :: os) :
    ∃ s', s.linkedListRemove true = some (.success, some o.dataPtr, s') ∧ s'.Kept ∧
      s'.contents = os := by
  obtain ⟨l, hl⟩ := h.rep
  rcases List.eq_nil_or_concat l with rfl | ⟨k, a, rfl⟩
  · rw [hl.contents_eq_nil_iff.mpr rfl] at hs
    cases hs
  · rw [List.concat_eq_append] at hl
    obtain ⟨e, he, -⟩ := hl.heap (a := a) (by simp)
    obtain ⟨s', hremove, hu⟩ := hl.remove he
    obtain ⟨-, hbefore, hafter⟩ := hl.unlinked hu
    rw [hs] at hbefore
    cases hbefore
    exact ⟨s', hremove, h.unlinked hl hu, hafter⟩

lemma Kept.remove_empty (h : s.Kept) (hs : s.contents = []) :
    s.linkedListRemove true = some (.unavailableResource, none, s) := by
  obtain ⟨l, hl⟩ := h.rep
  have htail := hl.links.tail_eq
  rw [hl.contents_eq_nil_iff.mp hs] at htail
  rw [linkedListRemove, if_neg (by simp), show s.pTail = none from htail]

lemma Kept.flush (h : s.Kept) :
    ∃ s', s.linkedListFlush = some (.success, s') ∧ s'.Kept ∧ s'.contents = [] := by
  obtain ⟨l, hl⟩ := h.rep
  obtain ⟨s', hflush, hrep, hcontents, hadded, hfreed⟩ := hl.flush
  refine ⟨s', hflush, ⟨⟨_, hrep⟩, ?_, ?_⟩, hcontents⟩
  · rw [hcontents]
    exact List.nil_sublist _
  · rw [hcontents, List.nil_append, hadded, hfreed]
    refine List.Perm.trans ?_ h.holds.exact
    exact List.perm_append_comm.trans ((List.reverse_perm _).append_right _)

lemma Kept.search (h : s.Kept) (dataP : Bool) (equal : Option (ℕ → Bool)) (rm : Bool) :
    ∃ err data s', s.linkedListSearch dataP equal rm = some (err, data, s') ∧ s'.Kept := by
  obtain ⟨l, hl⟩ := h.rep
  cases equal with
  | none => exact ⟨.invalidHandle, none, s, rfl, h⟩
  | some equal =>
      cases htail : s.pTail with
      | none => exact ⟨.unavailableResource, none, s, by simp only [linkedListSearch, htail], h⟩
      | some p =>
          obtain ⟨found, s', hloop, hfound⟩ :=
            hl.searchLoop equal dataP rm (List.nil_append l).symm hl.live.ge
          refine ⟨.success, if dataP then found else none, s', ?_, ?_⟩
          · simp only [linkedListSearch, htail, hl.links.head_eq, hloop, Option.map_some]
          · rcases hfound with ⟨-, rfl, -⟩ | ⟨l₁, a, l₂, o, rfl, -, -, -, -, hout⟩
            · exact h
            · cases rm with
              | true => exact h.unlinked hl hout
              | false => exact hout ▸ h

/-- **Every call** goes through, and keeps the list. -/
theorem Kept.call {c : Call} (h : s.Kept) (hc : c.Legal s) :
    ∃ err data s', s.call c = some (err, data, s') ∧ s'.Kept := by
  cases c with
  | add elem dataObj f =>
      cases dataObj with
      | none => exact ⟨.invalidParameter, none, s, rfl, h⟩
      | some d =>
          cases elem with
          | none => exact ⟨.failureGeneral, none, s, rfl, h⟩
          | some a =>
              obtain ⟨s', hadd, hkept, -⟩ := h.add hc d f
              exact ⟨.success, none, s', by rw [ListState.call, hadd, Option.map_some], hkept⟩
  | remove dataObj =>
      cases dataObj with
      | false => exact ⟨.invalidParameter, none, s, rfl, h⟩
      | true =>
          cases hs : s.contents with
          | nil => exact ⟨_, _, s, h.remove_empty hs, h⟩
          | cons o os =>
              obtain ⟨s', hremove, hkept, -⟩ := h.remove hs
              exact ⟨_, _, s', hremove, hkept⟩
  | search dataP equal rm => exact h.search dataP equal rm
  | flush =>
      obtain ⟨s', hflush, hkept, -⟩ := h.flush
      exact ⟨.success, none, s', by rw [ListState.call, hflush, Option.map_some], hkept⟩

end ListState

end Gps.LinkedList
