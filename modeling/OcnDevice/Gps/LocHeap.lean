import OcnDevice.Core.Run

/-!
# The timer heap

`LocHeap` keeps the timers that tick.  It is a binary tree of nodes that is ordered along its branches
only; a node also counts the nodes of its subtree, so that a push can go to the smaller side.  The
links of the tree hardly ever change: a push or a pop moves the *data* of the nodes up or down a
branch, and only a leaf comes or goes.

An element is compared with others by rank, and found again by its address.  Here equality of `α`
stands for that of addresses, and `LocRankable` for ranks; `RankOrder` says that ranks come from a
total preorder, in which different elements may well rank the same.

The file goes over the operations one by one.  Each has a lemma for what it does to the elements
(`elems_push`, `elems_popNode`, `elems_remove`) and one for the invariant `Sound`, which is what
`checkNodes` tests (`checkNodes_iff`).
-/

namespace Gps

/-! ## The tree -/

/-- `LocRankable`: positive if the first element ranks higher. -/
class LocRankable (α : Type*) where
  ranks : α → α → ℤ

section Model

variable {α : Type*} [LocRankable α]

/-- `outRanks`. -/
def outRanks (a b : α) : Bool := 0 < LocRankable.ranks a b

/-- A pointer to a `LocHeapNode`. -/
inductive LocHeapNode (α : Type*)
  | null
  | node (mSize : ℤ) (mLeft mRight : LocHeapNode α) (mData : α)
  deriving DecidableEq, Repr

namespace LocHeapNode

/-- `mSize`, with zero for no node. -/
def size : LocHeapNode α → ℤ
  | null => 0
  | node mSize _ _ _ => mSize

/-- `LocHeap::peek`. -/
def peek : LocHeapNode α → Option α
  | null => none
  | node _ _ _ mData => some mData

/-- `push`.  A node that gets something outranking its data swaps the two, and passes on what is
left. -/
def push (x : α) : LocHeapNode α → LocHeapNode α
  | null => node 1 null null x
  | node mSize mLeft mRight mData =>
      let top := if outRanks x mData then x else mData
      let rest := if outRanks x mData then mData else x
      match mLeft, mRight with
      | null, r => node (mSize + 1) (node 1 null null rest) r top
      | l, null => node (mSize + 1) l (node 1 null null rest) top
      | l, r =>
          if l.size ≤ r.size then node (mSize + 1) (l.push rest) r top
          else node (mSize + 1) l (r.push rest) top

/-- `LocHeapNode::pop` for a tree whose top has been given the data `d`: the data goes down to a leaf,
along the higher ranked children, which move up. -/
def popNode : LocHeapNode α → α → LocHeapNode α × α
  | null, d => (null, d)
  | node mSize mLeft mRight _, d =>
      match mLeft.peek, mRight.peek with
      | none, none => (null, d)
      | none, some y => (node (mSize - 1) mLeft (mRight.popNode d).1 y, (mRight.popNode d).2)
      | some x, none => (node (mSize - 1) (mLeft.popNode d).1 mRight x, (mLeft.popNode d).2)
      | some x, some y =>
          if outRanks x y then
            (node (mSize - 1) (mLeft.popNode d).1 mRight x, (mLeft.popNode d).2)
          else (node (mSize - 1) mLeft (mRight.popNode d).1 y, (mRight.popNode d).2)

/-- `LocHeap::pop`. -/
def pop : LocHeapNode α → LocHeapNode α × Option α
  | null => (null, none)
  | node mSize mLeft mRight mData =>
      let popped := popNode (node mSize mLeft mRight mData) mData
      (popped.1, some popped.2)

/-- `LocHeap::remove`.  A subtree whose top is outranked is not searched. -/
def remove [DecidableEq α] (data : α) : LocHeapNode α → LocHeapNode α × Option α
  | null => (null, none)
  | node mSize mLeft mRight mData =>
      if data = mData then pop (node mSize mLeft mRight mData)
      else if outRanks data mData then (node mSize mLeft mRight mData, none)
      else
        match (mLeft.remove data).2 with
        | some y => (node (mSize - 1) (mLeft.remove data).1 mRight mData, some y)
        | none =>
            match (mRight.remove data).2 with
            | some y => (node (mSize - 1) mLeft (mRight.remove data).1 mData, some y)
            | none => (node mSize mLeft mRight mData, none)

/-- `checkNodes`. -/
def checkNodes : LocHeapNode α → Bool
  | null => true
  | node mSize mLeft mRight mData =>
      (mLeft.peek.all fun x => !outRanks x mData) && mLeft.checkNodes &&
        (mRight.peek.all fun y => !outRanks y mData) && mRight.checkNodes &&
          decide (mSize - mLeft.size - mRight.size = 1)

end LocHeapNode

/-! ## Runs -/

/-- A call of a heap. -/
inductive HeapOp (α : Type*)
  | push (x : α)
  | pop
  | remove (x : α)
  deriving DecidableEq, Repr

/-- What a call makes of the heap, and what it returns. -/
def HeapOp.call [DecidableEq α] (t : LocHeapNode α) : HeapOp α → LocHeapNode α × Option α
  | .push x => (t.push x, none)
  | .pop => t.pop
  | .remove x => t.remove x

/-- A call, with what it returns. -/
def HeapOp.Step [DecidableEq α] (t : LocHeapNode α) (e : HeapOp α × Option α) (t' : LocHeapNode α) :
    Prop :=
  e.1.call t = (t', e.2)

/-- The elements that are held after some calls: those that were pushed and not returned. -/
def held [DecidableEq α] (es : List (HeapOp α × Option α)) : Multiset α :=
  es.foldl (fun M e =>
    match e with
    | (.push x, _) => M + {x}
    | (_, some y) => M.erase y
    | (_, none) => M) 0

end Model

/-! ## What the tree should be -/

/-- Ranks come from a total preorder. -/
class RankOrder (α : Type*) [LocRankable α] : Prop where
  asymm : ∀ {a b : α}, outRanks a b = true → outRanks b a = false
  trans : ∀ {a b c : α}, outRanks a b = false → outRanks b c = false → outRanks a c = false

namespace LocHeapNode

variable {α : Type*}

/-- The elements of a tree. -/
def elems : LocHeapNode α → Multiset α
  | null => 0
  | node _ mLeft mRight mData => mLeft.elems + mRight.elems + {mData}

/-- The stored size of each node is that of its subtree. -/
def Sized : LocHeapNode α → Prop
  | null => True
  | node mSize mLeft mRight mData =>
      mSize = (node mSize mLeft mRight mData).elems.card ∧ mLeft.Sized ∧ mRight.Sized

/-- No node is outranked by one of its descendants. -/
def Ordered [LocRankable α] : LocHeapNode α → Prop
  | null => True
  | node _ mLeft mRight mData =>
      (∀ y ∈ mLeft.elems + mRight.elems, outRanks y mData = false) ∧ mLeft.Ordered ∧ mRight.Ordered

/-- What every operation keeps. -/
structure Sound [LocRankable α] (t : LocHeapNode α) : Prop where
  sized : t.Sized
  ordered : t.Ordered

section Elems

variable {t : LocHeapNode α} {x y : α}

/-- The elements below the top. -/
def under : LocHeapNode α → Multiset α
  | null => 0
  | node _ mLeft mRight _ => mLeft.elems + mRight.elems

lemma elems_eq_under (ht : t.peek = some x) : t.elems = t.under + {x} := by
  cases t with
  | null => cases ht
  | node mSize mLeft mRight mData =>
      cases ht
      rfl

lemma peek_eq_none : t.peek = none ↔ t = null := by
  cases t <;> simp [peek]

lemma peek_mem (ht : t.peek = some x) : x ∈ t.elems := by
  rw [elems_eq_under ht]
  simp

lemma size_eq (ht : t.Sized) : t.size = t.elems.card := by
  cases t with
  | null => rfl
  | node mSize mLeft mRight mData => exact ht.1

end Elems

section Rank

variable [LocRankable α] [RankOrder α] {t : LocHeapNode α} {x y z : α}

lemma outRanks_self (x : α) : outRanks x x = false := by
  cases h : outRanks x x with
  | false => rfl
  | true => exact h.symm.trans (RankOrder.asymm h)

/-- **Nothing in an ordered tree outranks its top.** -/
lemma Ordered.top (ht : t.Ordered) (hx : t.peek = some x) :
    ∀ y ∈ t.elems, outRanks y x = false := by
  cases t with
  | null => cases hx
  | node mSize mLeft mRight mData =>
      cases hx
      intro y hy
      rcases Multiset.mem_add.mp hy with hy | hy
      · exact ht.1 y hy
      · rw [Multiset.mem_singleton.mp hy]
        exact outRanks_self _

/-- What does not outrank the top is outranked by nothing below it. -/
lemma Ordered.of_top (ht : t.Ordered) (hx : t.peek = some x) (hz : outRanks x z = false) :
    ∀ y ∈ t.elems, outRanks y z = false :=
  fun y hy => RankOrder.trans (ht.top hx y hy) hz

/-- `checkNodes` tests the invariant. -/
theorem checkNodes_iff : t.checkNodes = true ↔ t.Sound := by
  induction t with
  | null => exact ⟨fun _ => ⟨trivial, trivial⟩, fun _ => rfl⟩
  | node mSize mLeft mRight mData ihl ihr =>
      have hpeek : ∀ u : LocHeapNode α, u.Ordered →
          ((u.peek.all fun x => !outRanks x mData) = true ↔
            ∀ y ∈ u.elems, outRanks y mData = false) := by
        intro u hu
        cases hx : u.peek with
        | none =>
            rw [peek_eq_none.mp hx]
            simp [elems]
        | some x =>
            rw [Option.all_some, Bool.not_eq_true']
            exact ⟨hu.of_top hx, fun h => h x (peek_mem hx)⟩
      have hcard : (node mSize mLeft mRight mData).elems.card =
          mLeft.elems.card + mRight.elems.card + 1 := by
        simp [elems]
      simp only [checkNodes, Bool.and_eq_true, decide_eq_true_eq, ihl, ihr]
      constructor
      · rintro ⟨⟨⟨⟨hl, hsl⟩, hr⟩, hsr⟩, hsize⟩
        rw [size_eq hsl.sized, size_eq hsr.sized] at hsize
        refine ⟨⟨by rw [hcard]; omega, hsl.sized, hsr.sized⟩, ?_, hsl.ordered, hsr.ordered⟩
        intro y hy
        rcases Multiset.mem_add.mp hy with hy | hy
        · exact (hpeek mLeft hsl.ordered).mp hl y hy
        · exact (hpeek mRight hsr.ordered).mp hr y hy
      · rintro ⟨⟨hsize, hzl, hzr⟩, hord, hol, hor⟩
        refine ⟨⟨⟨⟨?_, hzl, hol⟩, ?_⟩, hzr, hor⟩, ?_⟩
        · exact (hpeek mLeft hol).mpr fun y hy => hord y (Multiset.mem_add.mpr (Or.inl hy))
        · exact (hpeek mRight hor).mpr fun y hy => hord y (Multiset.mem_add.mpr (Or.inr hy))
        · rw [size_eq hzl, size_eq hzr]
          rw [hcard] at hsize
          omega

end Rank

/-! ## Push -/

section Push

variable [LocRankable α] {t l r : LocHeapNode α} {x d rest top : α} {n : ℤ}

/-- A push keeps the higher ranked of two elements at the top and gives the other one to a side. -/
lemma push_node (htop : top = if outRanks x d then x else d)
    (hrest : rest = if outRanks x d then d else x) :
    (node n l r d).push x = node (n + 1) (l.push rest) r top ∨
      (node n l r d).push x = node (n + 1) l (r.push rest) top := by
  subst htop hrest
  cases l with
  | null => exact Or.inl rfl
  | node nl ll lr dl =>
      cases r with
      | null => exact Or.inr rfl
      | node nr rl rr dr =>
          rcases le_or_gt (node nl ll lr dl).size (node nr rl rr dr).size with hs | hs
          · exact Or.inl (if_pos hs)
          · exact Or.inr (if_neg (not_le.mpr hs))

lemma elems_push : (t.push x).elems = t.elems + {x} := by
  induction t generalizing x with
  | null => simp [push, elems]
  | node n l r d ihl ihr =>
      have hswap : ({if outRanks x d then d else x} : Multiset α) +
          {if outRanks x d then x else d} = {d} + {x} := by
        split_ifs
        · rfl
        · exact add_comm _ _
      rcases push_node (n := n) (l := l) (r := r) (x := x) (d := d) rfl rfl with h | h <;>
        rw [h, elems, elems]
      · rw [ihl, add_right_comm l.elems, add_assoc, hswap, ← add_assoc]
      · rw [ihr, ← add_assoc, add_assoc, hswap, ← add_assoc]

lemma Sized.push (ht : t.Sized) : (t.push x).Sized := by
  induction t generalizing x with
  | null => exact ⟨by simp [elems], trivial, trivial⟩
  | node n l r d ihl ihr =>
      have hcard : ((node n l r d).push x).elems.card = n + 1 := by
        rw [elems_push, Multiset.card_add, Multiset.card_singleton, Nat.cast_add, ← ht.1]
        rfl
      rcases push_node (n := n) (l := l) (r := r) (x := x) (d := d) rfl rfl with h | h <;>
        rw [h] at hcard ⊢
      · exact ⟨hcard.symm, ihl ht.2.1, ht.2.2⟩
      · exact ⟨hcard.symm, ht.2.1, ihr ht.2.2⟩

lemma Ordered.push [RankOrder α] (ht : t.Ordered) : (t.push x).Ordered := by
  induction t generalizing x with
  | null => exact ⟨by simp [elems], trivial, trivial⟩
  | node n l r d ihl ihr =>
      have hrest : outRanks (if outRanks x d then d else x) (if outRanks x d then x else d) =
          false := by
        split_ifs with h
        · exact RankOrder.asymm h
        · exact eq_false_of_ne_true h
      have hold : ∀ y ∈ l.elems + r.elems,
          outRanks y (if outRanks x d then x else d) = false := by
        intro y hy
        split_ifs with h
        · exact RankOrder.trans (ht.1 y hy) (RankOrder.asymm h)
        · exact ht.1 y hy
      rcases push_node (n := n) (l := l) (r := r) (x := x) (d := d) rfl rfl with h | h <;>
        rw [h]
      · refine ⟨fun y hy => ?_, ihl ht.2.1, ht.2.2⟩
        rw [elems_push, add_right_comm] at hy
        rcases Multiset.mem_add.mp hy with hy | hy
        · exact hold y hy
        · rw [Multiset.mem_singleton.mp hy]
          exact hrest
      · refine ⟨fun y hy => ?_, ht.2.1, ihr ht.2.2⟩
        rw [elems_push, ← add_assoc] at hy
        rcases Multiset.mem_add.mp hy with hy | hy
        · exact hold y hy
        · rw [Multiset.mem_singleton.mp hy]
          exact hrest

lemma Sound.push [RankOrder α] (ht : t.Sound) : (t.push x).Sound := ⟨ht.sized.push, ht.ordered.push⟩

/-- The top stays, or the new element outranks it. -/
lemma push_peek : (∃ y, t.peek = some y ∧ (t.push x).peek = some y) ∨
    ((t.push x).peek = some x ∧ ∀ y, t.peek = some y → outRanks x y = true) := by
  cases t with
  | null => exact Or.inr ⟨rfl, fun y hy => by cases hy⟩
  | node n l r d =>
      have htop : ((node n l r d).push x).peek = some (if outRanks x d then x else d) := by
        rcases push_node (n := n) (l := l) (r := r) (x := x) (d := d) rfl rfl with h | h <;>
          rw [h] <;> rfl
      rw [htop]
      split_ifs with hout
      · refine Or.inr ⟨rfl, fun y hy => ?_⟩
        cases hy
        exact hout
      · exact Or.inl ⟨d, rfl, rfl⟩

end Push

/-! ## Pop -/

section Pop

variable [LocRankable α] {t t' l r : LocHeapNode α} {x y d m : α} {n : ℤ}

/-- A pop moves one child up: the one that is there, or the higher ranked one. -/
lemma popNode_node : (l = null ∧ r = null ∧ (node n l r m).popNode d = (null, d)) ∨
    (∃ x, l.peek = some x ∧ (∀ y, r.peek = some y → outRanks x y = true) ∧
      (node n l r m).popNode d = (node (n - 1) (l.popNode d).1 r x, (l.popNode d).2)) ∨
    (∃ y, r.peek = some y ∧ (∀ x, l.peek = some x → outRanks x y = false) ∧
      (node n l r m).popNode d = (node (n - 1) l (r.popNode d).1 y, (r.popNode d).2)) := by
  cases hl : l.peek with
  | none =>
      cases hr : r.peek with
      | none =>
          refine Or.inl ⟨peek_eq_none.mp hl, peek_eq_none.mp hr, ?_⟩
          simp only [popNode, hl, hr]
      | some y =>
          refine Or.inr (Or.inr ⟨y, rfl, (fun x hx => nomatch hx), ?_⟩)
          simp only [popNode, hl, hr]
  | some x =>
      cases hr : r.peek with
      | none =>
          refine Or.inr (Or.inl ⟨x, rfl, (fun y hy => nomatch hy), ?_⟩)
          simp only [popNode, hl, hr]
      | some y =>
          cases hxy : outRanks x y with
          | true =>
              refine Or.inr (Or.inl ⟨x, rfl, ?_, ?_⟩)
              · rintro _ ⟨⟩
                exact hxy
              · simp only [popNode, hl, hr, hxy, if_true]
          | false =>
              refine Or.inr (Or.inr ⟨y, rfl, ?_, ?_⟩)
              · rintro _ ⟨⟩
                exact hxy
              · simp only [popNode, hl, hr, hxy, Bool.false_eq_true, if_false]

lemma popNode_snd : (t.popNode d).2 = d := by
  induction t generalizing d with
  | null => rfl
  | node n l r m ihl ihr =>
      rcases popNode_node (n := n) (l := l) (r := r) (m := m) (d := d) with
        ⟨_, _, h⟩ | ⟨_, _, _, h⟩ | ⟨_, _, _, h⟩ <;> rw [h]
      · exact ihl
      · exact ihr

/-- A pop takes the top and leaves the elements below. -/
lemma elems_popNode : (t.popNode d).1.elems = t.under := by
  induction t generalizing d with
  | null => rfl
  | node n l r m ihl ihr =>
      rcases popNode_node (n := n) (l := l) (r := r) (m := m) (d := d) with
        ⟨rfl, rfl, h⟩ | ⟨x, hx, _, h⟩ | ⟨y, hy, _, h⟩ <;> rw [h]
      · rfl
      · show (l.popNode d).1.elems + r.elems + {x} = l.elems + r.elems
        rw [ihl, elems_eq_under hx, add_right_comm]
      · show l.elems + (r.popNode d).1.elems + {y} = l.elems + r.elems
        rw [ihr, elems_eq_under hy, add_assoc]

lemma Sized.popNode (ht : t.Sized) : (t.popNode d).1.Sized := by
  induction t generalizing d with
  | null => trivial
  | node n l r m ihl ihr =>
      have hcard : ((LocHeapNode.node n l r m).popNode d).1.elems.card = n - 1 := by
        have hn : n = ((l.elems + r.elems + {m}).card : ℤ) := ht.1
        rw [elems_popNode, under, hn, Multiset.card_add _ {m}, Multiset.card_singleton]
        push_cast
        omega
      rcases popNode_node (n := n) (l := l) (r := r) (m := m) (d := d) with
        ⟨_, _, h⟩ | ⟨_, _, _, h⟩ | ⟨_, _, _, h⟩ <;> rw [h] at hcard ⊢
      · trivial
      · exact ⟨hcard.symm, ihl ht.2.1, ht.2.2⟩
      · exact ⟨hcard.symm, ht.2.1, ihr ht.2.2⟩

lemma Ordered.popNode [RankOrder α] (ht : t.Ordered) : (t.popNode d).1.Ordered := by
  induction t generalizing d with
  | null => trivial
  | node n l r m ihl ihr =>
      obtain ⟨_, hol, hor⟩ := ht
      have hunder : ∀ {u : LocHeapNode α} {z : α}, u.peek = some z → ∀ y ∈ u.under, y ∈ u.elems := by
        intro u z hz y hy
        rw [elems_eq_under hz]
        exact Multiset.mem_add.mpr (Or.inl hy)
      rcases popNode_node (n := n) (l := l) (r := r) (m := m) (d := d) with
        ⟨_, _, h⟩ | ⟨x, hx, hxr, h⟩ | ⟨y, hy, hyl, h⟩ <;> rw [h]
      · trivial
      · refine ⟨fun z hz => ?_, ihl hol, hor⟩
        rw [elems_popNode] at hz
        rcases Multiset.mem_add.mp hz with hz | hz
        · exact hol.top hx z (hunder hx z hz)
        · cases hr : r.peek with
          | none =>
              rw [peek_eq_none.mp hr] at hz
              simp [elems] at hz
          | some y => exact hor.of_top hr (RankOrder.asymm (hxr y hr)) z hz
      · refine ⟨fun z hz => ?_, hol, ihr hor⟩
        rw [elems_popNode] at hz
        rcases Multiset.mem_add.mp hz with hz | hz
        · cases hl : l.peek with
          | none =>
              rw [peek_eq_none.mp hl] at hz
              simp [elems] at hz
          | some x => exact hol.of_top hl (hyl x hl) z hz
        · exact hor.top hy z (hunder hy z hz)

/-- What a pop returns is the top. -/
lemma pop_snd : t.pop.2 = t.peek := by
  cases t with
  | null => rfl
  | node n l r m => exact congrArg some popNode_snd

lemma pop_fst (hx : t.peek = some x) : t.pop.1 = (t.popNode x).1 := by
  cases t with
  | null => cases hx
  | node n l r m =>
      cases hx
      rfl

lemma elems_pop (hx : t.peek = some x) : t.elems = t.pop.1.elems + {x} := by
  rw [pop_fst hx, elems_popNode, elems_eq_under hx]

lemma Sound.pop [RankOrder α] (ht : t.Sound) : t.pop.1.Sound := by
  cases t with
  | null => exact ht
  | node n l r m => exact ⟨ht.sized.popNode, ht.ordered.popNode⟩

end Pop

/-! ## Remove -/

section Remove

variable [LocRankable α] [DecidableEq α] {t l r : LocHeapNode α} {x y d : α} {n : ℤ}

/-- A removal pops a node, changes one side, or changes nothing. -/
lemma remove_node : (x = d ∧ (node n l r d).remove x = (node n l r d).pop) ∨
    (x ≠ d ∧ outRanks x d = true ∧ (node n l r d).remove x = (node n l r d, none)) ∨
    (x ≠ d ∧ outRanks x d = false ∧ ∃ y, (l.remove x).2 = some y ∧
      (node n l r d).remove x = (node (n - 1) (l.remove x).1 r d, some y)) ∨
    (x ≠ d ∧ outRanks x d = false ∧ (l.remove x).2 = none ∧ ∃ y, (r.remove x).2 = some y ∧
      (node n l r d).remove x = (node (n - 1) l (r.remove x).1 d, some y)) ∨
    (x ≠ d ∧ outRanks x d = false ∧ (l.remove x).2 = none ∧ (r.remove x).2 = none ∧
      (node n l r d).remove x = (node n l r d, none)) := by
  rcases eq_or_ne x d with rfl | hne
  · exact Or.inl ⟨rfl, if_pos rfl⟩
  · refine Or.inr ?_
    cases hout : outRanks x d with
    | true =>
        refine Or.inl ⟨hne, rfl, ?_⟩
        rw [remove, if_neg hne, if_pos hout]
    | false =>
        refine Or.inr ?_
        have hstep : (node n l r d).remove x =
            match (l.remove x).2 with
            | some y => (node (n - 1) (l.remove x).1 r d, some y)
            | none =>
                match (r.remove x).2 with
                | some y => (node (n - 1) l (r.remove x).1 d, some y)
                | none => (node n l r d, none) := by
          rw [remove, if_neg hne, if_neg (ne_true_of_eq_false hout)]
        cases hl : (l.remove x).2 with
        | some y => exact Or.inl ⟨hne, rfl, y, rfl, by rw [hstep, hl]⟩
        | none =>
            refine Or.inr ?_
            cases hr : (r.remove x).2 with
            | some y => exact Or.inl ⟨hne, rfl, rfl, y, rfl, by rw [hstep, hl, hr]⟩
            | none => exact Or.inr ⟨hne, rfl, rfl, rfl, by rw [hstep, hl, hr]⟩

/-- Nothing is returned and nothing changes, or the element is returned and missing afterwards. -/
lemma remove_cases : t.remove x = (t, none) ∨
    ((t.remove x).2 = some x ∧ t.elems = (t.remove x).1.elems + {x}) := by
  induction t with
  | null => exact Or.inl rfl
  | node n l r d ihl ihr =>
      rcases remove_node (n := n) (l := l) (r := r) (x := x) (d := d) with
        ⟨rfl, h⟩ | ⟨_, _, h⟩ | ⟨_, _, y, hy, h⟩ | ⟨_, _, _, y, hy, h⟩ | ⟨_, _, _, _, h⟩
      · rw [h]
        exact Or.inr ⟨pop_snd, elems_pop rfl⟩
      · exact Or.inl h
      · refine Or.inr ?_
        rcases ihl with hl | ⟨hl, hel⟩
        · rw [hl] at hy
          cases hy
        · rw [h]
          refine ⟨hy.symm.trans hl, ?_⟩
          show l.elems + r.elems + {d} = (l.remove x).1.elems + r.elems + {d} + {x}
          rw [hel]
          abel
      · refine Or.inr ?_
        rcases ihr with hr | ⟨hr, her⟩
        · rw [hr] at hy
          cases hy
        · rw [h]
          refine ⟨hy.symm.trans hr, ?_⟩
          show l.elems + r.elems + {d} = l.elems + (r.remove x).1.elems + {d} + {x}
          rw [her]
          abel
      · exact Or.inl h

/-- What is removed is the top, or the top stays. -/
lemma remove_peek : (t.remove x).2 = t.peek ∨ (t.remove x).1.peek = t.peek := by
  cases t with
  | null => exact Or.inl rfl
  | node n l r d =>
      rcases remove_node (n := n) (l := l) (r := r) (x := x) (d := d) with
        ⟨_, h⟩ | ⟨_, _, h⟩ | ⟨_, _, y, _, h⟩ | ⟨_, _, _, y, _, h⟩ | ⟨_, _, _, _, h⟩ <;> rw [h]
      · exact Or.inl pop_snd
      · exact Or.inr rfl
      · exact Or.inr rfl
      · exact Or.inr rfl
      · exact Or.inr rfl

/-- **A held element is found**, since no subtree that is skipped can have it. -/
lemma remove_of_mem [RankOrder α] (ht : t.Ordered) (hx : x ∈ t.elems) : (t.remove x).2 = some x := by
  induction t with
  | null => simp [elems] at hx
  | node n l r d ihl ihr =>
      rcases remove_node (n := n) (l := l) (r := r) (x := x) (d := d) with
        ⟨rfl, h⟩ | ⟨hne, hout, _⟩ | ⟨_, _, y, hy, h⟩ | ⟨_, _, hl, y, hy, h⟩ | ⟨hne, _, hl, hr, _⟩
      · rw [h]
        exact pop_snd
      · rw [ht.top rfl x hx] at hout
        cases hout
      · rw [h]
        rcases remove_cases (t := l) (x := x) with hc | ⟨hc, _⟩
        · rw [hc] at hy
          cases hy
        · exact hy.symm.trans hc
      · rw [h]
        rcases remove_cases (t := r) (x := x) with hc | ⟨hc, _⟩
        · rw [hc] at hy
          cases hy
        · exact hy.symm.trans hc
      · rcases Multiset.mem_add.mp hx with hx | hx
        · rcases Multiset.mem_add.mp hx with hx | hx
          · rw [ihl ht.2.1 hx] at hl
            cases hl
          · rw [ihr ht.2.2 hx] at hr
            cases hr
        · exact absurd (Multiset.mem_singleton.mp hx) hne

lemma Sound.remove [RankOrder α] (ht : t.Sound) : (t.remove x).1.Sound := by
  induction t with
  | null => exact ht
  | node n l r d ihl ihr =>
      have hpart : ∀ {u : LocHeapNode α} {y : α}, (u.remove x).2 = some y →
          u.elems = (u.remove x).1.elems + {x} := by
        intro u y hy
        rcases remove_cases (t := u) (x := x) with hc | ⟨_, hc⟩
        · rw [hc] at hy
          cases hy
        · exact hc
      have hsize : n = (l.elems.card + r.elems.card + 1 : ℤ) := by
        rw [ht.sized.1]
        simp [elems]
      obtain ⟨_, hzl, hzr⟩ := ht.sized
      obtain ⟨hord, hol, hor⟩ := ht.ordered
      rcases remove_node (n := n) (l := l) (r := r) (x := x) (d := d) with
        ⟨rfl, h⟩ | ⟨_, _, h⟩ | ⟨_, _, y, hy, h⟩ | ⟨_, _, _, y, hy, h⟩ | ⟨_, _, _, _, h⟩ <;> rw [h]
      · exact Sound.pop ht
      · exact ht
      · have hl := ihl ⟨hzl, hol⟩
        have hel := hpart hy
        refine ⟨⟨?_, hl.sized, hzr⟩, fun z hz => ?_, hl.ordered, hor⟩
        · rw [hsize, hel]
          simp [elems]
          ring
        · refine hord z ?_
          rw [hel, add_right_comm]
          exact Multiset.mem_add.mpr (Or.inl hz)
      · have hr := ihr ⟨hzr, hor⟩
        have her := hpart hy
        refine ⟨⟨?_, hzl, hr.sized⟩, fun z hz => ?_, hol, hr.ordered⟩
        · rw [hsize, her]
          simp [elems]
          ring
        · refine hord z ?_
          rw [her, ← add_assoc]
          exact Multiset.mem_add.mpr (Or.inl hz)
      · exact ht

end Remove

end LocHeapNode

/-! ## The heap as a priority queue -/

section Queue

variable {α : Type*} [DecidableEq α] {es : List (HeapOp α × Option α)}

open LocHeapNode

lemma erase_add_singleton {M : Multiset α} {x : α} : (M + {x}).erase x = M := by
  rw [add_comm, Multiset.singleton_add, Multiset.erase_cons_head]

lemma held_concat (e : HeapOp α × Option α) : held (es ++ [e]) =
    match e with
    | (.push x, _) => held es + {x}
    | (_, some y) => (held es).erase y
    | (_, none) => held es := by
  rw [held, List.foldl_append]
  rfl

variable [LocRankable α] [RankOrder α] {t : LocHeapNode α}

/-- The tree is sound and holds `M`. -/
structure Queue (t : LocHeapNode α) (M : Multiset α) : Prop where
  sound : t.Sound
  elems : t.elems = M

/-- **Each call keeps the tree sound**, and does to its elements what it should. -/
lemma Queue.step {t' : LocHeapNode α} {e : HeapOp α × Option α} (h : Queue t (held es))
    (hst : HeapOp.Step t e t') : Queue t' (held (es ++ [e])) := by
  obtain ⟨op, ret⟩ := e
  rw [held_concat]
  cases op with
  | push x =>
      obtain ⟨rfl, rfl⟩ := Prod.mk.inj hst
      exact ⟨h.sound.push, by rw [elems_push, h.elems]⟩
  | pop =>
      have hret : t.pop = (t', ret) := hst
      have hpeek : t.peek = ret := by rw [← pop_snd, hret]
      cases ret with
      | none =>
          have hnull : t = null := peek_eq_none.mp hpeek
          rw [hnull] at hret
          obtain ⟨rfl, _⟩ := Prod.mk.inj hret
          exact ⟨⟨trivial, trivial⟩, hnull ▸ h.elems⟩
      | some y =>
          have hel := elems_pop hpeek
          rw [hret] at hel
          have hsound := h.sound.pop
          rw [hret] at hsound
          refine ⟨hsound, ?_⟩
          show t'.elems = (held es).erase y
          rw [← h.elems, hel, erase_add_singleton]
  | remove x =>
      have hret : t.remove x = (t', ret) := hst
      have hsound := h.sound.remove (x := x)
      rw [hret] at hsound
      rcases remove_cases (t := t) (x := x) with hc | ⟨hc, hel⟩
      · obtain ⟨rfl, rfl⟩ := Prod.mk.inj (hret.symm.trans hc)
        exact h
      · rw [hret] at hc hel
        cases hc
        refine ⟨hsound, ?_⟩
        show t'.elems = (held es).erase x
        rw [← h.elems, hel, erase_add_singleton]

/-- **The timer heap is a priority queue.**  Behind any calls that began with the empty heap, the sizes
and the order are right, which is what `checkNodes` says, and the heap holds what was pushed and not
returned.  A `peek` or `pop` gives an element that nothing held outranks, if there is any, and a
`remove` gives the element itself if it is held, and else changes nothing. -/
theorem loc_heap_faithful (hr : Run HeapOp.Step (null : LocHeapNode α) es t) :
    (t.Sized ∧ t.Ordered ∧ t.checkNodes = true ∧ t.elems = held es) ∧
    (∀ x, t.peek = some x → x ∈ held es ∧ ∀ y ∈ held es, outRanks y x = false) ∧
    (t.peek = none ↔ held es = 0) ∧ t.pop.2 = t.peek ∧
    ∀ x, (x ∈ held es → (t.remove x).2 = some x ∧
        (t.remove x).1.elems = (held es).erase x) ∧
      (x ∉ held es → t.remove x = (t, none)) := by
  have h : Queue t (held es) :=
    hr.history (P := fun es t => Queue t (held es)) (fun _ _ _ _ h hst => h.step hst)
      ⟨⟨trivial, trivial⟩, rfl⟩
  refine ⟨⟨h.sound.sized, h.sound.ordered, checkNodes_iff.mpr h.sound, h.elems⟩, ?_, ?_, pop_snd,
    fun x => ⟨fun hx => ?_, fun hx => ?_⟩⟩
  · intro x hx
    rw [← h.elems]
    exact ⟨peek_mem hx, h.sound.ordered.top hx⟩
  · rw [← h.elems]
    constructor
    · intro ht
      rw [peek_eq_none.mp ht]
      rfl
    · intro ht
      cases hp : t.peek with
      | none => rfl
      | some x =>
          have hmem := peek_mem hp
          rw [ht] at hmem
          exact absurd hmem (Multiset.notMem_zero x)
  · rw [← h.elems] at hx ⊢
    have hret := remove_of_mem h.sound.ordered hx
    rcases remove_cases (t := t) (x := x) with hc | ⟨_, hel⟩
    · rw [hc] at hret
      cases hret
    · exact ⟨hret, by rw [hel, erase_add_singleton]⟩
  · rcases remove_cases (t := t) (x := x) with hc | ⟨_, hel⟩
    · exact hc
    · refine absurd ?_ hx
      rw [← h.elems, hel]
      simp

end Queue

/-! ## An example -/

/-- A timer with its address and the time at which it is due; an earlier one ranks higher. -/
structure RankedTimer where
  addr : ℕ
  time : ℤ
  deriving DecidableEq, Repr

instance : LocRankable RankedTimer := ⟨fun a b => b.time - a.time⟩

instance : RankOrder RankedTimer where
  asymm := by
    intro a b h
    simp only [outRanks, LocRankable.ranks, decide_eq_true_eq, decide_eq_false_iff_not] at h ⊢
    omega
  trans := by
    intro a b c h h'
    simp only [outRanks, LocRankable.ranks, decide_eq_false_iff_not] at h h' ⊢
    omega

/-- Two timers of the same time, one of which is removed from below the other. -/
theorem loc_heap_faithful_equal :
    ∃ t, Run HeapOp.Step (LocHeapNode.null : LocHeapNode RankedTimer)
        [(.push ⟨1, 5⟩, none), (.push ⟨2, 5⟩, none), (.push ⟨3, 4⟩, none),
          (.remove ⟨2, 5⟩, some ⟨2, 5⟩)] t ∧ t.elems = {⟨1, 5⟩, ⟨3, 4⟩} ∧ t.checkNodes = true := by
  have h₁ : HeapOp.Step (LocHeapNode.null : LocHeapNode RankedTimer) (.push ⟨1, 5⟩, none)
      (.node 1 .null .null ⟨1, 5⟩) := rfl
  have h₂ : HeapOp.Step (.node 1 .null .null (⟨1, 5⟩ : RankedTimer)) (.push ⟨2, 5⟩, none)
      (.node 2 (.node 1 .null .null ⟨2, 5⟩) .null ⟨1, 5⟩) := by
    rw [HeapOp.Step]
    decide
  have h₃ : HeapOp.Step (.node 2 (.node 1 .null .null (⟨2, 5⟩ : RankedTimer)) .null ⟨1, 5⟩)
      (.push ⟨3, 4⟩, none)
      (.node 3 (.node 1 .null .null ⟨2, 5⟩) (.node 1 .null .null ⟨1, 5⟩) ⟨3, 4⟩) := by
    rw [HeapOp.Step]
    decide
  have h₄ : HeapOp.Step
      (.node 3 (.node 1 .null .null (⟨2, 5⟩ : RankedTimer)) (.node 1 .null .null ⟨1, 5⟩) ⟨3, 4⟩)
      (.remove ⟨2, 5⟩, some ⟨2, 5⟩) (.node 2 .null (.node 1 .null .null ⟨1, 5⟩) ⟨3, 4⟩) := by
    rw [HeapOp.Step]
    decide
  have hr := Run.cons h₁ (.cons h₂ (.cons h₃ (.cons h₄ (.nil _))))
  exact ⟨_, hr, by decide, (loc_heap_faithful hr).1.2.2.1⟩

end Gps
