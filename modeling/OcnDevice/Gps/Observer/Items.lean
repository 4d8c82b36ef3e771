import OcnDevice.Core.Alignment
import OcnDevice.Core.Loop
import OcnDevice.Core.Run
import OcnDevice.Gps.Observer.Indexes

/-!
# The index of clients as sets

Adding items to a client should make its items the union and return the new ones, and removing items
should make them the difference and return the removed ones, whatever the order of the lists.

The lists are never sorted, neither those that are passed nor those that are stored, and the set
operations on them are right just where the lists are in step (`IndexOp.Fits`).  As long as that is
so no item is stored twice, and the order of what is stored makes no difference (`items_are_sets`).
-/

open scoped SetAlgorithms

namespace Gps.Observer

variable {CT DIT : Type*} [LinearOrder CT] [LinearOrder DIT]

/-! ## Operations -/

namespace ClientIndex

/-- One pass of `remove (r, out)`. -/
def removePass (r : List DIT) (p : ClientIndex CT DIT × List CT) (client : CT) :
    ClientIndex CT DIT × List CT :=
  let left := (p.1.listOf client).diff r
  if left = [] then (p.1.erase client, p.2 ++ [client]) else (p.1.insert client left, p.2)

/-- `remove (r, out)`: the items leave the list of every client, in the order of the clients, and
the clients that nothing is left for are returned. -/
def removeEverywhere (x : ClientIndex CT DIT) (r : List DIT) : ClientIndex CT DIT × List CT :=
  (x.keys.insertionSort (· ≤ ·)).foldl (removePass r) (x, [])

end ClientIndex

/-- An operation that changes the index. -/
inductive IndexOp (CT DIT : Type*)
  | add (client : CT) (l : List DIT)
  | removeItems (client : CT) (r : List DIT)
  | remove (client : CT)
  | removeEverywhere (r : List DIT)

namespace IndexOp

variable (x : ClientIndex CT DIT)

/-- The index behind an operation. -/
def call : IndexOp CT DIT → ClientIndex CT DIT
  | add client l => (x.add client l).1
  | removeItems client r => (x.removeItems client r).1
  | remove client => (x.remove client).1
  | removeEverywhere r => (x.removeEverywhere r).1

/-- The items that an operation returns. -/
def out : IndexOp CT DIT → List DIT
  | add client l => (x.add client l).2
  | removeItems client r => (x.removeItems client r).2
  | remove _ => []
  | removeEverywhere _ => []

/-- An operation happens. -/
def Step (x : ClientIndex CT DIT) (op : IndexOp CT DIT) (y : ClientIndex CT DIT) : Prop :=
  op.call x = y

/-! ## Statement -/

/-- What an operation makes of the items of the clients. -/
def After (S : CT → DIT → Prop) (c : CT) (d : DIT) : IndexOp CT DIT → Prop
  | add client l => S c d ∨ (c = client ∧ d ∈ l)
  | removeItems client r => S c d ∧ ¬(c = client ∧ d ∈ r)
  | remove client => S c d ∧ c ≠ client
  | removeEverywhere r => S c d ∧ d ∉ r

/-- What an operation returns: the new items, or the removed ones. -/
def Returned (S : CT → DIT → Prop) (d : DIT) : IndexOp CT DIT → Prop
  | add client l => d ∈ l ∧ ¬S client d
  | removeItems client r => S client d ∧ d ∈ r
  | remove _ => False
  | removeEverywhere _ => False

/-- **The operation is one on sets**, and leaves no item twice. -/
structure Right (op : IndexOp CT DIT) : Prop where
  after : ∀ c d, d ∈ (op.call x).listOf c ↔ op.After (fun c d => d ∈ x.listOf c) c d
  returned : ∀ d, d ∈ op.out x ↔ op.Returned (fun c d => d ∈ x.listOf c) d
  nodup : ∀ c, ((op.call x).listOf c).Nodup

/-- What is added to a list is in step with it, and a new list has no item twice. -/
def AddFits (l : List DIT) : Option (List DIT) → Prop
  | none => l.Nodup
  | some items => Aligned l items (l.filter (· ∈ items))

instance (l : List DIT) : (stored : Option (List DIT)) → Decidable (AddFits l stored)
  | none => inferInstanceAs (Decidable l.Nodup)
  | some items => inferInstanceAs (Decidable (Aligned l items (l.filter (· ∈ items))))

/-- **The lists are in step**: what the passed list and the stored one have in common comes in the
same order in both, with only smaller items in front. -/
def Fits : IndexOp CT DIT → Prop
  | add client l => AddFits l (x.lookup client)
  | removeItems client r =>
      Aligned (x.listOf client) r ((x.listOf client).filter (· ∈ r))
  | remove _ => True
  | removeEverywhere _ => True

instance : (op : IndexOp CT DIT) → Decidable (op.Fits x)
  | add client l => inferInstanceAs (Decidable (AddFits l (x.lookup client)))
  | removeItems client r => inferInstanceAs
      (Decidable (Aligned (x.listOf client) r ((x.listOf client).filter (· ∈ r))))
  | remove _ => inferInstanceAs (Decidable True)
  | removeEverywhere _ => inferInstanceAs (Decidable True)

end IndexOp

/-- A step whose lists are in step. -/
def IndexOp.FitStep (x : ClientIndex CT DIT) (op : IndexOp CT DIT) (y : ClientIndex CT DIT) : Prop :=
  op.Fits x ∧ op.Step x y

/-- Two indexes have the same items, in whatever order. -/
def SameItems (x y : ClientIndex CT DIT) : Prop := ∀ c d, d ∈ x.listOf c ↔ d ∈ y.listOf c

/-! ## One operation -/

section Operations

variable {x y : ClientIndex CT DIT} {c client : CT} {d : DIT} {l r : List DIT}
  {op : IndexOp CT DIT}

/-- An operation that changes the list of one client is right if that list is. -/
lemma IndexOp.Right.of_client (hn : ∀ c, (x.listOf c).Nodup)
    (hne : ∀ c, c ≠ client → (op.call x).listOf c = x.listOf c ∧
      ∀ d, op.After (fun c d => d ∈ x.listOf c) c d ↔ d ∈ x.listOf c)
    (hafter : ∀ d, d ∈ (op.call x).listOf client ↔ op.After (fun c d => d ∈ x.listOf c) client d)
    (hreturned : ∀ d, d ∈ op.out x ↔ op.Returned (fun c d => d ∈ x.listOf c) d)
    (hnodup : ((op.call x).listOf client).Nodup) : op.Right x := by
  refine ⟨fun c d => ?_, hreturned, fun c => ?_⟩
  · rcases eq_or_ne c client with rfl | hc
    · exact hafter d
    · rw [(hne c hc).1, (hne c hc).2]
  · rcases eq_or_ne c client with rfl | hc
    · exact hnodup
    · rw [(hne c hc).1]
      exact hn c

/-- What `add` returns for a client that it knows. -/
lemma ClientIndex.mem_out_add {items : List DIT} (hx : x.lookup client = some items) :
    d ∈ (x.add client l).2 ↔ d ∈ setDifference l items := by
  rw [add, ListMap.addSorted, hx]
  dsimp only
  split_ifs with hdiff
  · simp [hdiff]
  · simp [List.mem_insertionSort]

/-- **Adding is right** just if the lists are in step. -/
lemma IndexOp.right_add_iff (hn : ∀ c, (x.listOf c).Nodup) :
    (add client l).Right x ↔ (add client l).Fits x := by
  have hne : ∀ c, c ≠ client → ((add client l).call x).listOf c = x.listOf c ∧
      ∀ d, (add client l).After (fun c d => d ∈ x.listOf c) c d ↔ d ∈ x.listOf c := fun c hc =>
    ⟨ClientIndex.listOf_add_ne hc, fun d => by simp [After, hc]⟩
  cases hx : x.lookup client with
  | none =>
      have hnew : x.add client l = (x.insert client l, l) := by
        rw [ClientIndex.add, ListMap.addSorted, hx]
      have hlist : (x.add client l).1.listOf client = l := by
        rw [hnew, ListMap.listOf_insert]
      have hfits : (add client l).Fits x ↔ l.Nodup := by
        rw [Fits, hx, AddFits]
      rw [hfits]
      constructor
      · intro h
        have hl := h.nodup client
        rwa [call, hlist] at hl
      · intro hl
        refine .of_client hn hne (fun d => ?_) (fun d => ?_) ?_
        · rw [call, hlist]
          simp [After, ListMap.listOf_of_none hx]
        · rw [out, hnew]
          simp [Returned, ListMap.listOf_of_none hx]
        · rwa [call, hlist]
  | some items =>
      have hlist := ListMap.listOf_of_some hx
      have hfits : (add client l).Fits x ↔ ∀ d ∈ setDifference l items, d ∉ items := by
        rw [Fits, hx, AddFits, disjoint_setDifference_iff]
      rw [hfits]
      constructor
      · intro h d hd
        have hd := (h.returned d).mp (ClientIndex.mem_out_add hx |>.mpr hd)
        exact hlist ▸ hd.2
      · intro hdisj
        have hmem : ∀ d, d ∈ setDifference l items ↔ d ∈ l ∧ d ∉ items := fun d =>
          ⟨fun hd => ⟨setDifference_sublist.subset hd, hdisj d hd⟩,
            fun hd => mem_setDifference_of_not_mem hd.1 hd.2⟩
        refine .of_client hn hne (fun d => ?_) (fun d => ?_) ?_
        · rw [call, ClientIndex.mem_add, hlist, hx, hmem]
          by_cases hd : d ∈ items <;> simp [After, hlist, hd]
        · rw [out, ClientIndex.mem_out_add hx, hmem]
          simp [Returned, hlist]
        · have hitems : items.Nodup := hlist ▸ hn client
          rw [call, ClientIndex.add, ListMap.addSorted, hx]
          dsimp only
          split_ifs
          · rwa [hlist]
          · rw [ListMap.listOf_insert]
            exact nodup_sortMerge hitems hdisj

/-- **Removing is right** just if the lists are in step. -/
lemma IndexOp.right_removeItems_iff (hn : ∀ c, (x.listOf c).Nodup) :
    (removeItems client r).Right x ↔ (removeItems client r).Fits x := by
  have hout : (removeItems client r).out x = setIntersection (x.listOf client) r := by
    rw [out, ClientIndex.removeItems, ListMap.removeFound]
    split
    · rename_i hx
      rw [ListMap.listOf_of_none hx]
      rfl
    · rename_i items hx
      rw [ListMap.listOf_of_some hx]
  rw [Fits, ← mem_setIntersection_iff (hn client)]
  constructor
  · intro h d
    rw [← hout]
    exact h.returned d
  · intro h
    refine .of_client hn (fun c hc => ⟨ClientIndex.listOf_removeItems_ne hc, fun d => ?_⟩)
      (fun d => ?_) (fun d => ?_) ?_
    · simp [After, hc]
    · rw [call, ClientIndex.listOf_removeItems, (hn client).mem_sdiff_iff, h]
      simp only [After]
      tauto
    · rw [hout]
      exact h d
    · rw [call, ClientIndex.listOf_removeItems]
      exact (hn client).diff

/-- The lists of all clients lose the items. -/
lemma ClientIndex.listOf_removeEverywhere :
    (x.removeEverywhere r).1.listOf c = (x.listOf c).diff r := by
  have hkeys := List.perm_insertionSort (· ≤ ·) x.keys
  have hgo := foldl_invariant (l := x.keys.insertionSort (· ≤ ·)) (f := removePass r) (s := (x, []))
    (P := fun done p => ∀ c, p.1.listOf c = if c ∈ done then (x.listOf c).diff r else x.listOf c)
    (fun c => by simp) (by
      intro done client rest p hl hp c
      have hnot : client ∉ done := by
        have hnd := (hkeys.nodup_iff.mpr x.nodupKeys)
        rw [hl, List.nodup_append] at hnd
        exact fun hmem => hnd.2.2 client hmem client List.mem_cons_self rfl
      have hclient := hp client
      rw [if_neg hnot] at hclient
      rw [removePass, hclient]
      rcases eq_or_ne c client with rfl | hc
      · have hmem : c ∈ done ++ [c] := by simp
        rw [if_pos hmem]
        split_ifs with hleft
        · rw [hleft, ListMap.listOf_erase]
        · rw [ListMap.listOf_insert]
      · have hmem : c ∈ done ++ [client] ↔ c ∈ done := by simp [hc]
        rw [if_congr hmem rfl rfl, ← hp c]
        split_ifs
        · rw [ListMap.listOf_erase_ne hc]
        · rw [ListMap.listOf_insert_ne hc]) c
  rw [removeEverywhere, hgo]
  split_ifs with hc
  · rfl
  · have hnone : x.lookup c = none :=
      AList.lookup_eq_none.mpr fun hmem => hc (hkeys.mem_iff.mpr hmem)
    rw [ListMap.listOf_of_none hnone, List.nil_diff]

/-- **An operation is right** just if its lists are in step. -/
lemma IndexOp.right_iff (hn : ∀ c, (x.listOf c).Nodup) : op.Right x ↔ op.Fits x := by
  cases op with
  | add client l => exact right_add_iff hn
  | removeItems client r => exact right_removeItems_iff hn
  | remove client =>
      refine iff_of_true (.of_client hn (fun c (hc : c ≠ client) => ⟨?_, fun d => ?_⟩)
        (fun d => ?_) (fun d => ?_) ?_) trivial
      · rw [call, ClientIndex.remove, ListMap.listOf_erase_ne hc]
      · simp [After, hc]
      · simp [After, call, ClientIndex.remove]
      · simp [Returned, out]
      · simp [call, ClientIndex.remove]
  | removeEverywhere r =>
      refine iff_of_true ⟨fun c d => ?_, fun d => ?_, fun c => ?_⟩ trivial
      · rw [call, ClientIndex.listOf_removeEverywhere, (hn c).mem_sdiff_iff]
        rfl
      · simp [Returned, out]
      · rw [call, ClientIndex.listOf_removeEverywhere]
        exact (hn c).diff

/-- What was right for two indexes with the same items has the same result. -/
lemma SameItems.call (h : SameItems x y) (hx : op.Right x) (hy : op.Right y) :
    SameItems (op.call x) (op.call y) ∧ ∀ d, d ∈ op.out x ↔ d ∈ op.out y := by
  have hrel : (fun c d => d ∈ x.listOf c) = fun c d => d ∈ y.listOf c := by
    funext c d
    exact propext (h c d)
  constructor
  · intro c d
    rw [hx.after, hy.after, hrel]
  · intro d
    rw [hx.returned, hy.returned, hrel]

end Operations

/-! ## Runs -/

/-- **No item is stored twice** where all lists were in step. -/
lemma IndexOp.nodup_of_run {x : ClientIndex CT DIT} {ops : List (IndexOp CT DIT)}
    (hr : Run FitStep ∅ ops x) (c : CT) : (x.listOf c).Nodup := by
  refine hr.invariant (P := fun x : ClientIndex CT DIT => ∀ c, (x.listOf c).Nodup) ?_ (by simp) c
  rintro x op y hn ⟨hfits, rfl⟩
  exact ((right_iff hn).mpr hfits).nodup

/-- **The index of clients is one of sets** as long as the lists are in step: no item is stored
twice, an operation is right just if its lists are in step, and then the order of what is stored
makes no difference. -/
theorem items_are_sets {x : ClientIndex CT DIT} {ops : List (IndexOp CT DIT)}
    (hr : Run IndexOp.FitStep ∅ ops x) :
    (∀ c, (x.listOf c).Nodup) ∧ (∀ op : IndexOp CT DIT, op.Right x ↔ op.Fits x) ∧
    ∀ (y : ClientIndex CT DIT) (ops' : List (IndexOp CT DIT)), Run IndexOp.FitStep ∅ ops' y →
      SameItems x y → ∀ op : IndexOp CT DIT, op.Fits x → op.Fits y →
        SameItems (op.call x) (op.call y) ∧ ∀ d, d ∈ op.out x ↔ d ∈ op.out y := by
  have hn := IndexOp.nodup_of_run hr
  refine ⟨hn, fun op => IndexOp.right_iff hn, fun y ops' hr' hsame op hx hy => ?_⟩
  exact hsame.call ((IndexOp.right_iff hn).mpr hx)
    ((IndexOp.right_iff (IndexOp.nodup_of_run hr')).mpr hy)

/-- **An item is returned as new that is stored.**  A client asks for two items in descending order,
and then for the smaller one. -/
theorem stored_item_is_new :
    ¬∀ (x : ClientIndex ℕ ℕ) (ops : List (IndexOp ℕ ℕ)), Run IndexOp.Step ∅ ops x →
      (∀ c, (x.listOf c).Nodup) ∧ ∀ op : IndexOp ℕ ℕ, op.Right x := by
  intro hall
  have hr : Run IndexOp.Step ∅ [IndexOp.add 7 [2, 1]] _ := .snoc (.nil ∅) rfl
  have hright := (hall _ _ hr).2 (.add 7 [1])
  have hnew := (hright.returned 1).mp (by decide)
  exact hnew.2 (by decide)

/-- A client asks for two items in descending order, and gives them back in the same order. -/
theorem items_are_sets_descending :
    ∃ (x : ClientIndex ℕ ℕ) (ops : List (IndexOp ℕ ℕ)), ops.length = 2 ∧
      Run IndexOp.FitStep ∅ ops x ∧ ∀ c, (x.listOf c).Nodup := by
  have hr : Run IndexOp.FitStep ∅ [IndexOp.add 7 [2, 1], .removeItems 7 [2, 1]] _ :=
    .snoc (.snoc (.nil (∅ : ClientIndex ℕ ℕ)) ⟨by decide, rfl⟩) ⟨by decide, rfl⟩
  exact ⟨_, _, rfl, hr, (items_are_sets hr).1⟩

end Gps.Observer
