import OcnDevice.Core.Alignment
import OcnDevice.Gps.Observer.Model

/-!
# Who is told of a batch

A batch of data items is copied into new ones, and the message thread writes these into the cache.
Every client of a changed item should then be called once, with the changed items it wants, each
once and with the value the cache has after the batch.

The clients of the changed items are put behind one another, item after item, and only copies that
are next to each other are dropped (`Together`).  So two clients that both want two changed items
are called in turns, each of them twice.  The items for a client come from an intersection of
sorted lists, in which an item is as often as both lists have it (`count_setIntersection`).
`CachedObserver.notified_iff` has the exact condition.

The classes of the data items are in a library of their own, which is a parameter here.
-/

open scoped SetAlgorithms

namespace Gps.Observer

variable {CT DIT V : Type*} [LinearOrder CT] [LinearOrder DIT]

/-! ## Data items -/

/-- The library of the data items.  A new item is null where the library does not know it; `copy`
into an item reports what the item is then, unless nothing was copied. -/
structure DataItemLib (DIT V : Type*) where
  createNewDataItem : DIT → Option V
  copy : V → V → Option V

namespace DataItemLib

variable (lib : DataItemLib DIT V)

/-- The library knows every data item. -/
def Complete : Prop := ∀ id, ∃ di, lib.createNewDataItem id = some di

/-- A data item after the other one was copied into it. -/
def copied (dst src : V) : V := (lib.copy dst src).getD dst

/-- The loop of `notify`: new items with the same contents, unless one cannot be created. -/
def notify : List (DIT × V) → Option (List (DIT × V))
  | [] => some []
  | each :: rest =>
      match lib.createNewDataItem each.1 with
      | none => none
      | some di => (notify rest).map fun dataItemList =>
          (each.1, lib.copied di each.2) :: dataItemList

/-- `updateCache`: the cache afterwards, and whether the item is new there or was copied. -/
def updateCache (cache : DIT → Option V) (d : DIT × V) : (DIT → Option V) × Bool :=
  match cache d.1 with
  | none =>
      match lib.createNewDataItem d.1 with
      | none => (cache, false)
      | some dataitem => (Function.update cache d.1 (some (lib.copied dataitem d.2)), true)
  | some old =>
      match lib.copy old d.2 with
      | none => (cache, false)
      | some di => (Function.update cache d.1 (some di), true)

end DataItemLib

/-! ## The observer -/

/-- The indexes, and the cache with the values of the items. -/
structure CachedObserver (CT DIT V : Type*) where
  mClientIndex : ClientIndex CT DIT
  mDataItemIndex : DataItemIndex CT DIT
  mDataItemCache : DIT → Option V

namespace CachedObserver

variable (lib : DataItemLib DIT V) (s : CachedObserver CT DIT V)

/-- `sendCachedDataItems`: the client that is called, and the items with what the cache has. -/
def sendCachedDataItems (l : List DIT) (client : CT) : CT × List (DIT × Option V) :=
  (client, l.map fun each => (each, s.mDataItemCache each))

/-- The first loop of `HandleNotify::proc`: the cache, and the items to be sent. -/
def updateAll (dlist : List (DIT × V)) : (DIT → Option V) × List DIT :=
  dlist.foldl (fun p item =>
    let updated := lib.updateCache p.1 item
    (updated.1, if updated.2 then p.2 ++ [item.1] else p.2)) (s.mDataItemCache, [])

/-- `HandleNotify::proc`: the observer, and the calls of clients. -/
def handleNotify (dlist : List (DIT × V)) :
    CachedObserver CT DIT V × List (CT × List (DIT × Option V)) :=
  let updated := s.updateAll lib dlist
  let s := { s with mDataItemCache := updated.1 }
  let toBeSent := updated.2.insertionSort (· ≤ ·)
  let clientList :=
    (updated.2.flatMap s.mDataItemIndex.getListOfSubscribedClients).destutter (· ≠ ·)
  (s, clientList.map fun client =>
    s.sendCachedDataItems (setIntersection toBeSent
      ((s.mClientIndex.getSubscribedList client).insertionSort (· ≤ ·))) client)

end CachedObserver

/-! ## Statement -/

namespace DataItemLib

variable (lib : DataItemLib DIT V)

omit [LinearOrder DIT] in
/-- What the cache has of an item after it was given a value. -/
def write (id : DIT) (cached : Option V) (src : V) : Option V :=
  match cached with
  | none => (lib.createNewDataItem id).map fun dataitem => lib.copied dataitem src
  | some old => some (lib.copied old src)

/-- **The value that a batch leaves in the cache** depends on what the batch has of this item
only. -/
def stored (id : DIT) (cached : Option V) (dlist : List (DIT × V)) : Option V :=
  ((dlist.filter fun d => d.1 = id).map Prod.snd).foldl (lib.write id) cached

/-- An item of a batch changes the cache: it is new there, or something was copied. -/
def Changes (cache : DIT → Option V) (d : DIT × V) : Prop :=
  ∀ old, cache d.1 = some old → lib.copy old d.2 ≠ none

instance (cache : DIT → Option V) (d : DIT × V) : Decidable (lib.Changes cache d) :=
  match h : cache d.1 with
  | none => .isTrue fun old hold => by simp [h] at hold
  | some old =>
      match hc : lib.copy old d.2 with
      | none => .isFalse fun hch => hch old h hc
      | some v => .isTrue fun old' hold => by
          rw [h, Option.some.injEq] at hold
          simp [← hold, hc]

/-- **The items of a batch whose value changed**, as often as it did. -/
def changedItems (cache : DIT → Option V) : List (DIT × V) → List DIT
  | [] => []
  | d :: rest =>
      (if lib.Changes cache d then [d.1] else []) ++
        changedItems (Function.update cache d.1 (lib.write d.1 (cache d.1) d.2)) rest

end DataItemLib

namespace CachedObserver

variable (lib : DataItemLib DIT V) (s : CachedObserver CT DIT V) (R : CT → DIT → Prop)
  (dlist : List (DIT × V))

/-- Both indexes have the relation between clients and data items. -/
structure Holds : Prop where
  client : ∀ client id, id ∈ s.mClientIndex.getSubscribedList client ↔ R client id
  dataItem : ∀ client id, client ∈ s.mDataItemIndex.getListOfSubscribedClients id ↔ R client id

/-- **A batch is notified right.** -/
structure Notified : Prop where
  once : ((s.handleNotify lib dlist).2.map Prod.fst).Nodup
  exactly : ∀ client, client ∈ (s.handleNotify lib dlist).2.map Prod.fst ↔
    ∃ id, R client id ∧ id ∈ lib.changedItems s.mDataItemCache dlist
  items : ∀ p ∈ (s.handleNotify lib dlist).2, (p.2.map Prod.fst).Nodup ∧
    ∀ id, id ∈ p.2.map Prod.fst ↔ R p.1 id ∧ id ∈ lib.changedItems s.mDataItemCache dlist
  values : ∀ p ∈ (s.handleNotify lib dlist).2, ∀ d ∈ p.2, d.2.isSome ∧
    d.2 = (s.handleNotify lib dlist).1.mDataItemCache d.1 ∧
    d.2 = lib.stored d.1 (s.mDataItemCache d.1) dlist

/-- **Nobody is between two entries of a client** where the clients of the changed items stand
behind one another, and no item that changed twice is twice in the list of a client. -/
structure Fits : Prop where
  clients : Together ((lib.changedItems s.mDataItemCache dlist).flatMap
    s.mDataItemIndex.getListOfSubscribedClients)
  items : ∀ client id, (lib.changedItems s.mDataItemCache dlist).count id ≤ 1 ∨
    (s.mClientIndex.getSubscribedList client).count id ≤ 1

end CachedObserver

/-! ## The cache -/

namespace DataItemLib

variable {lib : DataItemLib DIT V} {cache : DIT → Option V} {d : DIT × V} {dlist : List (DIT × V)}
  {id : DIT}

omit [LinearOrder DIT] in
/-- Every batch can be copied. -/
lemma exists_notify (hlib : lib.Complete) : ∃ batch, lib.notify dlist = some batch := by
  induction dlist with
  | nil => exact ⟨[], rfl⟩
  | cons each rest ih =>
      obtain ⟨di, hdi⟩ := hlib each.1
      obtain ⟨batch, hbatch⟩ := ih
      exact ⟨_, by rw [notify, hdi, hbatch]; rfl⟩

omit [LinearOrder DIT] in
lemma isSome_write (hlib : lib.Complete) {cached : Option V} {src : V} :
    (lib.write id cached src).isSome := by
  cases cached with
  | none =>
      obtain ⟨di, hdi⟩ := hlib id
      simp [write, hdi]
  | some old => rfl

/-- **What one item does to the cache.** -/
lemma updateCache_eq (hlib : lib.Complete) : lib.updateCache cache d =
    (Function.update cache d.1 (lib.write d.1 (cache d.1) d.2), decide (lib.Changes cache d)) := by
  cases hcache : cache d.1 with
  | none =>
      obtain ⟨di, hdi⟩ := hlib d.1
      simp [updateCache, write, Changes, hcache, hdi]
  | some old =>
      cases hcopy : lib.copy old d.2 with
      | none => simp [updateCache, write, copied, Changes, hcache, hcopy]
      | some v => simp [updateCache, write, copied, Changes, hcache, hcopy]

lemma stored_cons : lib.stored id (cache id) (d :: dlist) =
    lib.stored id (Function.update cache d.1 (lib.write d.1 (cache d.1) d.2) id) dlist := by
  rcases eq_or_ne d.1 id with rfl | hne
  · simp [stored]
  · simp [stored, hne, hne.symm]

/-- An item of the batch that changed has a value. -/
lemma isSome_stored (hlib : lib.Complete) (hid : id ∈ lib.changedItems cache dlist) :
    (lib.stored id (cache id) dlist).isSome := by
  have hkeep : ∀ (vs : List V) (cached : Option V), cached.isSome →
      (vs.foldl (lib.write id) cached).isSome := by
    intro vs
    induction vs with
    | nil => exact fun _ h => h
    | cons v vs ih => exact fun _ _ => ih _ (isSome_write hlib)
  induction dlist generalizing cache with
  | nil => exact absurd hid List.not_mem_nil
  | cons d rest ih =>
      rw [stored_cons]
      rcases List.mem_append.mp hid with hid | hid
      · split_ifs at hid
        · obtain rfl := List.mem_singleton.mp hid
          rw [Function.update_self]
          exact hkeep _ _ (isSome_write hlib)
        · exact absurd hid List.not_mem_nil
      · exact ih hid

end DataItemLib

namespace CachedObserver

variable {lib : DataItemLib DIT V} {s : CachedObserver CT DIT V} {R : CT → DIT → Prop}
  {dlist : List (DIT × V)} {client : CT} {id : DIT}

omit [LinearOrder CT] in
/-- **The first loop** leaves in the cache what the batch has of every item, and finds the changed
ones. -/
lemma updateAll_eq (hlib : lib.Complete) : s.updateAll lib dlist =
    (fun id => lib.stored id (s.mDataItemCache id) dlist,
      lib.changedItems s.mDataItemCache dlist) := by
  suffices h : ∀ (cache : DIT → Option V) (ids : List DIT),
      dlist.foldl (fun p item =>
        let updated := lib.updateCache p.1 item
        (updated.1, if updated.2 then p.2 ++ [item.1] else p.2)) (cache, ids) =
      (fun id => lib.stored id (cache id) dlist, ids ++ lib.changedItems cache dlist) by
    rw [updateAll, h, List.nil_append]
  induction dlist with
  | nil => intro cache ids; simp [DataItemLib.stored, DataItemLib.changedItems]
  | cons d rest ih =>
      intro cache ids
      rw [List.foldl_cons, DataItemLib.updateCache_eq hlib, ih]
      refine Prod.ext (funext fun id => DataItemLib.stored_cons.symm) ?_
      dsimp only
      rw [DataItemLib.changedItems]
      by_cases hch : lib.Changes cache d
      · simp [hch]
      · simp [hch]

/-! ## One batch -/

/-- The items for a client. -/
def itemsFor (lib : DataItemLib DIT V) (s : CachedObserver CT DIT V) (dlist : List (DIT × V))
    (client : CT) : List DIT :=
  setIntersection ((lib.changedItems s.mDataItemCache dlist).insertionSort (· ≤ ·))
    ((s.mClientIndex.getSubscribedList client).insertionSort (· ≤ ·))

/-- The observer after a batch. -/
lemma handleNotify_fst (hlib : lib.Complete) : (s.handleNotify lib dlist).1.mDataItemCache id =
    lib.stored id (s.mDataItemCache id) dlist := by
  rw [handleNotify, updateAll_eq hlib]

/-- The calls for a batch. -/
lemma handleNotify_snd (hlib : lib.Complete) : (s.handleNotify lib dlist).2 =
    (((lib.changedItems s.mDataItemCache dlist).flatMap
      s.mDataItemIndex.getListOfSubscribedClients).destutter (· ≠ ·)).map fun client =>
      (client, (s.itemsFor lib dlist client).map fun id =>
        (id, lib.stored id (s.mDataItemCache id) dlist)) := by
  rw [handleNotify, updateAll_eq hlib]
  rfl

lemma map_fst_handleNotify (hlib : lib.Complete) : (s.handleNotify lib dlist).2.map Prod.fst =
    ((lib.changedItems s.mDataItemCache dlist).flatMap
      s.mDataItemIndex.getListOfSubscribedClients).destutter (· ≠ ·) := by
  rw [handleNotify_snd hlib, List.map_map]
  exact List.map_id _

/-- **A client gets an item as often as it changed and the list of the client has it.** -/
lemma count_itemsFor : (s.itemsFor lib dlist client).count id =
    min ((lib.changedItems s.mDataItemCache dlist).count id)
      ((s.mClientIndex.getSubscribedList client).count id) := by
  rw [itemsFor, count_setIntersection (List.pairwise_insertionSort _ _)
    (List.pairwise_insertionSort _ _), (List.perm_insertionSort _ _).count_eq,
    (List.perm_insertionSort _ _).count_eq]

/-- A client of a changed item is called. -/
lemma mem_clients (hlib : lib.Complete) (hs : s.Holds R) :
    client ∈ (s.handleNotify lib dlist).2.map Prod.fst ↔
      ∃ id, R client id ∧ id ∈ lib.changedItems s.mDataItemCache dlist := by
  rw [map_fst_handleNotify hlib, mem_destutter_ne, List.mem_flatMap]
  simp only [hs.dataItem, and_comm]

/-- What a call is. -/
lemma map_fst_of_mem (hlib : lib.Complete) {p : CT × List (DIT × Option V)}
    (hp : p ∈ (s.handleNotify lib dlist).2) :
    p.2.map Prod.fst = s.itemsFor lib dlist p.1 ∧
      ∀ d ∈ p.2, d.1 ∈ s.itemsFor lib dlist p.1 ∧
        d.2 = lib.stored d.1 (s.mDataItemCache d.1) dlist := by
  rw [handleNotify_snd hlib, List.mem_map] at hp
  obtain ⟨client, -, rfl⟩ := hp
  refine ⟨?_, fun d hd => ?_⟩
  · rw [List.map_map]
    exact List.map_id _
  · obtain ⟨id, hid, rfl⟩ := List.mem_map.mp hd
    exact ⟨hid, rfl⟩

lemma mem_itemsFor (hs : s.Holds R) : id ∈ s.itemsFor lib dlist client ↔
    R client id ∧ id ∈ lib.changedItems s.mDataItemCache dlist := by
  rw [← hs.client, ← List.count_pos_iff, ← List.count_pos_iff, ← List.count_pos_iff, count_itemsFor]
  omega

/-- **A batch is notified right** just if no client comes in turns with another one and no item
twice. -/
lemma notified_iff_fits (hlib : lib.Complete) (hs : s.Holds R) :
    s.Notified lib R dlist ↔ s.Fits lib dlist := by
  constructor
  · intro h
    refine ⟨?_, fun client id => ?_⟩
    · rw [← nodup_destutter_iff, ← map_fst_handleNotify hlib]
      exact h.once
    · by_contra! htwice
      have hitem : id ∈ s.itemsFor lib dlist client := by
        rw [← List.count_pos_iff, count_itemsFor]
        omega
      obtain ⟨p, hp, rfl⟩ := List.mem_map.mp
        ((mem_clients hlib hs).mpr ⟨id, (mem_itemsFor hs).mp hitem⟩)
      have hn := (h.items p hp).1
      rw [(map_fst_of_mem hlib hp).1] at hn
      have hle := List.nodup_iff_count_le_one.mp hn id
      rw [count_itemsFor] at hle
      omega
  · intro h
    constructor
    · rw [map_fst_handleNotify hlib]
      exact nodup_destutter_iff.mpr h.clients
    · exact fun client => mem_clients hlib hs
    · intro p hp
      rw [(map_fst_of_mem hlib hp).1]
      refine ⟨List.nodup_iff_count_le_one.mpr fun id => ?_, fun id => mem_itemsFor hs⟩
      rw [count_itemsFor]
      have hcount := h.items p.1 id
      omega
    · intro p hp d hd
      obtain ⟨hitem, hvalue⟩ := (map_fst_of_mem hlib hp).2 d hd
      rw [hvalue, handleNotify_fst hlib]
      exact ⟨DataItemLib.isSome_stored hlib ((mem_itemsFor hs).mp hitem).2, rfl, rfl⟩

/-! ## The observer without the values -/

/-- The items of a batch with what copying them reports. -/
def reported (lib : DataItemLib DIT V) (cache : DIT → Option V) : List (DIT × V) → List (DIT × Bool)
  | [] => []
  | d :: rest => (d.1, decide (lib.Changes cache d)) ::
      reported lib (Function.update cache d.1 (lib.write d.1 (cache d.1) d.2)) rest

/-- The observer that has the same indexes, and the same items in its cache. -/
structure Forgets (s : CachedObserver CT DIT V) (x : SystemStatusOsObserver CT DIT) : Prop where
  client : x.mClientIndex = s.mClientIndex
  dataItem : x.mDataItemIndex = s.mDataItemIndex
  cache : ∀ id, id ∈ x.mDataItemCache ↔ (s.mDataItemCache id).isSome

omit [LinearOrder CT] in
/-- One item without its value. -/
lemma updateCache_reported (hlib : lib.Complete) {cache : DIT → Option V} {known : List DIT}
    {d : DIT × V} (hknown : ∀ id, id ∈ known ↔ (cache id).isSome) :
    let updated := SystemStatusOsObserver.updateCache known (d.1, decide (lib.Changes cache d))
    updated.2 = decide (lib.Changes cache d) ∧ ∀ id, id ∈ updated.1 ↔
      (Function.update cache d.1 (lib.write d.1 (cache d.1) d.2) id).isSome := by
  have hwritten : (lib.write d.1 (cache d.1) d.2).isSome := DataItemLib.isSome_write hlib
  dsimp only
  rw [SystemStatusOsObserver.updateCache]
  split_ifs with hmem
  · refine ⟨rfl, fun id => ?_⟩
    rcases eq_or_ne id d.1 with rfl | hid
    · simp [hmem, hwritten]
    · rw [Function.update_of_ne hid, hknown]
  · have hnone : cache d.1 = none := by simpa [hknown] using hmem
    refine ⟨by simp [DataItemLib.Changes, hnone], fun id => ?_⟩
    rcases eq_or_ne id d.1 with rfl | hid
    · simp [hwritten]
    · rw [Function.update_of_ne hid, List.mem_cons, ← hknown]
      simp [hid]

omit [LinearOrder CT] in
/-- The first loop without the values. -/
lemma updateAll_reported (hlib : lib.Complete) (dlist : List (DIT × V))
    {x : SystemStatusOsObserver CT DIT} (hx : s.Forgets x) :
    (x.updateAll (reported lib s.mDataItemCache dlist)).2 =
        lib.changedItems s.mDataItemCache dlist ∧
      ∀ id, id ∈ (x.updateAll (reported lib s.mDataItemCache dlist)).1 ↔
        (lib.stored id (s.mDataItemCache id) dlist).isSome := by
  suffices h : ∀ (cache : DIT → Option V) (known ids : List DIT),
      (∀ id, id ∈ known ↔ (cache id).isSome) →
      let p := (reported lib cache dlist).foldl (fun p item =>
        let updated := SystemStatusOsObserver.updateCache p.1 item
        (updated.1, if updated.2 then p.2 ++ [item.1] else p.2)) (known, ids)
      p.2 = ids ++ lib.changedItems cache dlist ∧
        ∀ id, id ∈ p.1 ↔ (lib.stored id (cache id) dlist).isSome by
    exact h s.mDataItemCache x.mDataItemCache [] hx.cache
  induction dlist with
  | nil =>
      intro cache known ids hknown
      exact ⟨by simp [reported, DataItemLib.changedItems], fun id => by
        simp [reported, DataItemLib.stored, hknown]⟩
  | cons d rest ih =>
      intro cache known ids hknown
      obtain ⟨hflag, hnext⟩ := updateCache_reported (d := d) hlib hknown
      have hrest := ih (Function.update cache d.1 (lib.write d.1 (cache d.1) d.2))
        (SystemStatusOsObserver.updateCache known (d.1, decide (lib.Changes cache d))).1
        (if decide (lib.Changes cache d) then ids ++ [d.1] else ids) hnext
      dsimp only at hrest ⊢
      rw [reported, List.foldl_cons, hflag]
      refine ⟨?_, fun id => ?_⟩
      · rw [hrest.1, DataItemLib.changedItems]
        by_cases hch : lib.Changes cache d
        · simp [hch]
        · simp [hch]
      · rw [hrest.2, DataItemLib.stored_cons]

/-- **The values make no difference to who is called, and for which items.** -/
lemma handleNotify_reported (hlib : lib.Complete) {x : SystemStatusOsObserver CT DIT}
    (hx : s.Forgets x) :
    (s.handleNotify lib dlist).1.Forgets (x.handleNotify (reported lib s.mDataItemCache dlist)).1 ∧
      (x.handleNotify (reported lib s.mDataItemCache dlist)).2 =
        (s.handleNotify lib dlist).2.map fun p => .notify p.1 (p.2.map Prod.fst) := by
  obtain ⟨hsent, hknown⟩ := updateAll_reported hlib dlist hx
  constructor
  · refine ⟨hx.client, hx.dataItem, fun id => ?_⟩
    rw [handleNotify_fst hlib]
    exact hknown id
  · rw [handleNotify_snd hlib, SystemStatusOsObserver.handleNotify]
    dsimp only
    rw [hsent, hx.client, hx.dataItem, List.map_map, List.map_eq_flatMap]
    refine List.flatMap_congr fun client _ => ?_
    have hids : (s.itemsFor lib dlist client).map (Prod.fst ∘ fun id =>
        (id, lib.stored id (s.mDataItemCache id) dlist)) = s.itemsFor lib dlist client :=
      List.map_id _
    rw [SystemStatusOsObserver.sendCachedDataItems, Function.comp_apply, List.map_map, hids]
    rfl

/-- **Who is told of a batch.**  The library knows every data item and both indexes have the
relation; then every batch is posted, and it is notified right just if nobody is between two
entries of a client where the clients of the changed items stand behind one another, and no item
that changed twice is twice in the list of a client. -/
theorem notified_iff (lib : DataItemLib DIT V) (hlib : lib.Complete) (s : CachedObserver CT DIT V)
    (R : CT → DIT → Prop) (hs : s.Holds R) (dlist : List (DIT × V)) :
    ∃ batch, lib.notify dlist = some batch ∧ (s.Notified lib R batch ↔ s.Fits lib batch) := by
  obtain ⟨batch, hbatch⟩ := DataItemLib.exists_notify hlib
  exact ⟨batch, hbatch, notified_iff_fits hlib hs⟩

/-- Data items that are numbers: a new one is zero, and only another number is copied. -/
def numbers : DataItemLib ℕ ℕ where
  createNewDataItem _ := some 0
  copy old src := if old = src then none else some src

lemma complete_numbers : numbers.Complete := fun _ => ⟨0, rfl⟩

/-- An index in which two keys have the same two entries. -/
def twoByTwo : ListMap ℕ ℕ := AList.insert 2 [1, 2] (AList.insert 1 [1, 2] ∅)

lemma mem_twoByTwo {a b : ℕ} : b ∈ twoByTwo.listOf a ↔ (a = 1 ∨ a = 2) ∧ (b = 1 ∨ b = 2) := by
  rw [twoByTwo]
  rcases eq_or_ne a 2 with rfl | h2
  · simp
  · rw [ListMap.listOf_insert_ne h2]
    rcases eq_or_ne a 1 with rfl | h1
    · rw [ListMap.listOf_insert]
      simp
    · rw [ListMap.listOf_insert_ne h1, ListMap.listOf_empty]
      simp [h1, h2]

/-- Two clients that both want the same two items. -/
def twoClients (cache : ℕ → Option ℕ) : CachedObserver ℕ ℕ ℕ where
  mClientIndex := twoByTwo
  mDataItemIndex := twoByTwo
  mDataItemCache := cache

lemma holds_twoClients {cache : ℕ → Option ℕ} :
    (twoClients cache).Holds fun client id => (client = 1 ∨ client = 2) ∧ (id = 1 ∨ id = 2) :=
  ⟨fun _ _ => mem_twoByTwo, fun _ _ => mem_twoByTwo.trans and_comm⟩

/-- **Two clients are called twice each**, in turns, for a batch with two items that both want. -/
theorem clients_called_twice :
    ¬∀ (lib : DataItemLib ℕ ℕ) (s : CachedObserver ℕ ℕ ℕ) (R : ℕ → ℕ → Prop)
      (dlist batch : List (ℕ × ℕ)), lib.Complete → s.Holds R → lib.notify dlist = some batch →
      s.Notified lib R batch := by
  intro hall
  have honce := (hall numbers (twoClients fun _ => none) _ [(1, 7), (2, 8)] [(1, 7), (2, 8)]
    complete_numbers holds_twoClients rfl).once
  have hcalls : ((twoClients fun _ => none).handleNotify numbers [(1, 7), (2, 8)]).2.map Prod.fst =
      [1, 2, 1, 2] := by decide
  rw [hcalls] at honce
  exact absurd honce (by decide)

/-- One of the two items has its value already, so both clients are called once. -/
theorem notified_one_changed : ∃ batch, numbers.notify [(1, 7), (2, 8)] = some batch ∧
    (twoClients fun id => if id = 2 then some 8 else none).Notified numbers
      (fun client id => (client = 1 ∨ client = 2) ∧ (id = 1 ∨ id = 2)) batch := by
  obtain ⟨batch, hbatch, hiff⟩ := notified_iff numbers complete_numbers
    (twoClients fun id => if id = 2 then some 8 else none) _ holds_twoClients [(1, 7), (2, 8)]
  refine ⟨batch, hbatch, hiff.mpr ?_⟩
  obtain rfl : [(1, 7), (2, 8)] = batch := Option.some.inj hbatch
  have hchanged : numbers.changedItems (fun id => if id = 2 then some 8 else none)
      [(1, 7), (2, 8)] = [1] := by decide
  constructor
  · rw [twoClients, hchanged]
    exact .of_nodup (by decide)
  · intro client id
    rw [twoClients, hchanged]
    exact Or.inl List.count_le_length

end CachedObserver

end Gps.Observer
