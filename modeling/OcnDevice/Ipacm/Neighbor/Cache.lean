import OcnDevice.Ipacm.Neighbor.Model

/-!
# What the neighbor cache remembers

The entries are a set of clients with distinct MAC addresses (`WellFormed`), and every event does
one of four things to it: an entry is changed, put behind the others, recycled, or cleaned
(`change`).  Each of the four has its equation for `clients`, and the rest is about sets.

A client that comes with an IPv4 address on an interface other than the bridge is remembered if it
was seen before or if there is a free element.  If an element is recycled for it the address is
not stored, so nothing is posted when the client connects again: a run is right just if no client
came that way to a full cache (`neighbor_right_iff`).
-/

namespace Ipacm.NeighCache

/-! ## Statement -/

/-- An IPv4 address that clients are remembered with, on an interface other than the bridge. -/
structure EventDataAll.Plain (ipaVirtualIfaceName : String) (data : EventDataAll) (addr : UInt32) :
    Prop where
  addr_eq : data.addr = .v4 addr
  ne_zero : addr ≠ 0
  not_linkLocal : isLinkLocal addr = false
  not_bridge : ipaVirtualIfaceName ≠ data.ifaceName

/-- The event is none of a neighbor that has the MAC address and an IPv4 address. -/
def Event.Silent (mac : Mac) : Event → Prop
  | .neigh _ data _ => data.macAddr = mac → ∀ addr, data.addr ≠ .v4 addr
  | .wlanClientAddEx _ _ => True

namespace Neighbor

variable (ipaVirtualIfaceName : String) (s : Neighbor)

/-- The entries. -/
def clients : Set NeighborClient := {c | ∃ i < s.numNeighborClient, s.neighborClient i = c}

/-- The MAC addresses of the entries are distinct, and all of them are in the array. -/
structure WellFormed : Prop where
  bound : s.numNeighborClient ≤ ipaMaxNumNeighborClients
  circular : s.circularIndex < ipaMaxNumNeighborClients
  distinct : ∀ i < s.numNeighborClient, ∀ j < s.numNeighborClient,
    (s.neighborClient i).macAddr = (s.neighborClient j).macAddr → i = j

/-- Nothing was said of the address of a client, which stayed in the cache. -/
def StayStep (mac : Mac) (s : Neighbor) (e : Event) (t : Neighbor) : Prop :=
  e.Silent mac ∧ s.Step ipaVirtualIfaceName e t ∧ ∃ c ∈ t.clients, c.macAddr = mac

/-- When the client connects again, its address is posted. -/
def Reposts (mac : Mac) (ipaInterfaceIndex : ℕ) (addr : UInt32) : Prop :=
  ∀ (data : WlanEx) (tableName : String), data.clientMacAddr = mac →
    ipaVirtualIfaceName ≠ tableName → ∃ ifaceName,
      (s.eventCallback ipaVirtualIfaceName
        (.wlanClientAddEx data (some (ipaInterfaceIndex, tableName)))).2 =
          [.ipAddrAdd ⟨data.ifIndex, ifaceName, mac, .v4 addr⟩]

/-- A client is remembered with the address it came with. -/
structure Remembers (data : EventDataAll) (ipaInterfaceIndex : ℕ) (addr : UInt32) : Prop where
  stored : ⟨data.macAddr, data.ifIndex, addr, ipaInterfaceIndex, data.ifaceName⟩ ∈ s.clients
  reposts : ∀ es u, Run (StayStep ipaVirtualIfaceName data.macAddr) s es u →
    u.Reposts ipaVirtualIfaceName data.macAddr ipaInterfaceIndex addr

/-- **A step is right**: the entries are well formed after it, a client that came is remembered, and
just the client that left is removed. -/
structure Right (s : Neighbor) (e : Event) (t : Neighbor) : Prop where
  wellFormed : t.WellFormed
  remembers : ∀ data i addr, e = .neigh .newNeigh data (some i) →
    data.Plain ipaVirtualIfaceName addr → t.Remembers ipaVirtualIfaceName data i addr
  removes : ∀ data i addr, e = .neigh .delNeigh data (some i) →
    data.Plain ipaVirtualIfaceName addr →
      t.clients = {c ∈ s.clients | c.macAddr ≠ data.macAddr}

/-- **There is an element** for a client that comes: its own, or a free one. -/
def HasRoom (s : Neighbor) (e : Event) : Prop :=
  ∀ data i addr, e = .neigh .newNeigh data (some i) → data.Plain ipaVirtualIfaceName addr →
    (∃ c ∈ s.clients, c.macAddr = data.macAddr) ∨ s.numNeighborClient < ipaMaxNumNeighborClients

end Neighbor

/-! ## The entries -/

namespace Neighbor

variable {ipaVirtualIfaceName : String} {s t : Neighbor} {mac : Mac} {c c' : NeighborClient} {i : ℕ}

lemma seen_eq_some (h : s.seen mac = some i) :
    i < s.numNeighborClient ∧ (s.neighborClient i).macAddr = mac := by
  obtain ⟨hi, hmac, -⟩ := firstIdx_eq_some.mp h
  exact ⟨hi, of_decide_eq_true hmac⟩

lemma seen_eq_none : s.seen mac = none ↔ ∀ c ∈ s.clients, c.macAddr ≠ mac := by
  rw [seen, firstIdx_eq_none]
  constructor
  · rintro h _ ⟨i, hi, rfl⟩
    exact of_decide_eq_false (h i hi)
  · intro h i hi
    exact decide_eq_false (h _ ⟨i, hi, rfl⟩)

lemma mem_clients (hi : i < s.numNeighborClient) : s.neighborClient i ∈ s.clients := ⟨i, hi, rfl⟩

/-- Two entries with one MAC address are one entry. -/
lemma WellFormed.eq (hs : s.WellFormed) (hc : c ∈ s.clients) (hc' : c' ∈ s.clients)
    (h : c.macAddr = c'.macAddr) : c = c' := by
  obtain ⟨i, hi, rfl⟩ := hc
  obtain ⟨j, hj, rfl⟩ := hc'
  rw [hs.distinct i hi j hj h]

/-- The search finds the entry. -/
lemma WellFormed.seen (hs : s.WellFormed) (hc : c ∈ s.clients) :
    ∃ i, s.seen c.macAddr = some i ∧ s.neighborClient i = c := by
  cases h : s.seen c.macAddr with
  | none => exact absurd rfl (seen_eq_none.mp h c hc)
  | some i =>
      obtain ⟨hi, hmac⟩ := seen_eq_some h
      exact ⟨i, rfl, hs.eq (mem_clients hi) hc hmac⟩

lemma init_wellFormed : init.WellFormed :=
  ⟨Nat.zero_le _, by decide, fun i hi => absurd hi (Nat.not_lt_zero i)⟩

/-! ### An entry is changed -/

section SetClient

variable (hs : s.WellFormed) (hi : i < s.numNeighborClient)
  (hmac : c.macAddr = (s.neighborClient i).macAddr)

include hmac in
lemma macAddr_setClient (j : ℕ) :
    ((s.setClient i c).neighborClient j).macAddr = (s.neighborClient j).macAddr := by
  rcases eq_or_ne j i with rfl | hne
  · simp [setClient, hmac]
  · simp [setClient, hne]

include hs hmac in
lemma WellFormed.setClient : (s.setClient i c).WellFormed := by
  refine ⟨hs.bound, hs.circular, fun j hj k hk h => hs.distinct j hj k hk ?_⟩
  rwa [macAddr_setClient hmac, macAddr_setClient hmac] at h

include hs hi hmac in
lemma WellFormed.clients_setClient :
    (s.setClient i c).clients = insert c {c' ∈ s.clients | c'.macAddr ≠ c.macAddr} := by
  ext c'
  constructor
  · rintro ⟨j, hj, rfl⟩
    rcases eq_or_ne j i with rfl | hne
    · left
      simp [Neighbor.setClient]
    · right
      have hget : (s.setClient i c).neighborClient j = s.neighborClient j := by
        simp [Neighbor.setClient, hne]
      rw [hget]
      refine ⟨mem_clients hj, fun h => hne (hs.distinct j hj i hi (h.trans hmac))⟩
  · rintro (rfl | ⟨⟨j, hj, rfl⟩, hne⟩)
    · exact ⟨i, hi, by simp [Neighbor.setClient]⟩
    · have hji : j ≠ i := by
        rintro rfl
        exact hne hmac.symm
      exact ⟨j, hj, by simp [Neighbor.setClient, hji]⟩

end SetClient

/-! ### An entry is put behind the others -/

section Insert

variable (hs : s.WellFormed) (hnew : s.seen c.macAddr = none)

lemma neighborClient_addClient (j : ℕ) : (s.addClient c).neighborClient j =
    if j = s.numNeighborClient then c else s.neighborClient j := by
  simp only [addClient, setClient, Function.update_apply]

lemma clients_addClient : (s.addClient c).clients = insert c s.clients := by
  ext c'
  constructor
  · rintro ⟨j, hj, rfl⟩
    rw [neighborClient_addClient]
    split_ifs with heq
    · exact Or.inl rfl
    · exact Or.inr (mem_clients (lt_of_le_of_ne (Nat.le_of_lt_succ hj) heq))
  · rintro (rfl | ⟨j, hj, rfl⟩)
    · exact ⟨_, Nat.lt_succ_self _, by rw [neighborClient_addClient, if_pos rfl]⟩
    · exact ⟨j, Nat.lt_succ_of_lt hj, by rw [neighborClient_addClient, if_neg hj.ne]⟩

include hs hnew in
lemma WellFormed.addClient (hlt : s.numNeighborClient < ipaMaxNumNeighborClients) :
    (s.addClient c).WellFormed := by
  have hother : ∀ j < s.numNeighborClient, (s.neighborClient j).macAddr ≠ c.macAddr := fun j hj =>
    seen_eq_none.mp hnew _ (mem_clients hj)
  refine ⟨hlt, hs.circular, fun j hj k hk h => ?_⟩
  have hj' : j < s.numNeighborClient + 1 := hj
  have hk' : k < s.numNeighborClient + 1 := hk
  simp only [neighborClient_addClient] at h
  split_ifs at h with h1 h2 h2
  · exact h1.trans h2.symm
  · exact absurd h.symm (hother k (by omega))
  · exact absurd h (hother j (by omega))
  · exact hs.distinct j (by omega) k (by omega) h

end Insert

/-! ### An entry is recycled -/

section Recycle

variable (hs : s.WellFormed) (hnew : s.seen c.macAddr = none)
  (hi : s.circularIndex < s.numNeighborClient)

lemma neighborClient_recycle (j : ℕ) : (s.recycle c).neighborClient j =
    if j = s.circularIndex then c else s.neighborClient j := by
  simp only [recycle, setClient, Function.update_apply]

include hs hi in
lemma WellFormed.clients_recycle : (s.recycle c).clients =
    insert c {c' ∈ s.clients | c'.macAddr ≠ (s.neighborClient s.circularIndex).macAddr} := by
  ext c'
  constructor
  · rintro ⟨j, hj, rfl⟩
    rw [neighborClient_recycle]
    split_ifs with heq
    · exact Or.inl rfl
    · exact Or.inr ⟨mem_clients hj, fun h => heq (hs.distinct j hj _ hi h)⟩
  · rintro (rfl | ⟨⟨j, hj, rfl⟩, hne⟩)
    · exact ⟨_, hi, by rw [neighborClient_recycle, if_pos rfl]⟩
    · have hji : j ≠ s.circularIndex := by
        rintro rfl
        exact hne rfl
      exact ⟨j, hj, by rw [neighborClient_recycle, if_neg hji]⟩

include hs hnew in
lemma WellFormed.recycle : (s.recycle c).WellFormed := by
  have hother : ∀ j < s.numNeighborClient, (s.neighborClient j).macAddr ≠ c.macAddr := fun j hj =>
    seen_eq_none.mp hnew _ (mem_clients hj)
  refine ⟨hs.bound, Nat.mod_lt _ (by decide), fun j hj k hk h => ?_⟩
  simp only [neighborClient_recycle] at h
  split_ifs at h with h1 h2 h2
  · exact h1.trans h2.symm
  · exact absurd h.symm (hother k hk)
  · exact absurd h (hother j hj)
  · exact hs.distinct j hj k hk h

end Recycle

/-! ### An entry is cleaned -/

section Clean

variable (hs : s.WellFormed) (hi : i < s.numNeighborClient)

lemma clean_setClient : (s.setClient i c).clean i = s.clean i := by
  simp only [clean, setClient, Function.update_idem]

/-- Below the entry nothing changes, and from it on the next one is there. -/
lemma neighborClient_clean {j : ℕ} (hj : j < s.numNeighborClient - 1) :
    (s.clean i).neighborClient j = s.neighborClient (if j < i then j else j + 1) := by
  simp only [clean, shiftDown_apply]
  split_ifs with h h' h'
  · omega
  · rw [Function.update_of_ne (by omega)]
  · rw [Function.update_of_ne (by omega)]
  · omega

include hs in
lemma WellFormed.clean : (s.clean i).WellFormed := by
  refine ⟨(Nat.sub_le _ _).trans hs.bound, hs.circular, fun j hj k hk h => ?_⟩
  have hj' : j < s.numNeighborClient - 1 := hj
  have hk' : k < s.numNeighborClient - 1 := hk
  rw [neighborClient_clean hj', neighborClient_clean hk'] at h
  have heq := hs.distinct _ (by split_ifs <;> omega) _ (by split_ifs <;> omega) h
  split_ifs at heq <;> omega

include hs hi in
lemma WellFormed.clients_clean :
    (s.clean i).clients = {c ∈ s.clients | c.macAddr ≠ (s.neighborClient i).macAddr} := by
  ext c
  constructor
  · rintro ⟨j, hj, rfl⟩
    have hj' : j < s.numNeighborClient - 1 := hj
    have hlt : (if j < i then j else j + 1) < s.numNeighborClient := by split_ifs <;> omega
    rw [neighborClient_clean hj']
    refine ⟨mem_clients hlt, fun h => ?_⟩
    have heq := hs.distinct _ hlt i hi h
    split_ifs at heq <;> omega
  · rintro ⟨⟨j, hj, rfl⟩, hne⟩
    have hji : j ≠ i := by
      rintro rfl
      exact hne rfl
    have hlt : (if j < i then j else j - 1) < s.numNeighborClient - 1 := by split_ifs <;> omega
    refine ⟨_, hlt, ?_⟩
    rw [neighborClient_clean hlt]
    congr 1
    split_ifs <;> omega

end Clean

/-! ## Events -/

/-- What an event does to the cache. -/
inductive Change (s : Neighbor) (e : Event) : Neighbor → Prop
  | same : Change s e s
  | set {i : ℕ} {c : NeighborClient} (hi : i < s.numNeighborClient)
      (hmac : c.macAddr = (s.neighborClient i).macAddr)
      (hsilent : e.Silent c.macAddr → c.v4Addr = (s.neighborClient i).v4Addr ∧
        c.ipaIfNum = (s.neighborClient i).ipaIfNum) : Change s e (s.setClient i c)
  | add {c : NeighborClient} (hnew : s.seen c.macAddr = none)
      (hlt : s.numNeighborClient < ipaMaxNumNeighborClients) : Change s e (s.addClient c)
  | recycle {c : NeighborClient} (hnew : s.seen c.macAddr = none)
      (hfull : ¬ s.numNeighborClient < ipaMaxNumNeighborClients) : Change s e (s.recycle c)
  | clean {i : ℕ} (hi : i < s.numNeighborClient) : Change s e (s.clean i)

section Change

variable {e : Event} {event : NeighEvent} {data : EventDataAll} {ipaInterfaceIndex : ℕ}
  {addr : UInt32}

lemma change_bridgeEvent (he : e = .neigh event data (some ipaInterfaceIndex)) :
    Change s e (s.bridgeEvent event data).1 := by
  rw [bridgeEvent]
  split
  · exact .same
  · rename_i i hseen
    obtain ⟨hi, hmac⟩ := seen_eq_some hseen
    cases haddr : data.addr with
    | v6 addr => exact .same
    | v4 addr =>
        -- the address is that of the event, which is not silent
        refine .set hi rfl fun hsilent => ?_
        rw [he] at hsilent
        exact absurd haddr (hsilent hmac.symm addr)

lemma change_newNeighV4 (he : e = .neigh event data (some ipaInterfaceIndex))
    (haddr : data.addr = .v4 addr) : Change s e (s.newNeighV4 data ipaInterfaceIndex addr) := by
  rw [newNeighV4]
  split
  · rename_i i hseen
    obtain ⟨hi, hmac⟩ := seen_eq_some hseen
    refine .set hi rfl fun hsilent => ?_
    rw [he] at hsilent
    exact absurd haddr (hsilent hmac.symm addr)
  · rename_i hseen
    split_ifs with hlt
    · exact .add hseen hlt
    · exact .recycle hseen hlt

lemma change_delNeighV4 : Change s e (s.delNeighV4 data) := by
  rw [delNeighV4]
  split
  · rename_i i hseen
    exact .clean (seen_eq_some hseen).1
  · exact .same

/-- Being on another interface says nothing of the address. -/
lemma relocated_eq (ipaVirtualIfaceName : String) (data : EventDataAll) (c : NeighborClient) :
    (relocated ipaVirtualIfaceName data c).macAddr = c.macAddr ∧
    (relocated ipaVirtualIfaceName data c).v4Addr = c.v4Addr ∧
    (relocated ipaVirtualIfaceName data c).ipaIfNum = c.ipaIfNum := by
  rw [relocated]
  split_ifs
  · exact ⟨rfl, rfl, rfl⟩
  · exact ⟨rfl, rfl, rfl⟩

lemma change_noAddrEvent :
    Change s e (s.noAddrEvent ipaVirtualIfaceName event data ipaInterfaceIndex).1 := by
  rw [noAddrEvent]
  split
  · rename_i i hseen
    obtain ⟨hi, -⟩ := seen_eq_some hseen
    obtain ⟨hmac, haddr, hnum⟩ := relocated_eq ipaVirtualIfaceName data (s.neighborClient i)
    cases event with
    | newNeigh => exact .set hi hmac fun _ => ⟨haddr, hnum⟩
    | delNeigh =>
        simp only [clean_setClient]
        exact .clean hi
  · rename_i hseen
    split_ifs with hnew hlt
    · exact .add hseen hlt
    · exact .recycle hseen hlt
    · exact .same

/-- **Every event makes one of the changes.** -/
theorem change (h : s.Step ipaVirtualIfaceName e t) : Change s e t := by
  rw [← h]
  match e with
  | .neigh event data none => exact .same
  | .wlanClientAddEx data none => exact .same
  | .neigh event data (some i) =>
      simp only [eventCallback, neighEvent]
      split
      · rename_i addr haddr
        split_ifs with hzero hbridge
        · exact .same
        · exact change_bridgeEvent rfl
        · cases event with
          | newNeigh => exact change_newNeighV4 rfl haddr
          | delNeigh => exact change_delNeighV4
      · split_ifs with hsome hbridge
        · exact change_bridgeEvent rfl
        · exact .same
        · exact change_noAddrEvent
  | .wlanClientAddEx data (some (i, tableName)) =>
      simp only [eventCallback, wlanClientAddEventEx]
      split
      · exact .same
      · rename_i j hseen
        rcases eq_or_ne ipaVirtualIfaceName tableName with heq | hne
        · rw [if_neg (not_not.mpr heq)]
          exact .same
        · rw [if_pos hne]
          exact .set (seen_eq_some hseen).1 rfl fun _ => ⟨rfl, rfl⟩

/-- **The entries stay well formed.** -/
lemma WellFormed.step (hs : s.WellFormed) (h : s.Step ipaVirtualIfaceName e t) : t.WellFormed := by
  cases change h with
  | same => exact hs
  | set hi hmac _ => exact hs.setClient hmac
  | add hnew hlt => exact hs.addClient hnew hlt
  | recycle hnew _ => exact hs.recycle hnew
  | clean hi => exact hs.clean

/-- **A client that stays keeps its address** until an event says another one. -/
lemma WellFormed.stay (hs : s.WellFormed) (hc : c ∈ s.clients)
    (h : StayStep ipaVirtualIfaceName c.macAddr s e t) :
    ∃ c' ∈ t.clients, c'.macAddr = c.macAddr ∧ c'.v4Addr = c.v4Addr ∧ c'.ipaIfNum = c.ipaIfNum := by
  obtain ⟨hsilent, hstep, c', hc', hmac'⟩ := h
  cases change hstep with
  | same => exact ⟨c, hc, rfl, rfl, rfl⟩
  | @set i d hi hmac hsame =>
      rw [hs.clients_setClient hi hmac] at hc' ⊢
      by_cases heq : d.macAddr = c.macAddr
      · have hci : c = s.neighborClient i := hs.eq hc (mem_clients hi) (heq.symm.trans hmac)
        obtain ⟨haddr, hnum⟩ := hsame (heq ▸ hsilent)
        rw [hci]
        exact ⟨d, Or.inl rfl, hmac, haddr, hnum⟩
      · exact ⟨c, Or.inr ⟨hc, fun h => heq h.symm⟩, rfl, rfl, rfl⟩
  | add hnew hlt =>
      rw [clients_addClient]
      exact ⟨c, Or.inr hc, rfl, rfl, rfl⟩
  | @recycle d hnew hfull =>
      have hi : s.circularIndex < s.numNeighborClient :=
        lt_of_lt_of_le hs.circular (not_lt.mp hfull)
      rw [hs.clients_recycle hi] at hc' ⊢
      rcases hc' with rfl | ⟨hc', hne⟩
      · exact absurd hmac'.symm (seen_eq_none.mp hnew c hc)
      · exact ⟨c, Or.inr ⟨hc, hmac' ▸ hne⟩, rfl, rfl, rfl⟩
  | clean hi =>
      rw [hs.clients_clean hi] at hc' ⊢
      exact ⟨c, ⟨hc, hmac' ▸ hc'.2⟩, rfl, rfl, rfl⟩

/-- A client that is cached with an address has it posted when it connects again. -/
lemma WellFormed.reposts (hs : s.WellFormed) (hc : c ∈ s.clients) (haddr : c.v4Addr ≠ 0) :
    s.Reposts ipaVirtualIfaceName c.macAddr c.ipaIfNum c.v4Addr := by
  intro data tableName hmac hbridge
  obtain ⟨i, hseen, hget⟩ := hs.seen hc
  refine ⟨c.ifaceName, ?_⟩
  simp only [eventCallback, wlanClientAddEventEx, hmac, hseen, hget, if_pos hbridge, ne_eq,
    not_true_eq_false, if_false, haddr, not_false_eq_true, if_true]

/-- **What is stored is remembered.** -/
lemma WellFormed.remembers (hs : s.WellFormed) (haddr : addr ≠ 0)
    (hc : ⟨data.macAddr, data.ifIndex, addr, ipaInterfaceIndex, data.ifaceName⟩ ∈ s.clients) :
    s.Remembers ipaVirtualIfaceName data ipaInterfaceIndex addr := by
  refine ⟨hc, fun es u hrun => ?_⟩
  have hinv : u.WellFormed ∧ ∃ c ∈ u.clients, c.macAddr = data.macAddr ∧ c.v4Addr = addr ∧
      c.ipaIfNum = ipaInterfaceIndex := by
    refine hrun.invariant (P := fun u => u.WellFormed ∧ ∃ c ∈ u.clients,
      c.macAddr = data.macAddr ∧ c.v4Addr = addr ∧ c.ipaIfNum = ipaInterfaceIndex) ?_
      ⟨hs, _, hc, rfl, rfl, rfl⟩
    rintro v e w ⟨hv, c, hcv, hmac, hadd, hnum⟩ hstay
    obtain ⟨c', hc', hmac', hadd', hnum'⟩ := hv.stay hcv (hmac ▸ hstay)
    exact ⟨hv.step hstay.2.1, c', hc', hmac'.trans hmac, hadd'.trans hadd, hnum'.trans hnum⟩
  obtain ⟨hu, c, hcu, rfl', rfl, rfl⟩ := hinv
  rw [← rfl']
  exact hu.reposts hcu haddr

end Change

/-! ## Right steps -/

section Right

variable {e : Event} {data : EventDataAll} {ipaInterfaceIndex : ℕ} {addr : UInt32}

/-- What the event of a neighbor is on an interface other than the bridge. -/
lemma eventCallback_plain {event : NeighEvent} (hp : data.Plain ipaVirtualIfaceName addr) :
    (s.eventCallback ipaVirtualIfaceName (.neigh event data (some ipaInterfaceIndex))).1 =
      match event with
      | .newNeigh => s.newNeighV4 data ipaInterfaceIndex addr
      | .delNeigh => s.delNeighV4 data := by
  cases event <;>
    simp only [eventCallback, neighEvent, hp.addr_eq, hp.ne_zero, hp.not_linkLocal, hp.not_bridge,
      Bool.false_eq_true, or_self, if_false]

/-- **A client that comes is stored** just if there is an element for it: in one that is recycled
the address is reset. -/
lemma WellFormed.stored_iff (hs : s.WellFormed) (haddr : addr ≠ 0) :
    ⟨data.macAddr, data.ifIndex, addr, ipaInterfaceIndex, data.ifaceName⟩ ∈
        (s.newNeighV4 data ipaInterfaceIndex addr).clients ↔
      (∃ c ∈ s.clients, c.macAddr = data.macAddr) ∨
        s.numNeighborClient < ipaMaxNumNeighborClients := by
  cases hseen : s.seen data.macAddr with
  | some i =>
      obtain ⟨hi, hmac⟩ := seen_eq_some hseen
      refine iff_of_true ?_ (Or.inl ⟨_, mem_clients hi, hmac⟩)
      simp only [newNeighV4, hseen, hmac]
      rw [hs.clients_setClient hi hmac.symm]
      exact Or.inl rfl
  | none =>
      have hnot : ¬ ∃ c ∈ s.clients, c.macAddr = data.macAddr := by
        rintro ⟨c, hc, hmac⟩
        exact seen_eq_none.mp hseen c hc hmac
      simp only [newNeighV4, hseen]
      split_ifs with hlt
      · rw [clients_addClient]
        exact iff_of_true (Or.inl rfl) (Or.inr hlt)
      · refine iff_of_false (fun hmem => ?_) (not_or.mpr ⟨hnot, hlt⟩)
        have hi : s.circularIndex < s.numNeighborClient :=
          lt_of_lt_of_le hs.circular (not_lt.mp hlt)
        rw [hs.clients_recycle hi] at hmem
        rcases hmem with heq | ⟨hc, -⟩
        · exact haddr (congrArg NeighborClient.v4Addr heq)
        · exact hnot ⟨_, hc, rfl⟩

/-- **Just the client that leaves is removed.** -/
lemma WellFormed.removes (hs : s.WellFormed) :
    (s.delNeighV4 data).clients = {c ∈ s.clients | c.macAddr ≠ data.macAddr} := by
  cases hseen : s.seen data.macAddr with
  | some i =>
      obtain ⟨hi, hmac⟩ := seen_eq_some hseen
      simp only [delNeighV4, hseen]
      rw [hs.clients_clean hi, hmac]
  | none =>
      simp only [delNeighV4, hseen]
      exact (Set.sep_eq_self_iff_mem_true.mpr fun c hc => seen_eq_none.mp hseen c hc).symm

/-- **A step is right just if there is room.** -/
lemma WellFormed.right_iff (hs : s.WellFormed) (h : s.Step ipaVirtualIfaceName e t) :
    Right ipaVirtualIfaceName s e t ↔ HasRoom ipaVirtualIfaceName s e := by
  have hstored : ∀ data i addr, e = .neigh .newNeigh data (some i) →
      data.Plain ipaVirtualIfaceName addr →
      (⟨data.macAddr, data.ifIndex, addr, i, data.ifaceName⟩ ∈ t.clients ↔
        (∃ c ∈ s.clients, c.macAddr = data.macAddr) ∨
          s.numNeighborClient < ipaMaxNumNeighborClients) := by
    rintro data i addr rfl hp
    rw [← h, eventCallback_plain hp]
    exact hs.stored_iff hp.ne_zero
  constructor
  · intro hright data i addr he hp
    exact (hstored data i addr he hp).mp (hright.remembers data i addr he hp).stored
  · intro hroom
    refine ⟨hs.step h, fun data i addr he hp => ?_, ?_⟩
    · have hmem := (hstored data i addr he hp).mpr (hroom data i addr he hp)
      exact (hs.step h).remembers hp.ne_zero hmem
    · rintro data i addr rfl hp
      rw [← h, eventCallback_plain hp]
      exact hs.removes

end Right

/-! ## Runs -/

/-- **The cache remembers the clients** in a run, so that the address of each is posted when it
connects again, just if there was room for every client that came. -/
theorem neighbor_right_iff (ipaVirtualIfaceName : String) (es : List Event) (s : Neighbor) :
    Run (fun s e t => s.Step ipaVirtualIfaceName e t ∧ Right ipaVirtualIfaceName s e t) init es s ↔
      Run (fun s e t => s.Step ipaVirtualIfaceName e t ∧ HasRoom ipaVirtualIfaceName s e)
        init es s :=
  Run.and_congr (fun _ _ _ hs h => hs.step h) (fun _ _ _ hs h => hs.right_iff h) init_wellFormed

/-- The client with a number comes. -/
def comes (n : ℕ) : Event :=
  .neigh .newNeigh ⟨5, "wlan0", BitVec.ofNat 48 n, .v4 1⟩ (some 0)

lemma plain_comes (n : ℕ) :
    EventDataAll.Plain "bridge0" ⟨5, "wlan0", BitVec.ofNat 48 n, .v4 1⟩ 1 :=
  ⟨rfl, by decide, by decide, by simp⟩

/-- Clients come until the cache is full. -/
lemma run_comes : ∀ n ≤ ipaMaxNumNeighborClients, ∃ s : Neighbor,
    Run (Step "bridge0") init ((List.range n).map comes) s ∧ s.numNeighborClient = n ∧
      ∀ c ∈ s.clients, c.macAddr.toNat < n := by
  intro n hn
  induction n with
  | zero => exact ⟨init, .nil _, rfl, fun c ⟨i, hi, _⟩ => absurd hi (Nat.not_lt_zero i)⟩
  | succ n ih =>
      obtain ⟨s, hrun, hnum, hmac⟩ := ih (by omega)
      have hlt : n < 2 ^ 48 := by
        rw [ipaMaxNumNeighborClients] at hn
        omega
      have htoNat : (BitVec.ofNat 48 n).toNat = n := by
        rw [BitVec.toNat_ofNat, Nat.mod_eq_of_lt hlt]
      have hseen : s.seen (BitVec.ofNat 48 n) = none := by
        refine seen_eq_none.mpr fun c hc heq => ?_
        have hcn := hmac c hc
        rw [heq, htoNat] at hcn
        exact lt_irrefl _ hcn
      have hstep : (s.eventCallback "bridge0" (comes n)).1 =
          s.addClient ⟨BitVec.ofNat 48 n, 5, 1, 0, "wlan0"⟩ := by
        rw [comes, eventCallback_plain (plain_comes n)]
        simp only [newNeighV4, hseen]
        rw [if_pos (by omega)]
      refine ⟨s.addClient ⟨BitVec.ofNat 48 n, 5, 1, 0, "wlan0"⟩, ?_, congrArg (· + 1) hnum, ?_⟩
      · rw [List.range_succ, List.map_append]
        exact .snoc hrun hstep
      · intro c hc
        rw [clients_addClient] at hc
        rcases hc with rfl | hc
        · exact (htoNat.symm ▸ Nat.lt_succ_self n)
        · exact Nat.lt_succ_of_lt (hmac c hc)

/-- **The client after the hundredth is not remembered.** -/
theorem address_of_recycled_is_lost : ∃ es s t, Run (Step "bridge0") init es s ∧
    s.Step "bridge0" (comes 100) t ∧ ¬ Right "bridge0" s (comes 100) t := by
  obtain ⟨s, hrun, hnum, hmac⟩ := run_comes 100 (by decide)
  refine ⟨_, s, _, hrun, rfl, fun hright => ?_⟩
  have hs : s.WellFormed := hrun.invariant (fun _ _ _ hs h => hs.step h) init_wellFormed
  rcases (hs.right_iff rfl).mp hright _ _ _ rfl (plain_comes 100) with ⟨c, hc, heq⟩ | hlt
  · have hlt := hmac c hc
    rw [heq] at hlt
    exact absurd hlt (by decide)
  · rw [hnum] at hlt
    exact absurd hlt (by decide)

end Neighbor

end Ipacm.NeighCache
