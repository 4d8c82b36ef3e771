import OcnDevice.Core.SlotSet
import OcnDevice.Ipacm.ConntrackListener.Model

/-!
# The address tables

Each of the three tables of the listener should be the set of the addresses whose last event was an
addition.  The tables do not look for an address behind a free slot before they add it, the second
one does not look for it at all, and `CheckSTAClient` stops its search at the number of clients,
although a client that left makes room in between.  So the tables are these sets in the runs in which
no call runs into that (`CtOp.FitsTables`).
-/

namespace Ipacm

open SlotSet

/-! ## Events of the tables -/

/-- Does the call add the address of a client of a NAT interface? -/
def CtEnv.IsNat (env : CtEnv) (data : IpacmEventDataAll) : Prop :=
  (CtSys.checkNatIface env data).2 = true ∧ (CtSys.checkNatIface env data).1 = 0

/-- Does the call add the address of a client of another interface? -/
def CtEnv.IsNonnat (env : CtEnv) (data : IpacmEventDataAll) : Prop :=
  (CtSys.checkNatIface env data).2 = false ∧ (CtSys.checkNatIface env data).1 = 0

instance (env : CtEnv) (data : IpacmEventDataAll) : Decidable (env.IsNat data) := by
  unfold CtEnv.IsNat
  infer_instance

instance (env : CtEnv) (data : IpacmEventDataAll) : Decidable (env.IsNonnat data) := by
  unfold CtEnv.IsNonnat
  infer_instance

/-- The addition (`true`) or deletion that a call makes in `nat_iface_ipv4_addr`. -/
def CtOp.natEvts : CtOp → List (Bool × UInt32)
  | .neighIpAddrAdd env data => if env.IsNat data then [(true, data.ipv4Addr)] else []
  | .neighIpAddrDel ipv4Addr => [(false, ipv4Addr)]
  | _ => []

/-- The addition or deletion that a call makes in `nonnat_iface_ipv4_addr`, in which there is none in
STA mode. -/
def CtOp.nonnatEvts (s : CtSys) : CtOp → List (Bool × UInt32)
  | .nonNatIPAddr env data addOp =>
      if s.list.isStaMode then []
      else if addOp then if env.IsNonnat data then [(true, data.ipv4Addr)] else []
      else [(false, data.ipv4Addr)]
  | _ => []

/-- The addition or deletion that a call makes in `sta_clnt_ipv4_addr`. -/
def CtOp.staEvts : CtOp → List (Bool × UInt32)
  | .staClientAdd clntIpAddr => [(true, clntIpAddr)]
  | .staClientDel clntIpAddr => [(false, clntIpAddr)]
  | _ => []

/-- The additions and deletions made so far in each table. -/
structure TableLog where
  nat : List (Bool × UInt32) := []
  nonnat : List (Bool × UInt32) := []
  sta : List (Bool × UInt32) := []

/-- A call, with the events that it makes. -/
def CtOp.LogStep (x : CtSys × TableLog) (op : CtOp) (y : CtSys × TableLog) : Prop :=
  y = (op.call x.1, {
    nat := x.2.nat ++ op.natEvts
    nonnat := x.2.nonnat ++ op.nonnatEvts x.1
    sta := x.2.sta ++ op.staEvts })

/-- **A call that the tables can take.**  What is added finds room, and neither is it in the second
table already nor in the first one behind a free slot; and the client that leaves the station
interface is the one in the last slot. -/
def CtOp.FitsTables (s : CtSys) : CtOp → Prop
  | .neighIpAddrAdd env data => env.IsNat data →
      (∃ k < maxIfaceAddress, s.list.natIfaceIpv4Addr k = data.ipv4Addr ∨
        s.list.natIfaceIpv4Addr k = 0) ∧
      ∀ k < maxIfaceAddress, s.list.natIfaceIpv4Addr k = data.ipv4Addr →
        ∀ j < k, s.list.natIfaceIpv4Addr j ≠ 0
  | .nonNatIPAddr env data true => s.list.isStaMode = false → env.IsNonnat data →
      (∃ k < maxIfaceAddress, s.list.nonnatIfaceIpv4Addr k = 0) ∧
      ∀ k < maxIfaceAddress, s.list.nonnatIfaceIpv4Addr k ≠ data.ipv4Addr
  | .staClientAdd clntIpAddr => clntIpAddr ≠ 0 ∧
      ((∃ k < maxStaClntIfaces, s.list.staClntIpv4Addr k = clntIpAddr) ∨
        s.list.staClntCnt < maxStaClntIfaces)
  | .staClientDel clntIpAddr => ∀ k < maxStaClntIfaces, s.list.staClntIpv4Addr k ≠ 0 →
      s.list.staClntIpv4Addr k = clntIpAddr → s.list.staClntCnt = k + 1
  | _ => True

/-- A call that the tables can take. -/
def CtOp.FitTablesStep (x : CtSys × TableLog) (op : CtOp) (y : CtSys × TableLog) : Prop :=
  op.FitsTables x.1 ∧ CtOp.LogStep x op y

/-! ## The tests on the sets -/

/-- **The tables are the sets that the events say**, and the clients are in the first slots. -/
structure TablesOk (x : CtSys × TableLog) : Prop where
  nat : Holds maxIfaceAddress 0 x.1.list.natIfaceIpv4Addr (added x.2.nat)
  nonnat : Holds maxIfaceAddress 0 x.1.list.nonnatIfaceIpv4Addr (added x.2.nonnat)
  sta : Holds maxStaClntIfaces 0 x.1.list.staClntIpv4Addr (added x.2.sta)
  packed : ∃ c ≤ maxStaClntIfaces, x.1.list.staClntCnt = c ∧
    Packed maxStaClntIfaces 0 x.1.list.staClntIpv4Addr c

section Lemmas

variable {s : CtSys} {env : CtEnv} {data : IpacmEventDataAll} {a : UInt32} {evts : List (Bool × UInt32)}
  {x y : CtSys × TableLog} {op : CtOp} {msg : CtMsg} {isSta : Bool}

/-- An address that is added is not 0. -/
lemma CtSys.checkNatIface_addr (h : (CtSys.checkNatIface env data).1 = 0) : data.ipv4Addr ≠ 0 := by
  intro h0
  simp [CtSys.checkNatIface, h0] at h

/-! ### What calls do to the listener -/

lemma CtSys.addNatEntry_list {rule : NatTableEntry} {isTempEntry : Bool} :
    (s.addNatEntry rule isTempEntry).list = s.list := by
  unfold CtSys.addNatEntry
  split_ifs <;> rfl

/-- A message leaves the listener as it is. -/
lemma CtSys.processCTMessage_list : (s.processCTMessage env msg).list = s.list := by
  unfold CtSys.processCTMessage
  split_ifs
  · rfl
  · unfold CtSys.processTCPorUDPMsg
    cases s.ruleOfMsg env msg.ct with
    | none => rfl
    | some r =>
        change (s.addORDeleteNatEntry msg r.1 r.2).list = s.list
        unfold CtSys.addORDeleteNatEntry
        split_ifs
        · exact CtSys.addNatEntry_list
        · rfl
        · rfl
        · cases msg.type with
          | new => exact CtSys.addNatEntry_list
          | destroy => rfl
          | update => rfl
        · rfl

/-- The WAN leaves the tables as they are. -/
structure CtListener.SameTables (l l' : CtListener) : Prop where
  nat : l.natIfaceIpv4Addr = l'.natIfaceIpv4Addr
  nonnat : l.nonnatIfaceIpv4Addr = l'.nonnatIfaceIpv4Addr
  sta : l.staClntIpv4Addr = l'.staClntIpv4Addr
  cnt : l.staClntCnt = l'.staClntCnt

lemma CtSys.triggerWANDown_tables : (s.triggerWANDown a).list.SameTables s.list := by
  unfold CtSys.triggerWANDown
  simp only
  split_ifs <;> exact ⟨rfl, rfl, rfl, rfl⟩

lemma CtSys.triggerWANUp_tables : (s.triggerWANUp a isSta).list.SameTables s.list := by
  unfold CtSys.triggerWANUp
  split_ifs
  · exact ⟨rfl, rfl, rfl, rfl⟩
  · exact ⟨rfl, rfl, rfl, rfl⟩
  · have h := CtSys.triggerWANDown_tables (s := s) (a := s.list.wanIpaddr)
    exact ⟨h.nat, h.nonnat, h.sta, h.cnt⟩
  · exact ⟨rfl, rfl, rfl, rfl⟩

/-- A deletion clears every slot that holds the address. -/
lemma CtSys.handleNeighIpAddrDelEvt_list (ha : a ≠ 0) :
    ∃ tbl, (∀ k < maxIfaceAddress, tbl k =
        if s.list.natIfaceIpv4Addr k = a then 0 else s.list.natIfaceIpv4Addr k) ∧
      (s.handleNeighIpAddrDelEvt a).list = { s.list with natIfaceIpv4Addr := tbl } := by
  unfold CtSys.handleNeighIpAddrDelEvt
  rw [if_neg ha]
  have hloop := forUpTo_invariant (n := maxIfaceAddress) (f := CtSys.neighDelEntry a)
    (P := fun i (t : CtSys) => ∃ tbl,
      (∀ k, tbl k = if s.list.natIfaceIpv4Addr k = a ∧ k < i then 0
        else s.list.natIfaceIpv4Addr k) ∧
      t.list = { s.list with natIfaceIpv4Addr := tbl })
    ⟨s.list.natIfaceIpv4Addr, fun k => by simp, rfl⟩ fun i t _ ht => by
      obtain ⟨tbl, htbl, hlist⟩ := ht
      have hi : t.list.natIfaceIpv4Addr i = s.list.natIfaceIpv4Addr i := by
        have : t.list.natIfaceIpv4Addr i = tbl i := by rw [hlist]
        rw [this, htbl]
        simp
      have hlt : ∀ k, k ≠ i → (k < i + 1 ↔ k < i) := fun k hk => by omega
      unfold CtSys.neighDelEntry
      rw [hi]
      by_cases hslot : s.list.natIfaceIpv4Addr i = a
      · rw [if_pos hslot]
        refine ⟨Function.update tbl i 0, fun k => ?_, ?_⟩
        · by_cases hki : k = i
          · simp [hki, hslot]
          · simp only [Function.update_of_ne hki, htbl, hlt k hki]
        · change t.list.setNat i 0 = _
          rw [hlist]
          rfl
      · rw [if_neg hslot]
        refine ⟨tbl, fun k => ?_, hlist⟩
        by_cases hki : k = i
        · simp [htbl, hki, hslot]
        · simp only [htbl, hlt k hki]
  obtain ⟨tbl, htbl, hlist⟩ := hloop
  exact ⟨tbl, fun k hk => by simp [htbl, hk], hlist⟩

/-! ### Each call keeps the invariant -/

/-- **The address of a client of a NAT interface** comes in. -/
lemma TablesOk.neighIpAddrAdd (H : TablesOk x)
    (hfit : (CtOp.neighIpAddrAdd env data).FitsTables x.1) (hnat : env.IsNat data) :
    Holds maxIfaceAddress 0 (x.1.handleNeighIpAddrAddEvt env data).list.natIfaceIpv4Addr
        (insert data.ipv4Addr (added x.2.nat)) ∧
      (x.1.handleNeighIpAddrAddEvt env data).list = { x.1.list with
        natIfaceIpv4Addr := (x.1.handleNeighIpAddrAddEvt env data).list.natIfaceIpv4Addr } := by
  have ha := CtSys.checkNatIface_addr hnat.2
  obtain ⟨⟨k, hk, hroom⟩, hhole⟩ := hfit hnat
  have hcond : (CtSys.checkNatIface env data).2 = true ∧ (CtSys.checkNatIface env data).1 = 0 := hnat
  unfold CtSys.handleNeighIpAddrAddEvt
  rw [if_pos hcond]
  cases hidx : firstIdx maxIfaceAddress fun j => x.1.list.natIfaceIpv4Addr j = data.ipv4Addr ∨
      x.1.list.natIfaceIpv4Addr j = 0 with
  | none =>
      have := firstIdx_eq_none.mp hidx k hk
      simp only [decide_eq_false_iff_not] at this
      exact absurd hroom this
  | some j =>
      obtain ⟨hj, hslot, hfirst⟩ := firstIdx_eq_some.mp hidx
      simp only [decide_eq_true_eq, decide_eq_false_iff_not] at hslot hfirst
      by_cases hdup : x.1.list.natIfaceIpv4Addr j = data.ipv4Addr
      · have hmem : data.ipv4Addr ∈ added x.2.nat := (H.nat.mem_iff _).mpr ⟨ha, j, hj, hdup⟩
        rw [Set.insert_eq_of_mem hmem]
        simp only [if_pos hdup]
        exact ⟨H.nat, trivial⟩
      · have hfree := hslot.resolve_left hdup
        simp only [if_neg hdup]
        refine ⟨H.nat.insert hj hfree ha fun hmem => ?_, rfl⟩
        -- the address would be behind the free slot
        obtain ⟨-, i, hi, hia⟩ := (H.nat.mem_iff _).mp hmem
        rcases lt_trichotomy i j with hij | rfl | hij
        · exact hfirst i hij (Or.inl hia)
        · exact hdup hia
        · exact hhole i hi hia j hij hfree

/-- **The address of a client of another interface** comes in. -/
lemma TablesOk.nonNatIPAddr_add (H : TablesOk x)
    (hfit : (CtOp.nonNatIPAddr env data true).FitsTables x.1) (hsta : x.1.list.isStaMode = false)
    (hnon : env.IsNonnat data) :
    Holds maxIfaceAddress 0 (x.1.handleNonNatIPAddr env data true).list.nonnatIfaceIpv4Addr
        (insert data.ipv4Addr (added x.2.nonnat)) ∧
      (x.1.handleNonNatIPAddr env data true).list = { x.1.list with
        nonnatIfaceIpv4Addr :=
          (x.1.handleNonNatIPAddr env data true).list.nonnatIfaceIpv4Addr } := by
  have ha := CtSys.checkNatIface_addr hnon.2
  obtain ⟨⟨k, hk, hroom⟩, hnew⟩ := hfit hsta hnon
  have hcond : (CtSys.checkNatIface env data).2 = false ∧ (CtSys.checkNatIface env data).1 = 0 :=
    hnon
  unfold CtSys.handleNonNatIPAddr
  rw [if_neg (by simp [hsta]), if_pos rfl, if_pos hcond]
  cases hidx : firstIdx maxIfaceAddress fun cnt => x.1.list.nonnatIfaceIpv4Addr cnt = 0 with
  | none =>
      have := firstIdx_eq_none.mp hidx k hk
      simp [hroom] at this
  | some j =>
      obtain ⟨hj, hfree, -⟩ := firstIdx_eq_some.mp hidx
      refine ⟨H.nonnat.insert hj (by simpa using hfree) ha fun hmem => ?_, rfl⟩
      obtain ⟨-, i, hi, hia⟩ := (H.nonnat.mem_iff _).mp hmem
      exact hnew i hi hia

/-- **The address of a client of another interface** goes. -/
lemma TablesOk.nonNatIPAddr_del (env : CtEnv) (data : IpacmEventDataAll) (H : TablesOk x) (hsta : x.1.list.isStaMode = false) :
    Holds maxIfaceAddress 0 (x.1.handleNonNatIPAddr env data false).list.nonnatIfaceIpv4Addr
        (added x.2.nonnat \ {data.ipv4Addr}) ∧
      (x.1.handleNonNatIPAddr env data false).list = { x.1.list with
        nonnatIfaceIpv4Addr :=
          (x.1.handleNonNatIPAddr env data false).list.nonnatIfaceIpv4Addr } := by
  unfold CtSys.handleNonNatIPAddr
  rw [if_neg (by simp [hsta]), if_neg (by simp)]
  cases hidx : firstIdx maxIfaceAddress fun cnt =>
      x.1.list.nonnatIfaceIpv4Addr cnt = data.ipv4Addr with
  | none =>
      have habsent : data.ipv4Addr ∉ added x.2.nonnat := by
        intro hmem
        obtain ⟨-, k, hk, hka⟩ := (H.nonnat.mem_iff _).mp hmem
        have := firstIdx_eq_none.mp hidx k hk
        simp [hka] at this
      rw [Set.sdiff_singleton_eq_self habsent]
      exact ⟨H.nonnat, rfl⟩
  | some j =>
      obtain ⟨hj, hslot, -⟩ := firstIdx_eq_some.mp hidx
      exact ⟨H.nonnat.erase hj (by simpa using hslot), rfl⟩

/-- **The address of a client of the station interface** comes in, into the slot behind the last. -/
lemma TablesOk.staClientAdd (H : TablesOk x) (hfit : (CtOp.staClientAdd a).FitsTables x.1) :
    Holds maxStaClntIfaces 0 (x.1.handleSTAClientAddEvt a).list.staClntIpv4Addr
        (insert a (added x.2.sta)) ∧
      (∃ c ≤ maxStaClntIfaces, (x.1.handleSTAClientAddEvt a).list.staClntCnt = c ∧
        Packed maxStaClntIfaces 0 (x.1.handleSTAClientAddEvt a).list.staClntIpv4Addr c) ∧
      (x.1.handleSTAClientAddEvt a).list.natIfaceIpv4Addr = x.1.list.natIfaceIpv4Addr ∧
      (x.1.handleSTAClientAddEvt a).list.nonnatIfaceIpv4Addr = x.1.list.nonnatIfaceIpv4Addr := by
  obtain ⟨ha, hroom⟩ := hfit
  obtain ⟨c, hc, hcnt, hpack⟩ := H.packed
  have hins : (∃ k < maxStaClntIfaces, x.1.list.staClntIpv4Addr k = a) →
      insert a (added x.2.sta) = added x.2.sta := by
    rintro ⟨k, hk, hka⟩
    exact Set.insert_eq_of_mem ((H.sta.mem_iff a).mpr ⟨ha, k, hk, hka⟩)
  unfold CtSys.handleSTAClientAddEvt
  by_cases hfull : x.1.list.staClntCnt ≥ maxStaClntIfaces
  · rw [if_pos hfull, hins (hroom.resolve_right (not_lt.mpr hfull))]
    exact ⟨H.sta, H.packed, rfl, rfl⟩
  have hlt : c < maxStaClntIfaces := by
    rw [hcnt] at hfull
    exact_mod_cast not_le.mp hfull
  rw [if_neg hfull]
  simp only
  cases hidx : firstIdx maxStaClntIfaces fun cnt =>
      x.1.list.staClntIpv4Addr cnt ≠ 0 ∧ x.1.list.staClntIpv4Addr cnt = a ∨
        x.1.list.staClntIpv4Addr cnt = 0 with
  | none =>
      have hfree : x.1.list.staClntIpv4Addr c = 0 := by
        by_contra h
        exact lt_irrefl c ((hpack c hlt).mp h)
      have := firstIdx_eq_none.mp hidx c hlt
      simp [hfree] at this
  | some j =>
      obtain ⟨hj, hslot, hfirst⟩ := firstIdx_eq_some.mp hidx
      simp only [decide_eq_true_eq, decide_eq_false_iff_not] at hslot hfirst
      by_cases hfree : x.1.list.staClntIpv4Addr j = 0
      · -- the first free slot is the one behind those in use
        have hjc : j = c := by
          have hge : ¬ j < c := fun h => (hpack j hj).mpr h hfree
          have hle : ¬ c < j := fun h => hfirst c h (Or.inr (by
            by_contra hne
            exact lt_irrefl c ((hpack c hlt).mp hne)))
          omega
        subst hjc
        simp only [if_pos hfree]
        refine ⟨H.sta.insert hj hfree ha fun hmem => ?_, ⟨j + 1, hlt, ?_, hpack.push ha⟩, rfl, rfl⟩
        · obtain ⟨-, i, hi, hia⟩ := (H.sta.mem_iff _).mp hmem
          have hij := (hpack i hi).mp (hia ▸ ha)
          exact hfirst i hij (Or.inl ⟨hia ▸ ha, hia⟩)
        · simp [CtListener.setSta, hcnt]
      · have hka := (hslot.resolve_right hfree).2
        rw [hins ⟨j, hj, hka⟩]
        simp only [if_neg hfree]
        exact ⟨H.sta, H.packed, trivial, trivial⟩

/-- **The address of a client of the station interface** goes, which is the one in the last slot. -/
lemma TablesOk.staClientDel (H : TablesOk x) (hfit : (CtOp.staClientDel a).FitsTables x.1) :
    Holds maxStaClntIfaces 0 (x.1.handleSTAClientDelEvt a).list.staClntIpv4Addr
        (added x.2.sta \ {a}) ∧
      (∃ c ≤ maxStaClntIfaces, (x.1.handleSTAClientDelEvt a).list.staClntCnt = c ∧
        Packed maxStaClntIfaces 0 (x.1.handleSTAClientDelEvt a).list.staClntIpv4Addr c) ∧
      (x.1.handleSTAClientDelEvt a).list.natIfaceIpv4Addr = x.1.list.natIfaceIpv4Addr ∧
      (x.1.handleSTAClientDelEvt a).list.nonnatIfaceIpv4Addr = x.1.list.nonnatIfaceIpv4Addr := by
  obtain ⟨c, hc, hcnt, hpack⟩ := H.packed
  unfold CtSys.handleSTAClientDelEvt
  cases hidx : firstIdx maxStaClntIfaces fun cnt =>
      x.1.list.staClntIpv4Addr cnt ≠ 0 ∧ x.1.list.staClntIpv4Addr cnt = a with
  | none =>
      have habsent : a ∉ added x.2.sta := by
        intro hmem
        obtain ⟨ha, k, hk, hka⟩ := (H.sta.mem_iff _).mp hmem
        have := firstIdx_eq_none.mp hidx k hk
        simp [hka, ha] at this
      rw [Set.sdiff_singleton_eq_self habsent]
      exact ⟨H.sta, H.packed, rfl, rfl⟩
  | some j =>
      obtain ⟨hj, hslot, -⟩ := firstIdx_eq_some.mp hidx
      simp only [decide_eq_true_eq] at hslot
      have hlast : c = j + 1 := by
        have := hfit j hj hslot.1 hslot.2
        rw [hcnt] at this
        exact_mod_cast this
      subst hlast
      refine ⟨H.sta.erase hj hslot.2, ⟨j, by omega, ?_, hpack.pop⟩, rfl, rfl⟩
      simp [CtListener.setSta, hcnt]

/-- The tables and the events stay as they are. -/
lemma TablesOk.congr (H : TablesOk x) (hl : y.1.list.SameTables x.1.list) (hg : y.2 = x.2) :
    TablesOk y := by
  obtain ⟨h1, h2, h3, h4⟩ := hl
  refine ⟨?_, ?_, ?_, ?_⟩
  · rw [h1, hg]
    exact H.nat
  · rw [h2, hg]
    exact H.nonnat
  · rw [h3, hg]
    exact H.sta
  · rw [h3, h4]
    exact H.packed

/-- **Each call that the tables can take keeps the invariant.** -/
theorem TablesOk.step (H : TablesOk x) (hst : CtOp.FitTablesStep x op y) : TablesOk y := by
  obtain ⟨hfit, rfl⟩ := hst
  cases op with
  | ctMessage env msg =>
      have hlist : (CtOp.call x.1 (.ctMessage env msg)).list = x.1.list :=
        CtSys.processCTMessage_list
      refine H.congr ?_ (by simp [CtOp.natEvts, CtOp.nonnatEvts, CtOp.staEvts])
      rw [hlist]
      exact ⟨rfl, rfl, rfl, rfl⟩
  | neighIpAddrAdd env data =>
      by_cases hnat : env.IsNat data
      · obtain ⟨hholds, hlist⟩ := H.neighIpAddrAdd hfit hnat
        refine ⟨?_, ?_, ?_, ?_⟩
        · simp only [CtOp.natEvts, if_pos hnat, added_snoc_true]
          exact hholds
        all_goals
          simp only [CtOp.call, CtOp.nonnatEvts, CtOp.staEvts, List.append_nil]
          rw [hlist]
        · exact H.nonnat
        · exact H.sta
        · exact H.packed
      · have hs : x.1.handleNeighIpAddrAddEvt env data = x.1 := if_neg hnat
        refine H.congr ?_ (by simp [CtOp.natEvts, CtOp.nonnatEvts, CtOp.staEvts, hnat])
        simp only [CtOp.call, hs]
        exact ⟨rfl, rfl, rfl, rfl⟩
  | neighIpAddrDel ipv4Addr =>
      by_cases ha : ipv4Addr = 0
      · have hzero : added x.2.nat \ {ipv4Addr} = added x.2.nat :=
          Set.sdiff_singleton_eq_self fun hmem => ((H.nat.mem_iff _).mp hmem).1 ha
        have hs : x.1.handleNeighIpAddrDelEvt ipv4Addr = x.1 := if_pos ha
        simp only [CtOp.call, hs, CtOp.natEvts, CtOp.nonnatEvts, CtOp.staEvts, List.append_nil]
        refine ⟨?_, H.nonnat, H.sta, H.packed⟩
        rw [added_snoc_false, hzero]
        exact H.nat
      · obtain ⟨tbl, htbl, hlist⟩ := CtSys.handleNeighIpAddrDelEvt_list (s := x.1) ha
        simp only [CtOp.call, CtOp.natEvts, CtOp.nonnatEvts, CtOp.staEvts, List.append_nil]
        refine ⟨?_, ?_, ?_, ?_⟩
        all_goals simp only [hlist]
        · rw [added_snoc_false]
          exact H.nat.clear htbl
        · exact H.nonnat
        · exact H.sta
        · exact H.packed
  | nonNatIPAddr env data addOp =>
      cases hsta : x.1.list.isStaMode with
      | true =>
          have hs : x.1.handleNonNatIPAddr env data addOp = x.1 := if_pos hsta
          refine H.congr ?_ (by simp [CtOp.natEvts, CtOp.nonnatEvts, CtOp.staEvts, hsta])
          simp only [CtOp.call, hs]
          exact ⟨rfl, rfl, rfl, rfl⟩
      | false =>
          simp only [CtOp.call, CtOp.natEvts, CtOp.nonnatEvts, CtOp.staEvts, List.append_nil, hsta]
          cases addOp with
          | false =>
              obtain ⟨hholds, hlist⟩ := H.nonNatIPAddr_del env data hsta
              refine ⟨?_, ?_, ?_, ?_⟩
              · rw [hlist]
                exact H.nat
              · simp only [Bool.false_eq_true, if_false, added_snoc_false]
                exact hholds
              all_goals simp only
              all_goals rw [hlist]
              · exact H.sta
              · exact H.packed
          | true =>
              by_cases hnon : env.IsNonnat data
              · obtain ⟨hholds, hlist⟩ := H.nonNatIPAddr_add hfit hsta hnon
                refine ⟨?_, ?_, ?_, ?_⟩
                · rw [hlist]
                  exact H.nat
                · simp only [Bool.false_eq_true, if_false, if_true, if_pos hnon, added_snoc_true]
                  exact hholds
                all_goals simp only
                all_goals rw [hlist]
                · exact H.sta
                · exact H.packed
              · have hs : x.1.handleNonNatIPAddr env data true = x.1 := by
                  unfold CtSys.handleNonNatIPAddr
                  rw [if_neg (by simp [hsta]), if_pos rfl]
                  exact if_neg hnon
                refine H.congr ?_ (by simp [hnon])
                simp only [hs]
                exact ⟨rfl, rfl, rfl, rfl⟩
  | staClientAdd clntIpAddr =>
      obtain ⟨hholds, hpacked, hnat, hnonnat⟩ := H.staClientAdd hfit
      simp only [CtOp.call, CtOp.natEvts, CtOp.nonnatEvts, CtOp.staEvts, List.append_nil]
      refine ⟨?_, ?_, ?_, hpacked⟩
      · rw [hnat]
        exact H.nat
      · rw [hnonnat]
        exact H.nonnat
      · rw [added_snoc_true]
        exact hholds
  | staClientDel clntIpAddr =>
      obtain ⟨hholds, hpacked, hnat, hnonnat⟩ := H.staClientDel hfit
      simp only [CtOp.call, CtOp.natEvts, CtOp.nonnatEvts, CtOp.staEvts, List.append_nil]
      refine ⟨?_, ?_, ?_, hpacked⟩
      · rw [hnat]
        exact H.nat
      · rw [hnonnat]
        exact H.nonnat
      · rw [added_snoc_false]
        exact hholds
  | wanUp ipv4Addr isSta =>
      exact H.congr CtSys.triggerWANUp_tables (by simp [CtOp.natEvts, CtOp.nonnatEvts, CtOp.staEvts])
  | wanDown ipv4Addr =>
      refine H.congr ?_ (by simp [CtOp.natEvts, CtOp.nonnatEvts, CtOp.staEvts])
      simp only [CtOp.call]
      split_ifs
      · exact CtSys.triggerWANDown_tables
      · exact ⟨rfl, rfl, rfl, rfl⟩

lemma TablesOk.init (h : s.Init) : TablesOk (s, {}) := by
  obtain ⟨-, wanIpaddr, isStaMode, hlist⟩ := h
  refine ⟨?_, ?_, ?_, 0, Nat.zero_le _, ?_, ?_⟩
  all_goals simp only [hlist]
  · rw [added_nil]
    exact Holds.empty fun _ _ => rfl
  · rw [added_nil]
    exact Holds.empty fun _ _ => rfl
  · rw [added_nil]
    exact Holds.empty fun _ _ => rfl
  · rfl
  · intro k _
    simp

/-! ### The tests -/

end Lemmas

end Ipacm
