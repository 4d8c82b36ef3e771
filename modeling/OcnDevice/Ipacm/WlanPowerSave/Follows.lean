import OcnDevice.Ipacm.WlanPowerSave.Clients
import OcnDevice.Ipacm.WlanPowerSave.PwrSaveIfs

/-!
# The list of sleeping clients

`PwrSaveIfs` should hold the addresses of the attached clients that are in power save.  The list is
known by addresses and the flag by the place of a record, so that there are four ways to get them
apart: a sleeping client gets another address, which is not listed; a deletion moves records up and
leaves the flags where they are; a sleeping client goes whose address the listener does not have in
its table; and the driver fails to delete what a sleeping client has, which stays attached with its
address taken off the list.

`SaveOp.Clean` says that an event does none of this, and then, and only then, list and flags are
right in every state of a run (`power_save_follows`).  What an event does to the clients is said in
terms of the addresses that sleep (`WlanSys.sleeping`), and of those of the other clients
(`WlanSys.others`), which an event for one client leaves as they are.
-/

namespace Ipacm.Wlan

open SlotSet

/-! ## Statement -/

/-- What an event tells of the clients in power save, which are known by interface and MAC
address. -/
def SaveOp.saving : SaveOp → Set (ℕ × Mac) → Set (ℕ × Mac)
  | .powerSave n mac _, A => insert (n, mac) A
  | .recover n mac _, A => A \ {(n, mac)}
  | _, A => A

/-- An event, with the attached clients that are in power save by what the events have told. -/
def SaveOp.Step (x : SaveSys × Set (ℕ × Mac)) (op : SaveOp) (y : SaveSys × Set (ℕ × Mac)) : Prop :=
  op.ifNum ∈ x.1.wlan.ifaces ∧ op.call x.1 = y.1 ∧
    y.2 = {z | z ∈ op.saving x.2 ∧ y.1.wlan.Attached z.1 z.2} ∧ y.1.wlan.Distinct

/-- **List and flags are right**: the flags of the records are set for the clients in power save,
and the list holds their addresses, each once. -/
structure Follows (x : SaveSys × Set (ℕ × Mac)) : Prop where
  flag : ∀ n, ∀ i < x.1.wlan.num n,
    (x.1.wlan.client n i).powerSaveSet = true ↔ (n, (x.1.wlan.client n i).mac) ∈ x.2
  list : Holds ipaMaxNumWifiClients 0 x.1.ct.nat.app.pwrSaveIfs
    {ip | ∃ n, ∃ i < x.1.wlan.num n, (x.1.wlan.client n i).ipv4Set = true ∧
      (x.1.wlan.client n i).v4Addr = ip ∧ (n, (x.1.wlan.client n i).mac) ∈ x.2}

/-- **An event that gets list and flags not apart.** -/
def SaveOp.Clean (s : SaveSys) : SaveOp → Prop
  | .ipAddrAdd n mac _ _ addr _ _ => ∀ i, (s.wlan.iface n).getWlanClientIndex mac = some i →
      (s.wlan.client n i).powerSaveSet = true → addr = 0 ∨
        (s.wlan.client n i).ipv4Set = true ∧ (s.wlan.client n i).v4Addr = addr
  | .clientDel n mac ans => ∀ i, (s.wlan.iface n).getWlanClientIndex mac = some i →
      (s.wlan.Deletable n i ans → ∀ j, i ≤ j → j + 1 < s.wlan.num n →
        (s.wlan.client n j).powerSaveSet = (s.wlan.client n (j + 1)).powerSaveSet) ∧
      ∀ ip, (s.wlan.client n i).Sleeps ip → (Knows s.ct ip ↔ s.wlan.Deletable n i ans)
  | .linkDown n _ => ∀ i < s.wlan.num n, ∀ ip, (s.wlan.client n i).Sleeps ip → Knows s.ct ip
  | _ => True

/-! ## One event -/

variable {x y : SaveSys × Set (ℕ × Mac)} {s t : WlanSys} {n i : ℕ} {c : WlanClient}
  {A B : Set (ℕ × Mac)} {mac : Mac} {op : SaveOp} {ans : DelAnswers} {ip : UInt32}

/-- **What holds in every state**: the clients are distinct and counted, and those that were told to
sleep are attached. -/
structure Kept (x : SaveSys × Set (ℕ × Mac)) : Prop where
  distinct : x.1.wlan.Distinct
  sound : x.1.wlan.Sound
  told : ∀ z ∈ x.2, x.1.wlan.Attached z.1 z.2

lemma Kept.step (H : Kept x) (h : op.Step x y) : Kept y := by
  obtain ⟨hn, hcall, hA, hd⟩ := h
  refine ⟨hd, ?_, fun z hz => ?_⟩
  · rw [← hcall]
    exact H.sound.call hn
  · rw [hA] at hz
    exact hz.2

/-- List and flags in terms of the flags. -/
lemma follows_iff : Follows x ↔ x.1.wlan.Mirrors x.2 ∧
    Holds ipaMaxNumWifiClients 0 x.1.ct.nat.app.pwrSaveIfs x.1.wlan.sleeping := by
  have hset : x.1.wlan.Mirrors x.2 → x.1.wlan.sleeping =
      {ip | ∃ n, ∃ i < x.1.wlan.num n, (x.1.wlan.client n i).ipv4Set = true ∧
        (x.1.wlan.client n i).v4Addr = ip ∧ (n, (x.1.wlan.client n i).mac) ∈ x.2} := by
    intro hflag
    ext ip
    refine exists_congr fun n => exists_congr fun i => and_congr_right fun hi => ?_
    rw [WlanClient.Sleeps, hflag n i hi]
  constructor
  · intro h
    refine ⟨h.flag, ?_⟩
    rw [hset h.flag]
    exact h.list
  · rintro ⟨hflag, hlist⟩
    rw [hset hflag] at hlist
    exact ⟨hflag, hlist⟩

/-- The clients that are told to be in power save behind a step. -/
lemma SaveOp.Step.mem_iff (h : op.Step x y) {z : ℕ × Mac} (hz : y.1.wlan.Attached z.1 z.2) :
    z ∈ y.2 ↔ z ∈ op.saving x.2 := by
  rw [h.2.2.1]
  exact and_iff_left hz

/-- **The clients stay as they are**: it is a matter of the list. -/
lemma Follows.same (hP : Follows x) (hst : x.1.wlan.Alike y.1.wlan)
    (hA : ∀ n mac, x.1.wlan.Attached n mac → ((n, mac) ∈ y.2 ↔ (n, mac) ∈ x.2)) :
    Follows y ↔ Holds ipaMaxNumWifiClients 0 y.1.ct.nat.app.pwrSaveIfs x.1.wlan.sleeping := by
  rw [follows_iff, hst.mirrors hA, hst.sleeping]
  exact and_iff_right (follows_iff.mp hP).1

/-- **The record of one client is written**: it is a matter of its flag and of the list. -/
lemma Follows.put (H : Kept x) (hP : Follows x) (hi : i < x.1.wlan.num n)
    (hy : y.1.wlan = x.1.wlan.setClient n i c) (hc : c.mac = (x.1.wlan.client n i).mac)
    (hA : ∀ z, z ≠ (n, (x.1.wlan.client n i).mac) → x.1.wlan.Attached z.1 z.2 →
      (z ∈ y.2 ↔ z ∈ x.2)) :
    Follows y ↔ (c.powerSaveSet = true ↔ (n, (x.1.wlan.client n i).mac) ∈ y.2) ∧
      Holds ipaMaxNumWifiClients 0 y.1.ct.nat.app.pwrSaveIfs
        ({ip | c.Sleeps ip} ∪ x.1.wlan.others n i) := by
  rw [follows_iff, hy, mirrors_setClient H.distinct (follows_iff.mp hP).1 hi hc hA,
    sleeping_setClient c hi]

/-- At the start there is no client. -/
lemma Kept.init {s : SaveSys} (h : s.Init) : Kept (s, ∅) := by
  have hno : ∀ n i, ¬ i < s.wlan.num n := by
    intro n i hi
    rw [WlanSys.num, (h.1.2 n).1] at hi
    exact Nat.not_lt_zero i hi
  refine ⟨fun n i hi => (hno n i hi).elim, ⟨fun n _ => (h.1.2 n).1, ?_, ?_, ?_⟩,
    fun z hz => hz.elim⟩
  · rw [h.1.1]
    exact Finset.sum_eq_zero fun n _ => (h.1.2 n).1
  · rw [h.1.1]
    exact Nat.zero_le _
  · exact fun n i hi => (hno n i hi).elim

lemma Follows.init {s : SaveSys} (h : s.Init)
    (hfree : ∀ k < ipaMaxNumWifiClients, s.ct.nat.app.pwrSaveIfs k = 0) : Follows (s, ∅) := by
  have hno : ∀ n i, ¬ i < s.wlan.num n := by
    intro n i hi
    rw [WlanSys.num, (h.1.2 n).1] at hi
    exact Nat.not_lt_zero i hi
  refine follows_iff.mpr ⟨fun n i hi => (hno n i hi).elim, ?_⟩
  have hnone : s.wlan.sleeping = ∅ := by
    refine Set.eq_empty_of_forall_notMem ?_
    rintro ip ⟨n, i, hi, -⟩
    exact hno n i hi
  rw [hnone]
  exact Holds.empty hfree

end Ipacm.Wlan
