import OcnDevice.Ipacm.WlanClients.Headers
import OcnDevice.Ipacm.WlanPowerSave.Model

/-!
# The clients in power save

What an event does to the clients, in terms of the addresses that sleep (`WlanSys.sleeping`) and of
those of the other clients (`WlanSys.others`), which an event for one client leaves as they are.
An add leaves the clients as they are or attaches one that is awake (`WlanSys.init_shapes`), a
deletion leaves them as they are or moves records up (`WlanSys.down_shapes`), and the other events
write one record.

A record that moves up leaves its flag behind, so that a deletion keeps the flags right just if
those from the deleted record on are level (`mirrors_detach`).
-/

namespace Ipacm.Wlan

/-! ## Definitions -/

/-- The number of clients of an interface. -/
abbrev WlanSys.num (s : WlanSys) (n : ℕ) : ℕ := (s.iface n).numWifiClient

/-- A record of an interface. -/
abbrev WlanSys.client (s : WlanSys) (n i : ℕ) : WlanClient := (s.iface n).wlanClient i

/-- A client with a MAC address is attached to an interface. -/
def WlanSys.Attached (s : WlanSys) (n : ℕ) (mac : Mac) : Prop :=
  ∃ i < s.num n, (s.client n i).mac = mac

/-- **The attached clients have different MAC addresses and different IPv4 addresses.** -/
def WlanSys.Distinct (s : WlanSys) : Prop :=
  ∀ n, ∀ i < s.num n, ∀ m, ∀ j < s.num m,
    ((s.client n i).mac = (s.client m j).mac ∨
      (s.client n i).ipv4Set = true ∧ (s.client m j).ipv4Set = true ∧
        (s.client n i).v4Addr = (s.client m j).v4Addr) → n = m ∧ i = j

/-- The client is in power save with this IPv4 address. -/
def WlanClient.Sleeps (c : WlanClient) (ip : UInt32) : Prop :=
  c.ipv4Set = true ∧ c.v4Addr = ip ∧ c.powerSaveSet = true

/-- The driver deletes the routing rules and the headers of a client. -/
def WlanSys.Deletable (s : WlanSys) (n i : ℕ) (ans : DelAnswers) : Prop :=
  ((s.iface n).deleteDefaultQosRtrules ans (s.client n i) .v4).isSome ∧
    ((s.iface n).deleteDefaultQosRtrules ans (s.client n i) .v6).isSome ∧
    (deleteHdr ans .v4 (s.client n i) s.hdrs).1 = true ∧
    (deleteHdr ans .v6 (s.client n i) (deleteHdr ans .v4 (s.client n i) s.hdrs).2.2).1 = true

/-- What a record says of the client: its addresses and whether it is in power save. -/
structure WlanClient.SameAs (c d : WlanClient) : Prop where
  mac : c.mac = d.mac
  ipv4Set : c.ipv4Set = d.ipv4Set
  v4Addr : c.v4Addr = d.v4Addr
  powerSaveSet : c.powerSaveSet = d.powerSaveSet

/-- Two systems with the same clients. -/
structure WlanSys.Alike (s t : WlanSys) : Prop where
  ifaces : t.ifaces = s.ifaces
  total : t.totalNumWifiClients = s.totalNumWifiClients
  num : ∀ n, t.num n = s.num n
  client : ∀ n, ∀ i < s.num n, (t.client n i).SameAs (s.client n i)

/-- The addresses of the clients with the flag. -/
def WlanSys.sleeping (s : WlanSys) : Set UInt32 :=
  {ip | ∃ n, ∃ i < s.num n, (s.client n i).Sleeps ip}

/-- Those of the clients but one. -/
def WlanSys.others (s : WlanSys) (n i : ℕ) : Set UInt32 :=
  {ip | ∃ m, ∃ j < s.num m, (m, j) ≠ (n, i) ∧ (s.client m j).Sleeps ip}

/-- The flags of the records are set for these clients. -/
def WlanSys.Mirrors (s : WlanSys) (A : Set (ℕ × Mac)) : Prop :=
  ∀ n, ∀ i < s.num n, (s.client n i).powerSaveSet = true ↔ (n, (s.client n i).mac) ∈ A

/-! ## Sleeping addresses -/

variable {s t : WlanSys} {n m i j : ℕ} {c d : WlanClient} {A B : Set (ℕ × Mac)} {ip : UInt32}

lemma WlanClient.SameAs.refl (c : WlanClient) : c.SameAs c := ⟨rfl, rfl, rfl, rfl⟩

lemma WlanClient.SameAs.trans {e : WlanClient} (h : c.SameAs d) (h' : d.SameAs e) : c.SameAs e :=
  ⟨h.mac.trans h'.mac, h.ipv4Set.trans h'.ipv4Set, h.v4Addr.trans h'.v4Addr,
    h.powerSaveSet.trans h'.powerSaveSet⟩

lemma WlanClient.SameAs.sleeps (h : c.SameAs d) : c.Sleeps ip ↔ d.Sleeps ip := by
  rw [WlanClient.Sleeps, WlanClient.Sleeps, h.ipv4Set, h.v4Addr, h.powerSaveSet]

lemma WlanSys.Alike.refl (s : WlanSys) : s.Alike s := ⟨rfl, rfl, fun _ => rfl, fun _ _ _ => .refl _⟩

lemma WlanSys.Alike.sleeping (h : s.Alike t) : t.sleeping = s.sleeping := by
  ext ip
  refine exists_congr fun n => exists_congr fun i => ?_
  rw [h.num n]
  exact and_congr_right fun hi => (h.client n i hi).sleeps

lemma WlanSys.Alike.attached (h : s.Alike t) {mac : Mac} : t.Attached n mac ↔ s.Attached n mac := by
  refine exists_congr fun i => ?_
  rw [h.num n]
  exact and_congr_right fun hi => by rw [(h.client n i hi).mac]

lemma WlanSys.Alike.mirrors (h : s.Alike t) (hAB : ∀ n mac, s.Attached n mac →
    ((n, mac) ∈ B ↔ (n, mac) ∈ A)) : t.Mirrors B ↔ s.Mirrors A := by
  refine forall_congr' fun n => forall_congr' fun i => ?_
  rw [h.num n]
  refine forall_congr' fun hi => ?_
  rw [(h.client n i hi).powerSaveSet, (h.client n i hi).mac, hAB n _ ⟨i, hi, rfl⟩]

/-- One client and the others. -/
lemma sleeping_eq (hi : i < s.num n) :
    s.sleeping = {ip | (s.client n i).Sleeps ip} ∪ s.others n i := by
  ext ip
  constructor
  · rintro ⟨m, j, hj, hsleeps⟩
    by_cases heq : (m, j) = (n, i)
    · cases heq
      exact Or.inl hsleeps
    · exact Or.inr ⟨m, j, hj, heq, hsleeps⟩
  · rintro (hsleeps | ⟨m, j, hj, -, hsleeps⟩)
    · exact ⟨n, i, hi, hsleeps⟩
    · exact ⟨m, j, hj, hsleeps⟩

lemma num_setClient (s : WlanSys) (n i : ℕ) (c : WlanClient) (m : ℕ) :
    (s.setClient n i c).num m = s.num m := by
  by_cases hm : m = n
  · subst hm
    show ((s.setClient m i c).iface m).numWifiClient = _
    rw [WlanSys.setClient, iface_setIface_self]
  · exact congrArg WlanIface.numWifiClient (iface_setIface_of_ne hm)

lemma client_setClient_self (s : WlanSys) (n i : ℕ) (c : WlanClient) :
    (s.setClient n i c).client n i = c := by
  show ((s.setClient n i c).iface n).wlanClient i = c
  rw [WlanSys.setClient, iface_setIface_self]
  exact Function.update_self ..

lemma client_setClient_of_ne (s : WlanSys) (c : WlanClient) (h : (m, j) ≠ (n, i)) :
    (s.setClient n i c).client m j = s.client m j := by
  show ((s.setClient n i c).iface m).wlanClient j = _
  rw [WlanSys.setClient]
  by_cases hm : m = n
  · subst hm
    rw [iface_setIface_self]
    exact Function.update_of_ne (fun hj => h (by rw [hj])) ..
  · rw [iface_setIface_of_ne hm]

/-- The other clients stay. -/
lemma others_setClient (s : WlanSys) (n i : ℕ) (c : WlanClient) :
    (s.setClient n i c).others n i = s.others n i := by
  ext ip
  refine exists_congr fun m => exists_congr fun j => ?_
  rw [num_setClient]
  refine and_congr_right fun _ => and_congr_right fun hne => ?_
  rw [client_setClient_of_ne s c hne]

lemma sleeping_setClient (c : WlanClient) (hi : i < s.num n) :
    (s.setClient n i c).sleeping = {ip | c.Sleeps ip} ∪ s.others n i := by
  rw [sleeping_eq ((num_setClient s n i c n).symm ▸ hi), client_setClient_self, others_setClient]

/-- A record that says the same. -/
lemma alike_setClient (h : c.SameAs (s.client n i)) : s.Alike (s.setClient n i c) := by
  refine ⟨rfl, rfl, num_setClient s n i c, fun m j hj => ?_⟩
  by_cases heq : (m, j) = (n, i)
  · cases heq
    rw [client_setClient_self]
    exact h
  · rw [client_setClient_of_ne s c heq]
    exact .refl _

/-- **The flags are right** when a record is written if the new one is. -/
lemma mirrors_setClient (hd : s.Distinct) (hA : s.Mirrors A) (hi : i < s.num n)
    (hc : c.mac = (s.client n i).mac)
    (hAB : ∀ z, z ≠ (n, (s.client n i).mac) → s.Attached z.1 z.2 → (z ∈ B ↔ z ∈ A)) :
    (s.setClient n i c).Mirrors B ↔ (c.powerSaveSet = true ↔ (n, (s.client n i).mac) ∈ B) := by
  constructor
  · intro h
    have hself := h n i ((num_setClient s n i c n).symm ▸ hi)
    rwa [client_setClient_self, hc] at hself
  · intro h m j hj
    rw [num_setClient] at hj
    by_cases heq : (m, j) = (n, i)
    · cases heq
      rwa [client_setClient_self, hc]
    · rw [client_setClient_of_ne s c heq, hA m j hj]
      refine (hAB _ (fun hz => heq ?_) ⟨j, hj, rfl⟩).symm
      obtain ⟨hmn, hmac⟩ := Prod.mk.inj hz
      obtain ⟨-, hji⟩ := hd m j hj n i hi (Or.inl hmac)
      rw [hmn, hji]

/-! ### Records move up -/

/-- What the records say when those behind a client have moved up. -/
lemma client_detach (hdrs : HandleTable Hdr) (hc : c.SameAs (s.client n i))
    (hj : j + 1 < s.num n) :
    ((s.detach n i c hdrs).client n j).mac = (s.client n (if j < i then j else j + 1)).mac ∧
      ((s.detach n i c hdrs).client n j).ipv4Set =
        (s.client n (if j < i then j else j + 1)).ipv4Set ∧
      ((s.detach n i c hdrs).client n j).v4Addr =
        (s.client n (if j < i then j else j + 1)).v4Addr ∧
      ((s.detach n i c hdrs).client n j).powerSaveSet = (s.client n j).powerSaveSet := by
  have hiface : (s.detach n i c hdrs).client n j =
      shiftDown WlanClient.moveUp i (s.num n - 1)
        (Function.update (s.iface n).wlanClient i c.resetClient) j := by
    show ((s.detach n i c hdrs).iface n).wlanClient j = _
    rw [show (s.detach n i c hdrs).iface n = _ from iface_setIface_self _]
  rw [hiface, shiftDown_apply]
  by_cases hji : j < i
  · rw [if_neg (by omega), Function.update_of_ne (by omega), if_pos hji]
    exact ⟨rfl, rfl, rfl, rfl⟩
  · rw [if_pos ⟨by omega, by omega⟩, if_neg hji,
      Function.update_of_ne (show j + 1 ≠ i by omega)]
    refine ⟨rfl, rfl, rfl, ?_⟩
    show (Function.update (s.iface n).wlanClient i c.resetClient j).powerSaveSet = _
    by_cases heq : j = i
    · subst heq
      rw [Function.update_self]
      exact hc.powerSaveSet
    · rw [Function.update_of_ne heq]

lemma num_detach_self (s : WlanSys) (n i : ℕ) (c : WlanClient) (hdrs : HandleTable Hdr) :
    (s.detach n i c hdrs).num n = s.num n - 1 := by
  show ((s.detach n i c hdrs).iface n).numWifiClient = _
  rw [show (s.detach n i c hdrs).iface n = _ from iface_setIface_self _]

lemma iface_detach_of_ne {hdrs : HandleTable Hdr} (hm : m ≠ n) :
    (s.detach n i c hdrs).iface m = s.iface m := iface_setIface_of_ne hm

/-- The flags of the records that move up are those of the records behind them. -/
def WlanSys.Level (s : WlanSys) (n i : ℕ) : Prop :=
  ∀ j, i ≤ j → j + 1 < s.num n →
    (s.client n j).powerSaveSet = (s.client n (j + 1)).powerSaveSet

lemma WlanSys.Level.flag (h : s.Level n i) (hj : j + 1 < s.num n) :
    (s.client n j).powerSaveSet = (s.client n (if j < i then j else j + 1)).powerSaveSet := by
  split_ifs with hji
  · rfl
  · exact h j (not_lt.mp hji) hj

/-- **An add**: the clients are the same, or there is one more, which is awake. -/
lemma WlanSys.init_shapes (s : WlanSys) (n : ℕ) (data : WlanEx) (ans : AddAnswers) :
    s.Alike (s.handleWlanClientInitEx n data ans).2 ∨
      s.Room n ∧ ∃ x, (s.handleWlanClientInitEx n data ans).2 = s.attach n x := by
  have habandon : ∀ x, s.Alike (s.abandon n x) := by
    intro x
    refine ⟨rfl, rfl, num_setClient s n _ x.client, fun m j hj => ?_⟩
    have hne : (m, j) ≠ (n, s.num n) := by
      intro heq
      obtain ⟨rfl, rfl⟩ := Prod.mk.inj heq
      exact lt_irrefl _ hj
    show ((s.setClient n (s.num n) x.client).client m j).SameAs _
    rw [client_setClient_of_ne s _ hne]
    exact .refl _
  have hself := WlanSys.Alike.refl s
  unfold WlanSys.handleWlanClientInitEx
  by_cases hroom : s.Room n
  · rw [if_neg (not_not.mpr hroom)]
    cases (s.iface n).txProp with
    | none => exact Or.inl hself
    | some tx =>
        dsimp only
        by_cases halloc : ans.allocated = false
        · rw [if_pos halloc]
          exact Or.inl hself
        · rw [if_neg halloc]
          split_ifs
          · exact Or.inl (habandon _)
          · exact Or.inl (habandon _)
          · exact Or.inr ⟨hroom, _, rfl⟩
  · rw [if_pos hroom]
    exact Or.inl hself

/-- The routing rules are not what a record is asked for here. -/
lemma deleteDefaultQosRtrules_sameAs {a : WlanIface} {ans : DelAnswers} {fam : IpType}
    (h : a.deleteDefaultQosRtrules ans c fam = some d) : d.SameAs c := by
  cases fam <;> simp only [WlanIface.deleteDefaultQosRtrules] at h <;> split_ifs at h <;>
    obtain rfl := Option.some.inj h <;> exact ⟨rfl, rfl, rfl, rfl⟩

/-- Whether a header is deleted is a matter of its handle. -/
lemma deleteHdr_congr {fam : IpType} (ans : DelAnswers) (hdrs : HandleTable Hdr)
    (hset : c.headerSet fam = d.headerSet fam) (hhdl : c.hdrHdl fam = d.hdrHdl fam) :
    (deleteHdr ans fam c hdrs).1 = (deleteHdr ans fam d hdrs).1 ∧
      (deleteHdr ans fam c hdrs).2.2 = (deleteHdr ans fam d hdrs).2.2 := by
  unfold deleteHdr
  rw [hset, hhdl]
  split_ifs
  · rcases deleteHeaderHdl hdrs (d.hdrHdl fam) (ans.hdr fam) with ⟨_ | _, hdrs'⟩ <;>
      exact ⟨rfl, rfl⟩
  · exact ⟨rfl, rfl⟩

/-- The header of the other family stays. -/
lemma deleteHdr_other {fam fam' : IpType} (ans : DelAnswers) (c : WlanClient)
    (hdrs : HandleTable Hdr) (h : fam' ≠ fam) :
    (deleteHdr ans fam c hdrs).2.1.headerSet fam' = c.headerSet fam' ∧
      (deleteHdr ans fam c hdrs).2.1.hdrHdl fam' = c.hdrHdl fam' := by
  rcases deleteHdr_cases ans fam c hdrs with hr | ⟨d, hdrs', hr, -, -, -, hother⟩
  · rw [hr]
    exact ⟨rfl, rfl⟩
  · rw [hr]
    exact hother fam' h

lemma deleteHdr_sameAs (fam : IpType) (ans : DelAnswers) (c : WlanClient)
    (hdrs : HandleTable Hdr) : (deleteHdr ans fam c hdrs).2.1.SameAs c := by
  unfold deleteHdr
  split_ifs
  · rcases deleteHeaderHdl hdrs (c.hdrHdl fam) (ans.hdr fam) with ⟨_ | _, hdrs'⟩
    · exact .refl c
    · cases fam <;> exact ⟨rfl, rfl, rfl, rfl⟩
  · exact .refl c

/-- **A deletion**: the client is gone just if the driver deletes what it has, and else it says what
it said before. -/
lemma WlanSys.down_shapes {mac : Mac} (hidx : (s.iface n).getWlanClientIndex mac = some i)
    (ans : DelAnswers) : ∃ c hdrs, c.SameAs (s.client n i) ∧
      (s.Deletable n i ans ∧ (s.handleWlanClientDownEvt n mac ans).2 = s.detach n i c hdrs ∨
        ¬ s.Deletable n i ans ∧
          (s.handleWlanClientDownEvt n mac ans).2 = { s.setClient n i c with hdrs }) := by
  unfold WlanSys.handleWlanClientDownEvt WlanSys.Deletable
  rw [hidx]
  cases h4 : (s.iface n).deleteDefaultQosRtrules ans (s.client n i) .v4 with
  | none =>
      refine ⟨s.client n i, s.hdrs, .refl _, Or.inr ⟨fun h => absurd h.1 (by simp), ?_⟩⟩
      simp only [h4, setClient_self]
  | some c =>
      have hc := deleteDefaultQosRtrules_sameAs h4
      obtain rfl : { s.client n i with routeRuleSetV4 := false } = c := by
        simp only [WlanIface.deleteDefaultQosRtrules] at h4
        split_ifs at h4
        exact Option.some.inj h4
      cases h6 : (s.iface n).deleteDefaultQosRtrules ans
          { s.client n i with routeRuleSetV4 := false } .v6 with
      | none =>
          have h6' : (s.iface n).deleteDefaultQosRtrules ans (s.client n i) .v6 = none := by
            simp only [WlanIface.deleteDefaultQosRtrules] at h6 ⊢
            split_ifs at h6 ⊢
            rfl
          refine ⟨_, s.hdrs, hc, Or.inr ⟨fun h => absurd h.2.1 (by simp [h6']), ?_⟩⟩
          simp only [h4, h6]
          rfl
      | some d =>
          have hd := (deleteDefaultQosRtrules_sameAs h6).trans hc
          obtain rfl : { s.client n i with routeRuleSetV4 := false, routeRuleSetV6 := 0 } = d := by
            simp only [WlanIface.deleteDefaultQosRtrules] at h6
            split_ifs at h6
            exact Option.some.inj h6
          have h6' : ((s.iface n).deleteDefaultQosRtrules ans (s.client n i) .v6).isSome := by
            simp only [WlanIface.deleteDefaultQosRtrules] at h6 ⊢
            split_ifs at h6 ⊢
            rfl
          simp only [h4, h6, h6']
          generalize hrec : { s.client n i with routeRuleSetV4 := false, routeRuleSetV6 := 0 } = d
            at h6 hd
          have hhdr : ∀ fam, d.headerSet fam = (s.client n i).headerSet fam ∧
              d.hdrHdl fam = (s.client n i).hdrHdl fam := by
            intro fam
            rw [← hrec]
            cases fam <;> exact ⟨rfl, rfl⟩
          obtain ⟨hret4, hhdrs4⟩ := deleteHdr_congr ans s.hdrs (hhdr .v4).1 (hhdr .v4).2
          have hother := deleteHdr_other ans d s.hdrs (show IpType.v6 ≠ .v4 by decide)
          obtain ⟨hret6, -⟩ := deleteHdr_congr ans (deleteHdr ans .v4 d s.hdrs).2.2
            (hother.1.trans (hhdr .v6).1) (hother.2.trans (hhdr .v6).2)
          rw [← hret4, ← hhdrs4, ← hret6]
          have hd4 := deleteHdr_sameAs .v4 ans d s.hdrs
          generalize deleteHdr ans .v4 d s.hdrs = r4 at hret6 hd4 ⊢
          have hd6 := deleteHdr_sameAs .v6 ans r4.2.1 r4.2.2
          generalize deleteHdr ans .v6 r4.2.1 r4.2.2 = r6 at hd6 ⊢
          by_cases hr4 : r4.1 = false
          · refine ⟨d, s.hdrs, hd, Or.inr ⟨fun h => ?_, ?_⟩⟩
            · rw [hr4] at h
              cases h.2.2.1
            · rw [if_pos hr4]
              rfl
          · rw [if_neg hr4]
            by_cases hr6 : r6.1 = false
            · refine ⟨r6.2.1, r6.2.2, (hd6.trans hd4).trans hd, Or.inr ⟨fun h => ?_, ?_⟩⟩
              · rw [hr6] at h
                cases h.2.2.2
              · rw [if_pos hr6]
            · refine ⟨r6.2.1, r6.2.2, (hd6.trans hd4).trans hd, Or.inl ⟨⟨rfl, trivial, ?_, ?_⟩, ?_⟩⟩
              · simpa using hr4
              · simpa using hr6
              · rw [if_neg hr6]

lemma deleteRtrules_sameAs (a : WlanIface) (ans : DelAnswers) (c : WlanClient) (fam : IpType) :
    (a.deleteRtrules ans c fam).SameAs c := by
  unfold WlanIface.deleteRtrules
  cases h : a.deleteDefaultQosRtrules ans c fam with
  | none => exact .refl c
  | some d => exact deleteDefaultQosRtrules_sameAs h

lemma routeRule_sameAs (a : WlanIface) (added : IpType → Bool) (c : WlanClient) (fam : IpType) :
    (a.handleWlanClientRouteRule added c fam).SameAs c := by
  cases fam with
  | v4 =>
      unfold WlanIface.handleWlanClientRouteRule
      dsimp only
      split_ifs <;> exact ⟨rfl, rfl, rfl, rfl⟩
  | v6 =>
      unfold WlanIface.handleWlanClientRouteRule
      dsimp only
      split_ifs <;> exact ⟨rfl, rfl, rfl, rfl⟩

/-- **A client goes to sleep.** -/
lemma pwrsave_spec (a : WlanIface) (ct : CtSys) (ans : DelAnswers) (h : c.powerSaveSet = false) :
    (a.handleWlanClientPwrsave (c, ct) ans).1.SameAs { c with powerSaveSet := true } ∧
      (a.handleWlanClientPwrsave (c, ct) ans).2 =
        if c.ipv4Set then { ct with nat := (ct.nat.updatePwrSaveIf c.v4Addr).2 } else ct := by
  unfold WlanIface.handleWlanClientPwrsave
  rw [if_neg (by simp [h])]
  have hsame := (deleteRtrules_sameAs a ans (a.deleteRtrules ans c .v4) .v6).trans
    (deleteRtrules_sameAs a ans c .v4)
  exact ⟨⟨hsame.mac, hsame.ipv4Set, hsame.v4Addr, rfl⟩, rfl⟩

/-- **A client is back.** -/
lemma recover_spec (a : WlanIface) (ct : CtSys) (added : IpType → Bool)
    (h : c.powerSaveSet = true) :
    (a.recover (c, ct) added).1.SameAs { c with powerSaveSet := false } ∧
      (a.recover (c, ct) added).2 =
        if c.ipv4Set then { ct with nat := (ct.nat.resetPwrSaveIf c.v4Addr).2 } else ct := by
  unfold WlanIface.recover
  rw [if_pos h]
  dsimp only
  split_ifs <;> dsimp only
  · exact ⟨(routeRule_sameAs ..).trans (routeRule_sameAs ..), rfl⟩
  · exact ⟨routeRule_sameAs .., rfl⟩
  · exact ⟨routeRule_sameAs .., rfl⟩
  · exact ⟨.refl _, rfl⟩

/-- **A client has an address**, which is new or not. -/
lemma ipAddrAdd_spec (a : WlanIface) (ct : CtSys) (env : CtEnv) (ifIndex : ℤ) (addr : UInt32)
    (ans : DelAnswers) (added : IpType → Bool) :
    (addr = 0 ∨ c.ipv4Set = true ∧ c.v4Addr = addr) ∧
        a.ipAddrAdd (c, ct) env ifIndex addr ans added = (c, ct) ∨
      ¬ (addr = 0 ∨ c.ipv4Set = true ∧ c.v4Addr = addr) ∧
        (a.ipAddrAdd (c, ct) env ifIndex addr ans added).1.SameAs
          { c with ipv4Set := true, v4Addr := addr } ∧
        (a.ipAddrAdd (c, ct) env ifIndex addr ans added).2 =
          (c.cleanNatRules ct).handleNeighIpAddrAddEvt env ⟨ifIndex, .v4, addr⟩ := by
  unfold WlanIface.ipAddrAdd WlanIface.handleWlanClientIpaddr WlanClient.cleanNatRules
  by_cases h0 : addr = 0
  · rw [if_pos h0]
    exact Or.inl ⟨Or.inl h0, rfl⟩
  by_cases hset : c.ipv4Set = false
  · have hold : ¬ (addr = 0 ∨ c.ipv4Set = true ∧ c.v4Addr = addr) := by
      simp [h0, hset]
    rw [if_neg h0, if_pos hset, if_neg (by simp [hset])]
    dsimp only
    exact Or.inr ⟨hold, (routeRule_sameAs ..).trans ⟨rfl, rfl, rfl, rfl⟩, rfl⟩
  have hyes : c.ipv4Set = true := by simpa using hset
  by_cases hsame : addr = c.v4Addr
  · rw [if_neg h0, if_neg hset, if_pos hsame]
    exact Or.inl ⟨Or.inr ⟨hyes, hsame.symm⟩, rfl⟩
  · have hold : ¬ (addr = 0 ∨ c.ipv4Set = true ∧ c.v4Addr = addr) := by
      rintro (h | ⟨-, h⟩)
      · exact h0 h
      · exact hsame h.symm
    have hdel := deleteRtrules_sameAs a ans c .v4
    rw [if_neg h0, if_neg hset, if_neg hsame, if_pos hyes]
    dsimp only
    refine Or.inr ⟨hold, (routeRule_sameAs ..).trans ⟨hdel.mac, ?_, rfl, hdel.powerSaveSet⟩, rfl⟩
    exact hdel.ipv4Set.trans hyes

/-! ### A client attaches -/

lemma num_attach_self (s : WlanSys) (n : ℕ) (b : Building) : (s.attach n b).num n = s.num n + 1 := by
  show ((s.attach n b).iface n).numWifiClient = _
  rw [show (s.attach n b).iface n = _ from iface_setIface_self _]

lemma iface_attach_of_ne {b : Building} (hm : m ≠ n) : (s.attach n b).iface m = s.iface m :=
  iface_setIface_of_ne hm

/-- The new client has no address and is awake. -/
lemma client_attach_self (s : WlanSys) (n : ℕ) (b : Building) :
    ((s.attach n b).client n (s.num n)).ipv4Set = false ∧
      ((s.attach n b).client n (s.num n)).powerSaveSet = false := by
  rw [WlanSys.client, show (s.attach n b).iface n = _ from iface_setIface_self _]
  dsimp only
  rw [Function.update_self]
  exact ⟨rfl, rfl⟩

lemma client_attach_of_ne {b : Building} (h : (m, j) ≠ (n, s.num n)) :
    (s.attach n b).client m j = s.client m j := by
  by_cases hm : m = n
  · subst hm
    rw [WlanSys.client, show (s.attach m b).iface m = _ from iface_setIface_self _]
    exact Function.update_of_ne (fun hj => h (by rw [hj])) ..
  · rw [WlanSys.client, iface_attach_of_ne hm]

/-- The records of the clients that were attached before. -/
lemma lt_num_attach {b : Building} (hj : j < (s.attach n b).num m) :
    (m, j) = (n, s.num n) ∨ (m, j) ≠ (n, s.num n) ∧ j < s.num m := by
  by_cases hm : m = n
  · subst hm
    rw [num_attach_self] at hj
    rcases Nat.lt_succ_iff_lt_or_eq.mp hj with hlt | rfl
    · exact Or.inr ⟨fun heq => hlt.ne (Prod.mk.inj heq).2, hlt⟩
    · exact Or.inl rfl
  · rw [WlanSys.num, iface_attach_of_ne hm] at hj
    exact Or.inr ⟨fun heq => hm (Prod.mk.inj heq).1, hj⟩

/-- **The clients are counted**, there are no more than the list has room for, and an address that
is set is not zero. -/
structure WlanSys.Sound (s : WlanSys) : Prop where
  absent : ∀ n ∉ s.ifaces, s.num n = 0
  total : ∑ n ∈ s.ifaces, s.num n = s.totalNumWifiClients
  room : s.totalNumWifiClients ≤ ipaMaxNumWifiClients
  addr : ∀ n, ∀ i < s.num n, (s.client n i).ipv4Set = true → (s.client n i).v4Addr ≠ 0

/-- What a record says carries over to one that says the same. -/
lemma WlanClient.SameAs.addr (h : c.SameAs d) (hd : d.ipv4Set = true → d.v4Addr ≠ 0) :
    c.ipv4Set = true → c.v4Addr ≠ 0 := by
  rw [h.ipv4Set, h.v4Addr]
  exact hd

lemma WlanSys.Sound.alike (h : s.Sound) (hst : s.Alike t) : t.Sound := by
  refine ⟨fun n hn => ?_, ?_, ?_, fun n i hi => ?_⟩
  · rw [hst.num n]
    exact h.absent n (hst.ifaces ▸ hn)
  · rw [hst.ifaces, hst.total, ← h.total]
    exact Finset.sum_congr rfl fun n _ => hst.num n
  · rw [hst.total]
    exact h.room
  · rw [hst.num n] at hi
    exact (hst.client n i hi).addr (h.addr n i hi)

/-- One interface has more clients or fewer. -/
lemma WlanSys.Sound.change (h : s.Sound) (hn : n ∈ s.ifaces) (hifaces : t.ifaces = s.ifaces)
    (hother : ∀ m, m ≠ n → t.iface m = s.iface m)
    (htotal : t.totalNumWifiClients + s.num n = s.totalNumWifiClients + t.num n)
    (hroom : t.totalNumWifiClients ≤ ipaMaxNumWifiClients)
    (haddr : ∀ i < t.num n, (t.client n i).ipv4Set = true → (t.client n i).v4Addr ≠ 0) :
    t.Sound := by
  have hnum : ∀ m, m ≠ n → t.num m = s.num m := fun m hm =>
    congrArg WlanIface.numWifiClient (hother m hm)
  refine ⟨fun m hm => ?_, ?_, hroom, fun m i hi hset => ?_⟩
  · rw [hifaces] at hm
    rw [hnum m fun heq => hm (heq ▸ hn)]
    exact h.absent m hm
  · have hs := Finset.sum_erase_add s.ifaces s.num hn
    have ht := Finset.sum_erase_add s.ifaces t.num hn
    have hsame : ∑ m ∈ s.ifaces.erase n, t.num m = ∑ m ∈ s.ifaces.erase n, s.num m :=
      Finset.sum_congr rfl fun m hm => hnum m (Finset.ne_of_mem_erase hm)
    have hcount := h.total
    rw [hifaces]
    omega
  · by_cases hm : m = n
    · subst hm
      exact haddr i hi hset
    · rw [hnum m hm] at hi
      rw [WlanSys.client, hother m hm] at hset ⊢
      exact h.addr m i hi hset

/-- The clients of one interface are among all. -/
lemma WlanSys.Sound.num_le (h : s.Sound) (hn : n ∈ s.ifaces) :
    s.num n ≤ s.totalNumWifiClients := by
  rw [← h.total]
  exact Finset.single_le_sum (fun _ _ => Nat.zero_le _) hn

lemma WlanSys.Sound.mem (h : s.Sound) (hi : i < s.num n) : n ∈ s.ifaces := by
  by_contra hn
  rw [h.absent n hn] at hi
  exact absurd hi (Nat.not_lt_zero i)

/-- The record of a client is written. -/
lemma WlanSys.Sound.setClient (h : s.Sound) (hi : i < s.num n)
    (hset : c.ipv4Set = true → c.v4Addr ≠ 0) : (s.setClient n i c).Sound := by
  refine h.change (h.mem hi) rfl (fun m hm => iface_setIface_of_ne hm) ?_ h.room fun j hj => ?_
  · rw [num_setClient]
    rfl
  · rw [num_setClient] at hj
    by_cases heq : (n, j) = (n, i)
    · cases heq
      rw [client_setClient_self]
      exact hset
    · rw [client_setClient_of_ne _ c heq]
      exact h.addr n j hj

lemma WlanSys.Sound.attach {b : Building} (h : s.Sound) (hn : n ∈ s.ifaces) (hroom : s.Room n) :
    (s.attach n b).Sound := by
  refine h.change hn rfl (fun m hm => iface_attach_of_ne hm) ?_ hroom.2 fun j hj hset => ?_
  · rw [num_attach_self]
    show s.totalNumWifiClients + 1 + _ = _
    omega
  · rcases lt_num_attach hj with heq | ⟨hne, hlt⟩
    · cases heq
      rw [(client_attach_self s n b).1] at hset
      cases hset
    · rw [client_attach_of_ne hne] at hset ⊢
      exact h.addr n j hlt hset

lemma WlanSys.Sound.detach {hdrs : HandleTable Hdr} (h : s.Sound) (hi : i < s.num n)
    (hc : c.SameAs (s.client n i)) : (s.detach n i c hdrs).Sound := by
  have hle := h.num_le (h.mem hi)
  have hroom := h.room
  have htotal : (s.detach n i c hdrs).totalNumWifiClients = s.totalNumWifiClients - 1 := rfl
  refine h.change (h.mem hi) rfl (fun m hm => iface_detach_of_ne hm) ?_ (by omega) fun j hj => ?_
  · rw [num_detach_self, htotal]
    omega
  · rw [num_detach_self] at hj
    obtain ⟨-, hset, haddr, -⟩ := client_detach hdrs hc (show j + 1 < _ by omega)
    rw [hset, haddr]
    exact h.addr n _ (by split_ifs <;> omega)

/-! ### An interface goes down -/

section LinkDown

variable {S : SaveSys} {ans : ℕ → DelAnswers}

lemma iface_linkDown_of_ne (hm : m ≠ n) :
    (S.linkDown n ans).wlan.iface m = S.wlan.iface m := iface_setIface_of_ne hm

lemma num_linkDown_self (S : SaveSys) (n : ℕ) (ans : ℕ → DelAnswers) :
    (S.linkDown n ans).wlan.num n = 0 := by
  rw [WlanSys.num, show (S.linkDown n ans).wlan.iface n = _ from iface_setIface_self _]

lemma WlanSys.Sound.linkDown (h : S.wlan.Sound) (hn : n ∈ S.wlan.ifaces) :
    (S.linkDown n ans).wlan.Sound := by
  have hle := h.num_le hn
  have hroom := h.room
  have htotal : (S.linkDown n ans).wlan.totalNumWifiClients =
      S.wlan.totalNumWifiClients - S.wlan.num n := rfl
  refine h.change hn rfl (fun m hm => iface_linkDown_of_ne hm) ?_ (by omega) fun j hj => ?_
  · rw [num_linkDown_self, htotal]
    omega
  · rw [num_linkDown_self] at hj
    exact absurd hj (Nat.not_lt_zero j)

end LinkDown

/-! ### Every event -/

section Events

variable {S : SaveSys} {mac : Mac} {f : WlanIface → WlanClient × CtSys → WlanClient × CtSys}
  {op : SaveOp}

/-- The client that is found. -/
lemma found (h : (s.iface n).getWlanClientIndex mac = some i) :
    i < s.num n ∧ (s.client n i).mac = mac := by
  obtain ⟨hi, hmac, -⟩ := firstIdx_eq_some.mp h
  exact ⟨hi, of_decide_eq_true hmac⟩

lemma not_found (h : (s.iface n).getWlanClientIndex mac = none) : ¬ s.Attached n mac := by
  rintro ⟨i, hi, hmac⟩
  simpa [hmac] using firstIdx_eq_none.mp h i hi

/-- **An event for one client**: there is no such client, or its record is written. -/
lemma onMac_cases {T : SaveSys} (h : S.onMac n mac f = T) :
    ¬ S.wlan.Attached n mac ∧ T = S ∨
      ∃ i, (S.wlan.iface n).getWlanClientIndex mac = some i ∧ i < S.wlan.num n ∧
        (S.wlan.client n i).mac = mac ∧
        T.wlan = S.wlan.setClient n i (f (S.wlan.iface n) (S.wlan.client n i, S.ct)).1 ∧
        T.ct = (f (S.wlan.iface n) (S.wlan.client n i, S.ct)).2 := by
  subst h
  unfold SaveSys.onMac
  cases hidx : (S.wlan.iface n).getWlanClientIndex mac with
  | none => exact Or.inl ⟨not_found hidx, rfl⟩
  | some i =>
      obtain ⟨hi, hmac⟩ := found hidx
      exact Or.inr ⟨i, rfl, hi, hmac, rfl, rfl⟩

lemma WlanSys.Sound.onMac (h : S.wlan.Sound) (n : ℕ) (mac : Mac)
    (hf : ∀ a c ct, (c.ipv4Set = true → c.v4Addr ≠ 0) →
      (f a (c, ct)).1.ipv4Set = true → (f a (c, ct)).1.v4Addr ≠ 0) :
    (S.onMac n mac f).wlan.Sound := by
  rcases onMac_cases (rfl : S.onMac n mac f = _) with ⟨-, hT⟩ | ⟨i, -, hi, -, hwlan, -⟩
  · rw [hT]
    exact h
  · rw [hwlan]
    exact h.setClient hi (hf _ _ _ (h.addr n i hi))

lemma down_none (h : (s.iface n).getWlanClientIndex mac = none) (ans : DelAnswers) :
    (s.handleWlanClientDownEvt n mac ans).2 = s := by
  rw [WlanSys.handleWlanClientDownEvt, h]

/-- The clients are the same whatever headers there are. -/
lemma alike_setClient_hdrs (hc : c.SameAs (s.client n i)) (hdrs : HandleTable Hdr) :
    s.Alike { s.setClient n i c with hdrs } := by
  obtain ⟨hifaces, htotal, hnum, hclient⟩ := alike_setClient hc
  exact ⟨hifaces, htotal, hnum, hclient⟩

/-- **Every event keeps the clients in order.** -/
lemma WlanSys.Sound.call (h : S.wlan.Sound) (hn : op.ifNum ∈ S.wlan.ifaces) :
    (op.call S).wlan.Sound := by
  cases op with
  | clientAdd n data ans =>
      show ((S.wlan.handleWlanClientInitEx n data ans).2).Sound
      rcases S.wlan.init_shapes n data ans with hsame | ⟨hroom, b, hb⟩
      · exact h.alike hsame
      · rw [hb]
        exact h.attach hn hroom
  | clientDel n mac ans =>
      show ((S.wlan.handleWlanClientDownEvt n mac ans).2).Sound
      cases hidx : (S.wlan.iface n).getWlanClientIndex mac with
      | none =>
          rw [down_none hidx]
          exact h
      | some i =>
          obtain ⟨c, hdrs, hc, ⟨-, hr⟩ | ⟨-, hr⟩⟩ := WlanSys.down_shapes hidx ans
          · rw [hr]
            exact h.detach (found hidx).1 hc
          · rw [hr]
            exact h.alike (alike_setClient_hdrs hc hdrs)
  | powerSave n mac ans =>
      refine h.onMac n mac fun a c ct hc => ?_
      cases hflag : c.powerSaveSet with
      | true =>
          rw [WlanIface.handleWlanClientPwrsave, if_pos hflag]
          exact hc
      | false => exact (pwrsave_spec a ct ans hflag).1.addr hc
  | recover n mac added =>
      refine h.onMac n mac fun a c ct hc => ?_
      cases hflag : c.powerSaveSet with
      | true => exact (recover_spec a ct added hflag).1.addr hc
      | false =>
          rw [WlanIface.recover, if_neg (by simp [hflag])]
          exact hc
  | ipAddrAdd n mac env ifIndex addr ans added =>
      refine h.onMac n mac fun a c ct hc => ?_
      rcases ipAddrAdd_spec (c := c) a ct env ifIndex addr ans added with
        ⟨-, hr⟩ | ⟨hnew, hsame, -⟩
      · rw [hr]
        exact hc
      · exact hsame.addr fun _ h0 => hnew (Or.inl h0)
  | linkDown n ans => exact h.linkDown hn

end Events

end Ipacm.Wlan
