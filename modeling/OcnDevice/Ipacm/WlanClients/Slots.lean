import OcnDevice.Ipacm.WlanClients.Headers

/-!
# The slots of the clients

A slot is used again without being cleared: by the next client after a failed add, and by the one
that attaches after a deletion.  `WlanSys.SlotAsNew` says that an add comes to the same in a slot as
in one that was never used, and so it does in every state that can be reached, as the flags of the
records are the only thing that an add could be misled by (`WlanSys.FlagsOk.slotAsNew`).
-/

namespace Ipacm.Wlan

/-- What is read of a record: the addresses as far as they are set, and the handles of the headers
that are. -/
def WlanClient.seen (c : WlanClient) : WlanClient :=
  { c with
    v4Addr := if c.ipv4Set then c.v4Addr else 0
    v6Addr := fun i => if i < c.ipv6Set then c.v6Addr i else (0, 0, 0, 0)
    hdrHdlV4 := if c.ipv4HeaderSet then c.hdrHdlV4 else 0
    hdrHdlV6 := if c.ipv6HeaderSet then c.hdrHdlV6 else 0 }

/-- Two records tell the same, the MAC address only if there is one to be told. -/
structure WlanClient.Alike (given : Prop) (c d : WlanClient) : Prop where
  seen : c.seen = { d.seen with mac := c.mac }
  mac : given → c.mac = d.mac

/-- The event tells the MAC address of the client, and there is a header to write it to. -/
def WlanSys.GivesMac (s : WlanSys) (n : ℕ) (data : WlanEx) : Prop :=
  (s.iface n).txProp ≠ some [] ∧ ∃ offset mac, WlanHdrAttrib.macAddr offset mac ∈ data

/-- **Two adds come to the same**: in what they return, in the headers installed, and in the clients
that are attached. -/
structure SameOutcome (given : Prop) (r r' : Bool × WlanSys) : Prop where
  ret : r.1 = r'.1
  hdrs : r.2.hdrs = r'.2.hdrs
  total : r.2.totalNumWifiClients = r'.2.totalNumWifiClients
  num : ∀ m, (r.2.iface m).numWifiClient = (r'.2.iface m).numWifiClient
  headerNameCount : ∀ m, (r.2.iface m).headerNameCount = (r'.2.iface m).headerNameCount
  client : ∀ m, ∀ i < (r.2.iface m).numWifiClient,
    ((r.2.iface m).wlanClient i).Alike given ((r'.2.iface m).wlanClient i)

/-- **The next slot of an interface behaves as a never-used one.** -/
def WlanSys.SlotAsNew (s : WlanSys) (n : ℕ) : Prop :=
  ∀ data ans, SameOutcome (s.GivesMac n data) (s.handleWlanClientInitEx n data ans)
    ((s.setClient n (s.iface n).numWifiClient {}).handleWlanClientInitEx n data ans)

section Lemmas

variable {s s' : WlanSys} {n m i k : ℕ} {data : WlanEx} {ans : AddAnswers} {fam : IpType}
  {x x' : Building} {c d : WlanClient} {tx : List IpType} {given : Prop}

lemma WlanClient.Alike.refl (given : Prop) (c : WlanClient) : c.Alike given c :=
  ⟨rfl, fun _ => rfl⟩

/-! ## Building alike -/

/-- Two headers under construction that differ in the record only. -/
structure Building.Alike (x x' : Building) : Prop where
  bytes : x.bytes = x'.bytes
  hdrs : x.hdrs = x'.hdrs
  hdrInfo : x.client.hdrInfo = x'.client.hdrInfo

/-- An attribute does the same to both. -/
lemma Building.Alike.attrib (h : x.Alike x') (b : Option Mac) (t : WlanHdrAttrib) :
    (x.attrib b t).Alike (x'.attrib b t) := by
  cases t with
  | macAddr offset mac =>
      refine ⟨?_, h.hdrs, h.hdrInfo⟩
      simp only [Building.attrib, h.bytes]
  | staId offset id =>
      refine ⟨?_, h.hdrs, h.hdrInfo⟩
      simp only [Building.attrib, h.bytes]
  | other => exact h

lemma Building.Alike.foldl (h : x.Alike x') (b : Option Mac) (l : WlanEx) :
    (l.foldl (Building.attrib b) x).Alike (l.foldl (Building.attrib b) x') := by
  induction l generalizing x x' with
  | nil => exact h
  | cons t l ih => exact ih (h.attrib b t)

/-- The address that the attributes tell is the same on both sides. -/
lemma foldl_mac (b : Option Mac) (l : WlanEx) (x x' : Building)
    (h : x.client.mac = x'.client.mac ∨ ∃ offset mac, WlanHdrAttrib.macAddr offset mac ∈ l) :
    (l.foldl (Building.attrib b) x).client.mac = (l.foldl (Building.attrib b) x').client.mac := by
  induction l generalizing x x' with
  | nil =>
      rcases h with h | ⟨offset, mac, hmem⟩
      · exact h
      · exact absurd hmem List.not_mem_nil
  | cons t l ih =>
      refine ih _ _ ?_
      cases t with
      | macAddr offset mac => exact Or.inl rfl
      | staId offset staId =>
          refine h.imp id fun ⟨offset, mac, hmem⟩ => ⟨offset, mac, ?_⟩
          simpa using hmem
      | other =>
          refine h.imp id fun ⟨offset, mac, hmem⟩ => ⟨offset, mac, ?_⟩
          simpa using hmem

/-- **A header is built alike.** -/
lemma addHdr_alike (h : x.Alike x') (s : WlanSys) (n : ℕ) (data : WlanEx) (ans : AddAnswers)
    (fam : IpType) :
    (s.addHdr n data ans fam x).1 = (s.addHdr n data ans fam x').1 ∧
      (s.addHdr n data ans fam x).2.Alike (s.addHdr n data ans fam x').2 ∧
      (x.client.mac = x'.client.mac ∨ (s.addHdr n data ans fam x).1 = true ∧
          (∃ offset mac, WlanHdrAttrib.macAddr offset mac ∈ data) →
        (s.addHdr n data ans fam x).2.client.mac = (s.addHdr n data ans fam x').2.client.mac) := by
  unfold WlanSys.addHdr
  rcases (ans.hdr fam).copied with _ | ⟨len, hdr⟩
  · exact ⟨rfl, h, fun hmac => hmac.resolve_right fun hret => absurd hret.1 (by simp)⟩
  · by_cases hlen : len > s.hdrMaxSize
    · simp only [if_pos hlen]
      exact ⟨trivial, h, fun hmac => hmac.resolve_right fun hret => absurd hret.1 (by simp)⟩
    · simp only [if_neg hlen]
      have hstart : Building.Alike { x with bytes := fun i => if i < len then hdr i else x.bytes i }
          { x' with bytes := fun i => if i < len then hdr i else x'.bytes i } := by
        refine ⟨?_, h.hdrs, h.hdrInfo⟩
        rw [h.bytes]
      have hdone := hstart.foldl s.bridgeMac data
      have hmac := foldl_mac s.bridgeMac data
        { x with bytes := fun i => if i < len then hdr i else x.bytes i }
        { x' with bytes := fun i => if i < len then hdr i else x'.bytes i }
      rcases (ans.hdr fam).added with _ | pick
      · exact ⟨rfl, hdone, fun hm => hmac (hm.imp id And.right)⟩
      · refine ⟨rfl, ⟨hdone.bytes, ?_, ?_⟩, fun hm => ?_⟩
        · simp only [hdone.hdrs, hdone.bytes]
        · cases fam <;> exact hdone.hdrInfo
        · cases fam <;> exact hmac (hm.imp id And.right)

/-- **The header of a family is built alike**, and the handle recorded is the same. -/
lemma addHdrs_alike (h : x.Alike x') (s : WlanSys) (n : ℕ) (data : WlanEx) (ans : AddAnswers)
    (hx : x.client.headerSet fam = true → fam ∈ tx)
    (hx' : x'.client.headerSet fam = true → fam ∈ tx) :
    (s.addHdrs n tx data ans fam x).1 = (s.addHdrs n tx data ans fam x').1 ∧
      (s.addHdrs n tx data ans fam x).2.Alike (s.addHdrs n tx data ans fam x').2 ∧
      ((s.addHdrs n tx data ans fam x).1 = true →
        (s.addHdrs n tx data ans fam x).2.client.handle fam =
          (s.addHdrs n tx data ans fam x').2.client.handle fam) ∧
      (x.client.mac = x'.client.mac ∨ (s.addHdrs n tx data ans fam x).1 = true ∧ fam ∈ tx ∧
          (∃ offset mac, WlanHdrAttrib.macAddr offset mac ∈ data) →
        (s.addHdrs n tx data ans fam x).2.client.mac =
          (s.addHdrs n tx data ans fam x').2.client.mac) := by
  have hall : (s.addHdrs n tx data ans fam x).1 = (s.addHdrs n tx data ans fam x').1 ∧
      (s.addHdrs n tx data ans fam x).2.Alike (s.addHdrs n tx data ans fam x').2 ∧
      (x.client.mac = x'.client.mac ∨ (s.addHdrs n tx data ans fam x).1 = true ∧ fam ∈ tx ∧
          (∃ offset mac, WlanHdrAttrib.macAddr offset mac ∈ data) →
        (s.addHdrs n tx data ans fam x).2.client.mac =
          (s.addHdrs n tx data ans fam x').2.client.mac) := by
    unfold WlanSys.addHdrs
    by_cases htx : fam ∈ tx
    · simp only [if_pos htx]
      obtain ⟨hret, halike, hmac⟩ := addHdr_alike h s n data ans fam
      exact ⟨hret, halike, fun hm => hmac (hm.imp id fun hm => ⟨hm.1, hm.2.2⟩)⟩
    · simp only [if_neg htx]
      exact ⟨trivial, h, fun hm => hm.resolve_right fun hm => htx hm.2.1⟩
  obtain ⟨hret, halike, hmac⟩ := hall
  refine ⟨hret, halike, fun htrue => ?_, hmac⟩
  -- the handles of the driver are the same, and so are those it had before
  rcases addHdrs_cases s n data ans hx with ⟨-, -, hh, -⟩ | ⟨-, hfalse, -⟩
  · rcases addHdrs_cases s n data ans hx' with ⟨-, -, hh', -⟩ | ⟨-, hfalse, -⟩
    · rw [halike.hdrs, hh', h.hdrs] at hh
      exact (add_left_cancel hh).symm
    · rw [← hret, htrue] at hfalse
      cases hfalse
  · rw [htrue] at hfalse
    cases hfalse

/-! ## The outcome -/

/-- The handle of a header tells whether there is one, and its handle then. -/
lemma seen_of_handle (h : c.handle fam = d.handle fam) :
    c.headerSet fam = d.headerSet fam ∧
      (if c.headerSet fam then c.hdrHdl fam else 0) =
        (if d.headerSet fam then d.hdrHdl fam else 0) := by
  unfold WlanClient.handle at h
  by_cases hc : c.headerSet fam = true
  · by_cases hd : d.headerSet fam = true
    · rw [if_pos hc, if_pos hd] at h
      rw [if_pos hc, if_pos hd]
      exact ⟨hc.trans hd.symm, Multiset.singleton_inj.mp h⟩
    · rw [if_pos hc, if_neg hd] at h
      exact absurd h (Multiset.singleton_ne_zero _)
  · by_cases hd : d.headerSet fam = true
    · rw [if_neg hc, if_pos hd] at h
      exact absurd h.symm (Multiset.singleton_ne_zero _)
    · rw [if_neg hc, if_neg hd]
      exact ⟨(Bool.eq_false_of_not_eq_true hc).trans (Bool.eq_false_of_not_eq_true hd).symm, rfl⟩

/-- The records of a client that attaches. -/
lemma attach_alike (hinfo : c.hdrInfo = d.hdrInfo) (h : ∀ fam, c.handle fam = d.handle fam)
    (hmac : given → c.mac = d.mac) (cnt : ℕ) :
    WlanClient.Alike given
      { c with
        routeRuleSetV4 := false
        routeRuleSetV6 := 0
        ipv4Set := false
        ipv6Set := 0
        powerSaveSet := false
        nameCount := cnt }
      { d with
        routeRuleSetV4 := false
        routeRuleSetV6 := 0
        ipv4Set := false
        ipv6Set := 0
        powerSaveSet := false
        nameCount := cnt } := by
  obtain ⟨hset4, hhdl4⟩ := seen_of_handle (h .v4)
  obtain ⟨hset6, hhdl6⟩ := seen_of_handle (h .v6)
  refine ⟨?_, hmac⟩
  simp only [WlanClient.headerSet, WlanClient.hdrHdl] at hset4 hhdl4 hset6 hhdl6
  simp [WlanClient.seen, hinfo, hset4, hset6] at hhdl4 hhdl6 ⊢
  exact ⟨hhdl4, hhdl6⟩

/-- One interface is written on both sides. -/
lemma sameOutcome_of_iface {t u u' : WlanSys} {a a' : WlanIface} {b : Bool}
    (hrest : ∀ m ≠ n, t.iface m = s.iface m) (hu : u.iface = Function.update s.iface n a)
    (hu' : u'.iface = Function.update t.iface n a') (hh : u.hdrs = u'.hdrs)
    (htotal : u.totalNumWifiClients = u'.totalNumWifiClients)
    (hnum : a.numWifiClient = a'.numWifiClient) (hcnt : a.headerNameCount = a'.headerNameCount)
    (hclient : ∀ i < a.numWifiClient, (a.wlanClient i).Alike given (a'.wlanClient i)) :
    SameOutcome given (b, u) (b, u') := by
  have hself : u.iface n = a ∧ u'.iface n = a' := by
    rw [hu, hu', Function.update_self, Function.update_self]
    exact ⟨rfl, rfl⟩
  have hother : ∀ m ≠ n, u.iface m = u'.iface m := fun m hm => by
    rw [hu, hu', Function.update_of_ne hm, Function.update_of_ne hm, hrest m hm]
  refine ⟨rfl, hh, htotal, fun m => ?_, fun m => ?_, fun m i hi => ?_⟩ <;> by_cases hm : m = n
  · simp only [hm, hself.1, hself.2, hnum]
  · simp only [hother m hm]
  · simp only [hm, hself.1, hself.2, hcnt]
  · simp only [hother m hm]
  · subst hm
    simp only [hself.1, hself.2] at hi ⊢
    exact hclient i hi
  · simp only [hother m hm]
    exact .refl _ _

/-- Two systems that differ in the next slot of an interface, which is clear in the second. -/
structure Cleared (n : ℕ) (s t : WlanSys) : Prop where
  iface : t.iface n =
    { s.iface n with
      wlanClient := Function.update (s.iface n).wlanClient (s.iface n).numWifiClient {} }
  rest : ∀ m ≠ n, t.iface m = s.iface m
  hdrs : t.hdrs = s.hdrs
  total : t.totalNumWifiClients = s.totalNumWifiClients
  hdrMaxSize : t.hdrMaxSize = s.hdrMaxSize
  bridgeMac : t.bridgeMac = s.bridgeMac

section Cleared

variable {t : WlanSys}

lemma cleared_setClient (s : WlanSys) (n : ℕ) :
    Cleared n s (s.setClient n (s.iface n).numWifiClient {}) :=
  ⟨iface_setIface_self _, fun _ hm => iface_setIface_of_ne hm, rfl, rfl, rfl, rfl⟩

lemma Cleared.flagsOk (h : Cleared n s t) (hs : s.FlagsOk) : t.FlagsOk := by
  intro m k fam
  by_cases hm : m = n
  · rw [hm, WlanIface.hasTx, h.iface]
    exact update_flags (hs n) (fun fam hset => by cases fam <;> cases hset) k fam
  · rw [h.rest m hm]
    exact hs m k fam

lemma Cleared.slot (h : Cleared n s t) : t.slot n = {} := by
  rw [WlanSys.slot, h.iface]
  exact Function.update_self _ _ _

lemma Cleared.room_iff (h : Cleared n s t) : t.Room n ↔ s.Room n := by
  rw [WlanSys.Room, WlanSys.Room, h.iface, h.total]

lemma Cleared.addHdrs (h : Cleared n s t) : t.addHdrs n = s.addHdrs n := by
  funext tx data ans fam x
  rw [WlanSys.addHdrs, WlanSys.addHdrs, WlanSys.addHdr, WlanSys.addHdr, h.iface, h.hdrMaxSize,
    h.bridgeMac]

/-- The records before the slot are the same. -/
lemma Cleared.client (h : Cleared n s t) (hi : i < (s.iface n).numWifiClient) :
    (t.iface n).wlanClient i = (s.iface n).wlanClient i := by
  rw [h.iface]
  exact Function.update_of_ne (ne_of_lt hi) _ _

/-- Nothing happens. -/
lemma Cleared.sameOutcome (h : Cleared n s t) (b : Bool) : SameOutcome given (b, s) (b, t) := by
  refine sameOutcome_of_iface h.rest (Function.update_eq_self n s.iface).symm
    (Function.update_eq_self n t.iface).symm h.hdrs.symm h.total.symm ?_ ?_ fun i hi => ?_
  · rw [h.iface]
  · rw [h.iface]
  · rw [h.client hi]
    exact .refl _ _

/-- The add is given up. -/
lemma Cleared.abandon (h : Cleared n s t) (hx : x.Alike x') (b : Bool) :
    SameOutcome given (b, s.abandon n x) (b, t.abandon n x') := by
  refine sameOutcome_of_iface h.rest rfl rfl hx.hdrs h.total.symm ?_ ?_ fun i hi => ?_
  · simp only [h.iface]
  · simp only [h.iface]
  · have hnum : (t.iface n).numWifiClient = (s.iface n).numWifiClient := by rw [h.iface]
    simp only [hnum, Function.update_of_ne (ne_of_lt hi), h.client hi]
    exact .refl _ _

/-- The client attaches. -/
lemma Cleared.attach (h : Cleared n s t) (hx : x.Alike x')
    (hhandle : ∀ fam, x.client.handle fam = x'.client.handle fam)
    (hmac : given → x.client.mac = x'.client.mac) (b : Bool) :
    SameOutcome given (b, s.attach n x) (b, t.attach n x') := by
  have hnum : (t.iface n).numWifiClient = (s.iface n).numWifiClient := by rw [h.iface]
  have hcnt : (t.iface n).headerNameCount = (s.iface n).headerNameCount := by rw [h.iface]
  refine sameOutcome_of_iface h.rest rfl rfl hx.hdrs ?_ ?_ ?_ fun i hi => ?_
  · simp only [WlanSys.attach, h.total]
  · simp only [hnum]
  · simp only [hcnt]
  · simp only [hnum, hcnt]
    rcases Nat.lt_succ_iff_lt_or_eq.mp hi with hi | rfl
    · rw [Function.update_of_ne (ne_of_lt hi), Function.update_of_ne (ne_of_lt hi), h.client hi]
      exact .refl _ _
    · rw [Function.update_self, Function.update_self]
      exact attach_alike hx.hdrInfo hhandle hmac _

/-- **Both headers are built alike**, and the client attaches on both sides or on none. -/
lemma Cleared.build (h : Cleared n s t) (htx : (s.iface n).txProp = some tx) (hx : x.Alike x')
    (hflags : ∀ fam, x.client.headerSet fam = true → fam ∈ tx)
    (hflags' : ∀ fam, x'.client.headerSet fam = true → fam ∈ tx) :
    SameOutcome (s.GivesMac n data)
      (if (s.addHdrs n tx data ans .v4 x).1 = false then
        (false, s.abandon n (s.addHdrs n tx data ans .v4 x).2)
      else if (s.addHdrs n tx data ans .v6 (s.addHdrs n tx data ans .v4 x).2).1 = false then
        (false, s.abandon n (s.addHdrs n tx data ans .v6 (s.addHdrs n tx data ans .v4 x).2).2)
      else (true, s.attach n (s.addHdrs n tx data ans .v6 (s.addHdrs n tx data ans .v4 x).2).2))
      (if (s.addHdrs n tx data ans .v4 x').1 = false then
        (false, t.abandon n (s.addHdrs n tx data ans .v4 x').2)
      else if (s.addHdrs n tx data ans .v6 (s.addHdrs n tx data ans .v4 x').2).1 = false then
        (false, t.abandon n (s.addHdrs n tx data ans .v6 (s.addHdrs n tx data ans .v4 x').2).2)
      else (true, t.attach n (s.addHdrs n tx data ans .v6 (s.addHdrs n tx data ans .v4 x').2).2)) := by
  have h46 : IpType.v4 ≠ .v6 := by decide
  obtain ⟨hret4, hx4, hh4, hm4⟩ := addHdrs_alike hx s n data ans (hflags .v4) (hflags' .v4)
  have hv6 := addHdrs_of_ne s n tx data ans x h46.symm
  have hv6' := addHdrs_of_ne s n tx data ans x' h46.symm
  generalize s.addHdrs n tx data ans .v4 x = r at hret4 hx4 hh4 hm4 hv6 ⊢
  generalize s.addHdrs n tx data ans .v4 x' = r' at hret4 hx4 hh4 hm4 hv6' ⊢
  by_cases hr4 : r.1 = false
  · rw [if_pos hr4, if_pos (hret4 ▸ hr4)]
    exact h.abandon hx4 false
  · have hr4' : ¬ r'.1 = false := hret4 ▸ hr4
    rw [if_neg hr4, if_neg hr4']
    obtain ⟨hret6, hx6, hh6, hm6⟩ := addHdrs_alike hx4 s n data ans
      (fun h => hflags .v6 (hv6.1 ▸ h)) (fun h => hflags' .v6 (hv6'.1 ▸ h))
    have hv4 := addHdrs_of_ne s n tx data ans r.2 h46
    have hv4' := addHdrs_of_ne s n tx data ans r'.2 h46
    generalize s.addHdrs n tx data ans .v6 r.2 = q at hret6 hx6 hh6 hm6 hv4 ⊢
    generalize s.addHdrs n tx data ans .v6 r'.2 = q' at hret6 hx6 hh6 hm6 hv4' ⊢
    by_cases hr6 : q.1 = false
    · rw [if_pos hr6, if_pos (hret6 ▸ hr6)]
      exact h.abandon hx6 false
    · have hr6' : ¬ q'.1 = false := hret6 ▸ hr6
      rw [if_neg hr6, if_neg hr6']
      refine h.attach hx6 (fun fam => ?_) (fun hgiven => ?_) true
      · cases fam with
        | v4 => rw [handle_congr hv4, handle_congr hv4', hh4 (by simpa using hr4)]
        | v6 => exact hh6 (by simpa using hr6)
      · -- the address is written with the first header, or else with the second
        obtain ⟨hne, hmac⟩ := hgiven
        refine hm6 ?_
        by_cases htx6 : IpType.v6 ∈ tx
        · exact Or.inr ⟨by simpa using hr6, htx6, hmac⟩
        · refine Or.inl (hm4 (Or.inr ⟨by simpa using hr4, ?_, hmac⟩))
          rw [htx] at hne
          cases tx with
          | nil => exact absurd rfl hne
          | cons fam tx =>
              cases fam with
              | v4 => exact List.mem_cons_self
              | v6 => exact absurd List.mem_cons_self htx6

end Cleared

/-- **A slot is as a never-used one**, if the flags of the records are within the families. -/
theorem WlanSys.FlagsOk.slotAsNew (hs : s.FlagsOk) (n : ℕ) : s.SlotAsNew n := by
  intro data ans
  have hclear := cleared_setClient s n
  generalize s.setClient n (s.iface n).numWifiClient {} = t at hclear ⊢
  have ht : t.FlagsOk := hclear.flagsOk hs
  unfold WlanSys.handleWlanClientInitEx
  rw [hclear.addHdrs, hclear.slot, hclear.hdrs, hclear.iface]
  simp only [hclear.room_iff]
  by_cases hroom : s.Room n
  · simp only [hroom, not_true_eq_false, if_false]
    cases htx : (s.iface n).txProp with
    | none => exact hclear.sameOutcome _
    | some tx =>
        by_cases halloc : ans.allocated = false
        · simp only [if_pos halloc]
          exact hclear.sameOutcome _
        · simp only [if_neg halloc]
          have hx : ∀ fam, ({ s.slot n with hdrInfo := some data } : WlanClient).headerSet fam = true →
              fam ∈ tx := fun fam h => (hasTx_iff htx).mp (hs n _ fam (by cases fam <;> exact h))
          have hx' : ∀ fam, ({ hdrInfo := some data } : WlanClient).headerSet fam = true →
              fam ∈ tx := fun fam h => by cases fam <;> cases h
          exact hclear.build htx ⟨rfl, rfl, rfl⟩ hx hx'
  · simp only [hroom, not_false_eq_true, if_true]
    exact hclear.sameOutcome _

/-! ## Runs -/

/-- No client is attached at the start. -/
lemma WlanSys.Init.recorded (h : s.Init) : s.Recorded s.hdrs.handles := by
  have hzero : s.recorded = 0 := Finset.sum_eq_zero fun n _ => by
    rw [WlanIface.recorded, (h.2 n).1, Finset.sum_range_zero]
  rw [WlanSys.Recorded, hzero, add_zero]

end Lemmas

/-- **The headers installed in a run are those of the attached clients**, and every slot is as a
never-used one, just if in no add of the run the IPv6 header fails behind an IPv4 header that is
installed. -/
theorem headers_recorded {s₀ s : WlanSys} {ops : List WlanOp} (h0 : s₀.Init)
    (hr : Run WlanOp.Step s₀ ops s) :
    (∀ pre u, pre <+: ops → Run WlanOp.Step s₀ pre u →
      u.Recorded s₀.hdrs.handles ∧ ∀ n, u.SlotAsNew n) ↔
      Run (fun s op s' => op.Clean s ∧ op.Step s s') s₀ ops s := by
  refine Run.always_iff (I := WlanSys.FlagsOk)
    (P := fun u => u.Recorded s₀.hdrs.handles ∧ ∀ n, u.SlotAsNew n)
    (fun _ _ _ _ h h' => h.2.symm.trans h'.2) (fun _ _ _ hs h => hs.step h) ?_ h0.flagsOk
    ⟨h0.recorded, h0.flagsOk.slotAsNew⟩ hr
  intro t op u ht hrec hst
  rw [← hrec.1.step_iff ht hst]
  exact and_iff_left (ht.step hst).slotAsNew

/-- A client attaches with both headers, and its IPv4 header is deleted though it stays. -/
theorem headers_recorded_two : ∃ s, Run WlanOp.Step (.fresh {0})
    [.add 0 [.macAddr 0 5] (answersOf fun _ => true), .del 0 5 ⟨fun _ => true, fun fam => fam = .v4⟩]
      s ∧ s.Recorded (WlanSys.fresh {0}).hdrs.handles ∧ ∀ n, s.SlotAsNew n := by
  have hr : Run WlanOp.Step (.fresh {0}) [.add 0 [.macAddr 0 5] (answersOf fun _ => true),
      .del 0 5 ⟨fun _ => true, fun fam => fam = .v4⟩] _ :=
    .snoc (.snoc (.nil _) ⟨by decide, rfl⟩) ⟨by decide, rfl⟩
  refine ⟨_, hr, (headers_recorded (WlanSys.fresh_init {0}) hr).mpr ?_ _ _
    (List.prefix_refl _) hr⟩
  refine .snoc (.snoc (.nil _) ⟨?_, by decide, rfl⟩) ⟨trivial, by decide, rfl⟩
  exact fun _ _ _ _ _ => ⟨⟨_, rfl, by decide⟩, rfl⟩

/-- The driver takes the IPv4 header and not the IPv6 header: the add fails, and the IPv4 header is
left to nobody. -/
theorem header_leaked : ∃ s₀ op s, WlanSys.Init s₀ ∧ Run WlanOp.Step s₀ [op] s ∧
    ¬ s.Recorded s₀.hdrs.handles ∧ s.hdrs.handles = {7} ∧ s.recorded = 0 := by
  refine ⟨WlanSys.fresh {0}, .add 0 [.macAddr 0 5] (answersOf fun fam => fam = .v4), _,
    WlanSys.fresh_init {0}, .snoc (.nil _) ⟨by decide, rfl⟩, ?_, ?_, ?_⟩
  · unfold WlanSys.Recorded
    decide
  · decide
  · decide

end Ipacm.Wlan
