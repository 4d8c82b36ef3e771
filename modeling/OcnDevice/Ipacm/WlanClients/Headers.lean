import OcnDevice.Ipacm.WlanClients.Model

/-!
# The headers of the clients

The headers of clients that are installed should be those that the records of the attached clients
have.  A client attaches with up to two headers, and it is counted when both are there; a failure
before that leaves the record to the next client, and whatever header was installed already is left
to nobody.

So `WlanSys.Recorded` is kept by an add just if nothing fails behind a header that the add has
installed (`WlanOp.Clean`, `Recorded.step_iff`).  A deletion keeps it in any case: what fails to be
deleted stays recorded.
-/

namespace Ipacm.Wlan

open Finset

/-- The handle of the client's header of the family, if it has one. -/
def WlanClient.handle (c : WlanClient) (fam : IpType) : Multiset ℕ :=
  if c.headerSet fam then {c.hdrHdl fam} else 0

/-- The handles of the client's headers. -/
def WlanClient.handles (c : WlanClient) : Multiset ℕ := c.handle .v4 + c.handle .v6

/-- The handles that the attached clients of an interface have. -/
def WlanIface.recorded (a : WlanIface) : Multiset ℕ :=
  ∑ k ∈ range a.numWifiClient, (a.wlanClient k).handles

/-- The handles that the attached clients have. -/
def WlanSys.recorded (s : WlanSys) : Multiset ℕ := ∑ n ∈ s.ifaces, (s.iface n).recorded

/-- **The headers installed beside those of others are the recorded ones.** -/
def WlanSys.Recorded (s : WlanSys) (others : Multiset ℕ) : Prop :=
  s.hdrs.handles = others + s.recorded

/-- The driver builds and takes the header of the family. -/
def AddAnswers.HdrOk (ans : AddAnswers) (hdrMaxSize : ℕ) (fam : IpType) : Prop :=
  (∃ p, (ans.hdr fam).copied = some p ∧ p.1 ≤ hdrMaxSize) ∧ (ans.hdr fam).added.isSome

/-- The client that is added attaches. -/
def WlanSys.Attaches (s : WlanSys) (n : ℕ) (ans : AddAnswers) : Prop :=
  s.Room n ∧ ans.allocated = true ∧ (s.iface n).txProp.isSome ∧
    ∀ fam, (s.iface n).hasTx fam = true → ans.HdrOk s.hdrMaxSize fam

/-- **Nothing fails behind an installed header**: if the IPv4 header of a client is installed, so is
the IPv6 header. -/
def WlanOp.Clean (s : WlanSys) : WlanOp → Prop
  | .add n _ ans => s.Room n → ans.allocated = true → (s.iface n).hasTx .v4 = true →
      ans.HdrOk s.hdrMaxSize .v4 → (s.iface n).hasTx .v6 = true → ans.HdrOk s.hdrMaxSize .v6
  | .del _ _ _ => True

/-- A record has headers of the families of the interface only. -/
def WlanSys.FlagsOk (s : WlanSys) : Prop :=
  ∀ n i fam, ((s.iface n).wlanClient i).headerSet fam = true → (s.iface n).hasTx fam = true

section Lemmas

variable {s s' : WlanSys} {n m i k : ℕ} {data : WlanEx} {ans : AddAnswers} {del : DelAnswers}
  {fam fam' : IpType} {x : Building} {c d : WlanClient} {tx : List IpType} {H F : Multiset ℕ}
  {mac : Mac}

/-! ## Building a header -/

@[simp] lemma headerSet_setHeader_self (hdl : ℕ) : (c.setHeader hdl fam).headerSet fam = true := by
  cases fam <;> rfl

@[simp] lemma hdrHdl_setHeader_self (hdl : ℕ) : (c.setHeader hdl fam).hdrHdl fam = hdl := by
  cases fam <;> rfl

/-- The header of one family is not that of the other. -/
lemma setHeader_of_ne (hdl : ℕ) (h : fam' ≠ fam) :
    (c.setHeader hdl fam).headerSet fam' = c.headerSet fam' ∧
      (c.setHeader hdl fam).hdrHdl fam' = c.hdrHdl fam' := by
  cases fam <;> cases fam' <;> first | exact absurd rfl h | exact ⟨rfl, rfl⟩

lemma handle_congr (h : d.headerSet fam = c.headerSet fam ∧ d.hdrHdl fam = c.hdrHdl fam) :
    d.handle fam = c.handle fam := by
  rw [WlanClient.handle, WlanClient.handle, h.1, h.2]

/-- The attributes of a client change no header that is installed. -/
lemma attrib_foldl (b : Option Mac) (l : WlanEx) (x : Building) :
    (∃ mac, (l.foldl (Building.attrib b) x).client = { x.client with mac }) ∧
      (l.foldl (Building.attrib b) x).hdrs = x.hdrs := by
  induction l generalizing x with
  | nil => exact ⟨⟨x.client.mac, rfl⟩, rfl⟩
  | cons t l ih =>
      obtain ⟨⟨mac, hc⟩, hh⟩ := ih (x.attrib b t)
      rw [List.foldl_cons, hc, hh]
      cases t <;> exact ⟨⟨_, rfl⟩, rfl⟩

/-- **A header is built**, or it is not and none is installed. -/
lemma WlanSys.addHdr_cases (s : WlanSys) (n : ℕ) (data : WlanEx) (ans : AddAnswers) (fam : IpType)
    (x : Building) :
    (ans.HdrOk s.hdrMaxSize fam ∧ (s.addHdr n data ans fam x).1 = true ∧ ∃ mac pick hdr,
        (s.addHdr n data ans fam x).2.client =
          ({ x.client with mac } : WlanClient).setHeader (x.hdrs.fresh pick) fam ∧
        (s.addHdr n data ans fam x).2.hdrs = x.hdrs.add pick hdr) ∨
      (¬ ans.HdrOk s.hdrMaxSize fam ∧ (s.addHdr n data ans fam x).1 = false ∧
        (∃ mac, (s.addHdr n data ans fam x).2.client = { x.client with mac }) ∧
        (s.addHdr n data ans fam x).2.hdrs = x.hdrs) := by
  unfold AddAnswers.HdrOk
  cases hcopy : (ans.hdr fam).copied with
  | none =>
      have hr : s.addHdr n data ans fam x = (false, x) := by
        rw [WlanSys.addHdr, hcopy]
      rw [hr]
      exact Or.inr ⟨by simp, rfl, ⟨x.client.mac, rfl⟩, rfl⟩
  | some p =>
      obtain ⟨len, bytes⟩ := p
      by_cases hlen : len > s.hdrMaxSize
      · have hr : s.addHdr n data ans fam x = (false, x) := by
          rw [WlanSys.addHdr, hcopy]
          exact if_pos hlen
        rw [hr]
        refine Or.inr ⟨?_, rfl, ⟨x.client.mac, rfl⟩, rfl⟩
        rintro ⟨⟨p, hp, hle⟩, -⟩
        obtain rfl := Option.some.inj hp
        exact absurd hle (not_le.mpr hlen)
      · obtain ⟨⟨mac, hc⟩, hh⟩ := attrib_foldl s.bridgeMac data
          { x with bytes := fun i => if i < len then bytes i else x.bytes i }
        rw [WlanSys.addHdr, hcopy]
        simp only [if_neg hlen]
        generalize data.foldl (Building.attrib s.bridgeMac)
          { x with bytes := fun i => if i < len then bytes i else x.bytes i } = y at hc hh ⊢
        cases hadd : (ans.hdr fam).added with
        | none => exact Or.inr ⟨by simp, rfl, ⟨mac, hc⟩, hh⟩
        | some pick =>
            refine Or.inl ⟨⟨⟨_, rfl, not_lt.mp hlen⟩, rfl⟩, rfl, mac, pick,
              ⟨hdrName fam n (s.iface n).headerNameCount, len, y.bytes⟩, ?_, ?_⟩
            · rw [← hh, ← hc]
            · rw [← hh]

/-- **The header of a family**: the record has the handle of what the driver has installed, or
nothing is installed. -/
lemma addHdrs_cases (s : WlanSys) (n : ℕ) (data : WlanEx) (ans : AddAnswers)
    (hx : x.client.headerSet fam = true → fam ∈ tx) :
    ((fam ∈ tx → ans.HdrOk s.hdrMaxSize fam) ∧ (s.addHdrs n tx data ans fam x).1 = true ∧
        (s.addHdrs n tx data ans fam x).2.hdrs.handles =
          x.hdrs.handles + (s.addHdrs n tx data ans fam x).2.client.handle fam ∧
        ((s.addHdrs n tx data ans fam x).2.client.headerSet fam = true ↔ fam ∈ tx)) ∨
      ((fam ∈ tx ∧ ¬ ans.HdrOk s.hdrMaxSize fam) ∧ (s.addHdrs n tx data ans fam x).1 = false ∧
        (s.addHdrs n tx data ans fam x).2.hdrs = x.hdrs ∧
        (s.addHdrs n tx data ans fam x).2.client.headerSet fam = x.client.headerSet fam) := by
  unfold WlanSys.addHdrs
  by_cases htx : fam ∈ tx
  · rw [if_pos htx]
    rcases s.addHdr_cases n data ans fam x with
      ⟨hok, hret, mac, pick, hdr, hc, hh⟩ | ⟨hno, hret, ⟨mac, hc⟩, hh⟩
    · refine Or.inl ⟨fun _ => hok, hret, ?_, ?_⟩
      · rw [hc, hh, HandleTable.handles_add, WlanClient.handle, headerSet_setHeader_self, if_pos rfl,
          hdrHdl_setHeader_self]
      · rw [hc, headerSet_setHeader_self]
        exact ⟨fun _ => htx, fun _ => rfl⟩
    · refine Or.inr ⟨⟨htx, hno⟩, hret, hh, ?_⟩
      rw [hc]
      cases fam <;> rfl
  · rw [if_neg htx]
    have hset : ¬ x.client.headerSet fam = true := fun h => htx (hx h)
    refine Or.inl ⟨fun h => absurd h htx, rfl, ?_, fun h => absurd h hset, fun h => absurd h htx⟩
    rw [WlanClient.handle, if_neg hset, add_zero]

/-- The header of one family leaves that of the other alone. -/
lemma addHdrs_of_ne (s : WlanSys) (n : ℕ) (tx : List IpType) (data : WlanEx) (ans : AddAnswers)
    (x : Building) (h : fam' ≠ fam) :
    (s.addHdrs n tx data ans fam x).2.client.headerSet fam' = x.client.headerSet fam' ∧
      (s.addHdrs n tx data ans fam x).2.client.hdrHdl fam' = x.client.hdrHdl fam' := by
  unfold WlanSys.addHdrs
  split_ifs
  · rcases s.addHdr_cases n data ans fam x with
      ⟨-, -, mac, pick, -, hc, -⟩ | ⟨-, -, ⟨mac, hc⟩, -⟩
    · rw [hc]
      refine (setHeader_of_ne _ h).imp (·.trans ?_) (·.trans ?_) <;> cases fam' <;> rfl
    · rw [hc]
      cases fam' <;> exact ⟨rfl, rfl⟩
  · exact ⟨rfl, rfl⟩

/-! ## Adding a client -/

lemma hasTx_iff {a : WlanIface} (h : a.txProp = some tx) : a.hasTx fam = true ↔ fam ∈ tx := by
  rw [WlanIface.hasTx, h, Option.getD_some, List.contains_iff_mem]

lemma handle_eq_zero_iff : c.handle fam = 0 ↔ ¬ c.headerSet fam = true := by
  rw [WlanClient.handle]
  split_ifs with h
  · simp [h]
  · simp [h]

/-- **Both headers of a client**: they are installed and recorded, or the first that fails ends the
add, and only an IPv4 header can be installed by then. -/
lemma build_cases (s : WlanSys) (n : ℕ) (data : WlanEx) (ans : AddAnswers)
    (hx : ∀ fam, x.client.headerSet fam = true → fam ∈ tx) :
    ((∀ fam ∈ tx, ans.HdrOk s.hdrMaxSize fam) ∧ (s.addHdrs n tx data ans .v4 x).1 = true ∧
        (s.addHdrs n tx data ans .v6 (s.addHdrs n tx data ans .v4 x).2).1 = true ∧
        (s.addHdrs n tx data ans .v6 (s.addHdrs n tx data ans .v4 x).2).2.hdrs.handles =
          x.hdrs.handles +
            (s.addHdrs n tx data ans .v6 (s.addHdrs n tx data ans .v4 x).2).2.client.handles ∧
        ∀ fam, (s.addHdrs n tx data ans .v6
          (s.addHdrs n tx data ans .v4 x).2).2.client.headerSet fam = true ↔ fam ∈ tx) ∨
      ((IpType.v4 ∈ tx ∧ ¬ ans.HdrOk s.hdrMaxSize .v4) ∧
        (s.addHdrs n tx data ans .v4 x).1 = false ∧
        (s.addHdrs n tx data ans .v4 x).2.hdrs.handles = x.hdrs.handles ∧
        ∀ fam, (s.addHdrs n tx data ans .v4 x).2.client.headerSet fam = true → fam ∈ tx) ∨
      ((IpType.v4 ∈ tx → ans.HdrOk s.hdrMaxSize .v4) ∧
        (IpType.v6 ∈ tx ∧ ¬ ans.HdrOk s.hdrMaxSize .v6) ∧
        (s.addHdrs n tx data ans .v4 x).1 = true ∧
        (s.addHdrs n tx data ans .v6 (s.addHdrs n tx data ans .v4 x).2).1 = false ∧
        (∃ L, (s.addHdrs n tx data ans .v6 (s.addHdrs n tx data ans .v4 x).2).2.hdrs.handles =
          x.hdrs.handles + L ∧ (L = 0 ↔ IpType.v4 ∉ tx)) ∧
        ∀ fam, (s.addHdrs n tx data ans .v6
          (s.addHdrs n tx data ans .v4 x).2).2.client.headerSet fam = true → fam ∈ tx) := by
  have h46 : IpType.v4 ≠ .v6 := by decide
  rcases addHdrs_cases s n data ans (hx .v4) with
    ⟨hok4, hret4, hh4, hset4⟩ | ⟨hno4, hret4, hh4, hset4⟩
  · -- the IPv4 header is there, if there is to be one
    have hframe := addHdrs_of_ne s n tx data ans x h46.symm
    generalize (s.addHdrs n tx data ans .v4 x).2 = y at hh4 hset4 hframe ⊢
    have hframe' := addHdrs_of_ne s n tx data ans y h46
    have hx6 : y.client.headerSet .v6 = true → IpType.v6 ∈ tx := fun h => hx .v6 (hframe.1 ▸ h)
    rcases addHdrs_cases s n data ans hx6 with ⟨hok6, hret6, hh6, hset6⟩ | ⟨hno6, hret6, hh6, hset6⟩
    · refine Or.inl ⟨fun fam hfam => ?_, hret4, hret6, ?_, fun fam => ?_⟩
      · cases fam with
        | v4 => exact hok4 hfam
        | v6 => exact hok6 hfam
      · rw [hh6, hh4, WlanClient.handles, handle_congr hframe', add_assoc]
      · cases fam with
        | v4 => rw [hframe'.1, hset4]
        | v6 => exact hset6
    · refine Or.inr (Or.inr ⟨hok4, hno6, hret4, hret6, ⟨_, by rw [hh6, hh4], ?_⟩, fun fam h => ?_⟩)
      · rw [handle_eq_zero_iff, hset4]
      · cases fam with
        | v4 =>
            rw [hframe'.1] at h
            exact hset4.mp h
        | v6 => exact hno6.1
  · refine Or.inr (Or.inl ⟨hno4, hret4, by rw [hh4], fun fam h => ?_⟩)
    cases fam with
    | v4 => exact hno4.1
    | v6 =>
        rw [(addHdrs_of_ne s n tx data ans x h46.symm).1] at h
        exact hx .v6 h

/-- **What an add comes to**: the client attaches with the headers of the families of the interface,
or it is given up, and then nothing is installed if the add is clean. -/
theorem WlanSys.init_cases (hs : s.FlagsOk) (n : ℕ) (data : WlanEx) (ans : AddAnswers) :
    (s.Attaches n ans ∧ WlanOp.Clean s (.add n data ans) ∧ ∃ x,
        s.handleWlanClientInitEx n data ans = (true, s.attach n x) ∧
        x.hdrs.handles = s.hdrs.handles + x.client.handles ∧
        ∀ fam, x.client.headerSet fam = true ↔ (s.iface n).hasTx fam = true) ∨
      (¬ s.Attaches n ans ∧ WlanOp.Clean s (.add n data ans) ∧
        (s.handleWlanClientInitEx n data ans).2 = s) ∨
      (¬ s.Attaches n ans ∧ ∃ x L,
        s.handleWlanClientInitEx n data ans = (false, s.abandon n x) ∧
        x.hdrs.handles = s.hdrs.handles + L ∧ (L = 0 ↔ WlanOp.Clean s (.add n data ans)) ∧
        ∀ fam, x.client.headerSet fam = true → (s.iface n).hasTx fam = true) := by
  unfold WlanSys.handleWlanClientInitEx
  by_cases hroom : s.Room n
  · rw [if_neg (not_not.mpr hroom)]
    cases htx : (s.iface n).txProp with
    | none =>
        refine Or.inr (Or.inl ⟨fun h => ?_, fun _ _ h => ?_, rfl⟩)
        · have hsome := h.2.2.1
          rw [htx] at hsome
          simp at hsome
        · rw [WlanIface.hasTx, htx] at h
          simp at h
    | some tx =>
        by_cases halloc : ans.allocated = false
        · simp only [if_pos halloc]
          have hno : ¬ ans.allocated = true := by simp [halloc]
          exact Or.inr (Or.inl ⟨fun h => hno h.2.1, fun _ h => absurd h hno, trivial⟩)
        · simp only [if_neg halloc]
          have hyes : ans.allocated = true := by simpa using halloc
          have hflags : ∀ fam, (⟨fun _ => 0, { s.slot n with hdrInfo := some data }, s.hdrs⟩ :
              Building).client.headerSet fam = true → fam ∈ tx := fun fam h =>
            (hasTx_iff htx).mp (hs n _ fam (by cases fam <;> exact h))
          rcases build_cases s n data ans hflags with
            ⟨hok, hret4, hret6, hh, hset⟩ | ⟨hno, hret4, hh, hset⟩ |
              ⟨hok4, hno, hret4, hret6, ⟨L, hh, hL⟩, hset⟩
          · simp only [hret4, hret6]
            refine Or.inl ⟨⟨hroom, hyes, by simp [htx], fun fam h => hok fam ((hasTx_iff htx).mp h)⟩,
              fun _ _ _ _ h6 => hok .v6 ((hasTx_iff htx).mp h6), _, rfl, hh, fun fam => ?_⟩
            rw [hset, hasTx_iff htx]
          · simp only [hret4]
            refine Or.inr (Or.inr ⟨fun h => hno.2 (h.2.2.2 .v4 ((hasTx_iff htx).mpr hno.1)), _, 0, rfl,
              by rw [hh, add_zero], ?_, fun fam h => (hasTx_iff htx).mpr (hset fam h)⟩)
            exact ⟨fun _ _ _ _ h4 => absurd h4 hno.2, fun _ => rfl⟩
          · simp only [hret4, hret6]
            refine Or.inr (Or.inr ⟨fun h => hno.2 (h.2.2.2 .v6 ((hasTx_iff htx).mpr hno.1)), _, L, rfl,
              hh, ?_, fun fam h => (hasTx_iff htx).mpr (hset fam h)⟩)
            rw [hL]
            constructor
            · intro h4 _ _ h _ _
              exact absurd ((hasTx_iff htx).mp h) h4
            · intro hclean h4
              exact hno.2 (hclean hroom hyes ((hasTx_iff htx).mpr h4) (hok4 h4)
                ((hasTx_iff htx).mpr hno.1))
  · rw [if_pos hroom]
    exact Or.inr (Or.inl ⟨fun h => hroom h.1, fun h => absurd h hroom, rfl⟩)

/-! ## Deleting a client -/

/-- What is left of a record in the course of its deletion: its name, and not more headers. -/
structure Shrinks (c d : WlanClient) : Prop where
  nameCount : d.nameCount = c.nameCount
  headerSet : ∀ fam, d.headerSet fam = true → c.headerSet fam = true

lemma Shrinks.refl (c : WlanClient) : Shrinks c c := ⟨rfl, fun _ => id⟩

lemma Shrinks.trans {e : WlanClient} (h : Shrinks c d) (h' : Shrinks d e) : Shrinks c e :=
  ⟨h'.nameCount.trans h.nameCount, fun fam hset => h.headerSet fam (h'.headerSet fam hset)⟩

/-- The routing rules have nothing to do with the headers. -/
lemma deleteDefaultQosRtrules_some {a : WlanIface}
    (h : a.deleteDefaultQosRtrules del c fam = some d) :
    Shrinks c d ∧ d.handles = c.handles := by
  cases fam <;> simp only [WlanIface.deleteDefaultQosRtrules] at h <;> split_ifs at h <;>
    obtain rfl := Option.some.inj h <;>
    exact ⟨⟨rfl, fun fam h => by cases fam <;> exact h⟩, rfl⟩

lemma clearHeader_spec (c : WlanClient) (fam : IpType) :
    Shrinks c (c.clearHeader fam) ∧ (c.clearHeader fam).headerSet fam = false ∧
      ∀ fam', fam' ≠ fam → (c.clearHeader fam).headerSet fam' = c.headerSet fam' ∧
        (c.clearHeader fam).hdrHdl fam' = c.hdrHdl fam' := by
  refine ⟨⟨by cases fam <;> rfl, fun fam' h => ?_⟩, by cases fam <;> rfl, fun fam' h => ?_⟩
  · cases fam <;> cases fam' <;> first | exact h | exact absurd h (by simp [WlanClient.clearHeader,
      WlanClient.headerSet])
  · cases fam <;> cases fam' <;> first | exact absurd rfl h | exact ⟨rfl, rfl⟩

/-- **The header of a family is deleted**, or it is still there and still recorded. -/
lemma deleteHdr_cases (del : DelAnswers) (fam : IpType) (c : WlanClient)
    (hdrs : HandleTable Hdr) :
    (deleteHdr del fam c hdrs = (false, c, hdrs)) ∨
      ∃ d hdrs', deleteHdr del fam c hdrs = (true, d, hdrs') ∧
        (∀ F, hdrs.handles = F + c.handle fam → hdrs'.handles = F) ∧ Shrinks c d ∧
        d.headerSet fam = false ∧
        ∀ fam', fam' ≠ fam → d.headerSet fam' = c.headerSet fam' ∧ d.hdrHdl fam' = c.hdrHdl fam' := by
  unfold deleteHdr
  by_cases hset : c.headerSet fam = true
  · rw [if_pos hset, WlanClient.handle, if_pos hset]
    unfold deleteHeaderHdl
    split_ifs with h0 hok
    · exact Or.inl rfl
    · obtain ⟨h1, h2, h3⟩ := clearHeader_spec c fam
      exact Or.inr ⟨_, _, rfl, fun _ hh => HandleTable.handles_del hh, h1, h2, h3⟩
    · exact Or.inl rfl
  · rw [if_neg hset, WlanClient.handle, if_neg hset]
    refine Or.inr ⟨c, hdrs, rfl, fun F hh => ?_, .refl c, by simpa using hset,
      fun _ _ => ⟨rfl, rfl⟩⟩
    rw [hh, add_zero]

lemma setClient_self (s : WlanSys) (n i : ℕ) :
    s.setClient n i ((s.iface n).wlanClient i) = s := by
  unfold WlanSys.setClient WlanSys.setIface
  rw [Function.update_eq_self, Function.update_eq_self]

/-- **What a deletion comes to**: the client is gone with its headers, or it stays and its record has
the headers that are left. -/
theorem WlanSys.down_cases (hi : (s.iface n).getWlanClientIndex mac = some i) (ans : DelAnswers) :
    (∃ c hdrs, s.handleWlanClientDownEvt n mac ans = (false, { s.setClient n i c with hdrs }) ∧
        (∀ F, s.hdrs.handles = F + ((s.iface n).wlanClient i).handles →
          hdrs.handles = F + c.handles) ∧
        Shrinks ((s.iface n).wlanClient i) c) ∨
      ∃ c hdrs, s.handleWlanClientDownEvt n mac ans = (true, s.detach n i c hdrs) ∧
        (∀ F, s.hdrs.handles = F + ((s.iface n).wlanClient i).handles → hdrs.handles = F) ∧
        Shrinks ((s.iface n).wlanClient i) c := by
  unfold WlanSys.handleWlanClientDownEvt
  rw [hi]
  cases hrt4 : (s.iface n).deleteDefaultQosRtrules ans ((s.iface n).wlanClient i) .v4 with
  | none =>
      refine Or.inl ⟨(s.iface n).wlanClient i, s.hdrs, ?_, fun _ => id, .refl _⟩
      simp only [setClient_self, hrt4]
  | some c =>
      obtain ⟨hsh, hhdl⟩ := deleteDefaultQosRtrules_some hrt4
      cases hrt6 : (s.iface n).deleteDefaultQosRtrules ans c .v6 with
      | none =>
          refine Or.inl ⟨c, s.hdrs, ?_, fun F hh => ?_, hsh⟩
          · simp only [hrt4, hrt6]
            rfl
          · rw [hh, hhdl]
      | some d =>
          obtain ⟨hsh', hhdl'⟩ := deleteDefaultQosRtrules_some hrt6
          have hcomm : ((s.iface n).wlanClient i).handles = d.handle .v6 + d.handle .v4 := by
            rw [← hhdl, ← hhdl', WlanClient.handles, add_comm]
          rw [hcomm]
          simp only [hrt4, hrt6]
          rcases deleteHdr_cases ans .v4 d s.hdrs with hr4 | ⟨e, hdrs, hr4, he, hsh4, hno4, hother⟩
          · refine Or.inl ⟨d, s.hdrs, ?_, fun F hh => ?_, hsh.trans hsh'⟩
            · simp only [hr4]
              rfl
            · rw [hh, WlanClient.handles, add_comm (d.handle .v6)]
          · have hv6 : d.handle .v6 = e.handle .v6 :=
              (handle_congr (hother .v6 (by decide))).symm
            have hv4 : e.handle .v4 = 0 := handle_eq_zero_iff.mpr (by simp [hno4])
            have hmid : ∀ F, s.hdrs.handles = F + (d.handle .v6 + d.handle .v4) →
                hdrs.handles = F + e.handle .v6 := by
              intro F hh
              refine he _ ?_
              rw [hh, hv6, add_assoc]
            rcases deleteHdr_cases ans .v6 e hdrs with hr6 | ⟨f, hdrs', hr6, hf, hsh6, -, -⟩
            · refine Or.inl ⟨e, hdrs, ?_, fun F hh => ?_, (hsh.trans hsh').trans hsh4⟩
              · simp only [hr4, hr6]
                rfl
              · rw [hmid F hh, WlanClient.handles, hv4, zero_add]
            · refine Or.inr ⟨f, hdrs', ?_, fun F hh => hf F (hmid F hh),
                ((hsh.trans hsh').trans hsh4).trans hsh6⟩
              simp only [hr4, hr6]
              rfl

/-! ## The recorded handles -/

@[simp] lemma iface_setIface_self (a : WlanIface) : (s.setIface n a).iface n = a :=
  Function.update_self _ _ _

lemma iface_setIface_of_ne {a : WlanIface} (h : m ≠ n) : (s.setIface n a).iface m = s.iface m :=
  Function.update_of_ne h _ _

/-- One interface changes: the others are a frame. -/
lemma WlanSys.exists_rest (hn : n ∈ s.ifaces) :
    ∃ G, s.recorded = G + (s.iface n).recorded ∧
      ∀ a, (s.setIface n a).recorded = G + a.recorded := by
  refine ⟨∑ m ∈ s.ifaces.erase n, (s.iface m).recorded, ?_, fun a => ?_⟩
  · exact (sum_erase_add _ _ hn).symm
  · have hsum := sum_erase_add s.ifaces (fun m => ((s.setIface n a).iface m).recorded) hn
    rw [WlanSys.recorded, show (s.setIface n a).ifaces = s.ifaces from rfl, ← hsum]
    congr 1
    · refine sum_congr rfl fun m hm => ?_
      rw [iface_setIface_of_ne (ne_of_mem_erase hm)]
    · rw [iface_setIface_self]

/-- One record changes: the others are a frame. -/
lemma WlanIface.exists_rest {a : WlanIface} (hi : i < a.numWifiClient) :
    ∃ G, a.recorded = G + (a.wlanClient i).handles ∧
      ∀ c, WlanIface.recorded { a with wlanClient := Function.update a.wlanClient i c } =
        G + c.handles := by
  refine ⟨∑ k ∈ (range a.numWifiClient).erase i, (a.wlanClient k).handles, ?_, fun c => ?_⟩
  · exact (sum_erase_add _ _ (mem_range.mpr hi)).symm
  · have hsum := sum_erase_add (range a.numWifiClient)
      (fun k => (Function.update a.wlanClient i c k).handles) (mem_range.mpr hi)
    refine hsum.symm.trans (congrArg₂ (· + ·) (sum_congr rfl fun k hk => ?_) ?_)
    · rw [Function.update_of_ne (ne_of_mem_erase hk)]
    · rw [Function.update_self]

/-- The record of the next client does not count. -/
lemma WlanIface.recorded_slot (a : WlanIface) (c : WlanClient) :
    WlanIface.recorded { a with wlanClient := Function.update a.wlanClient a.numWifiClient c } =
      a.recorded := by
  refine sum_congr rfl fun k hk => congrArg WlanClient.handles ?_
  exact Function.update_of_ne (ne_of_lt (mem_range.mp hk)) _ _

/-- A record more. -/
lemma WlanIface.recorded_attach (a : WlanIface) (c : WlanClient) (m : ℕ) :
    WlanIface.recorded
      { a with
        wlanClient := Function.update a.wlanClient a.numWifiClient c
        numWifiClient := a.numWifiClient + 1
        headerNameCount := m } = a.recorded + c.handles := by
  refine (sum_range_succ _ _).trans (congrArg₂ (· + ·) (sum_congr rfl fun k hk => ?_) ?_)
  · exact congrArg WlanClient.handles (Function.update_of_ne (ne_of_lt (mem_range.mp hk)) _ _)
  · exact congrArg WlanClient.handles (Function.update_self _ _ _)

/-- Which record is where when those behind a client have moved up. -/
lemma detach_client {a : WlanIface} (hk : k < a.numWifiClient - 1) :
    ∃ e, shiftDown WlanClient.moveUp i (a.numWifiClient - 1)
        (Function.update a.wlanClient i c) k =
      if k < i then a.wlanClient k
      else WlanClient.moveUp e (a.wlanClient (k + 1)) := by
  refine ⟨Function.update a.wlanClient i c k, ?_⟩
  rw [shiftDown_apply]
  by_cases hki : k < i
  · rw [if_neg (by omega), if_pos hki, Function.update_of_ne (ne_of_lt hki)]
  · rw [if_pos ⟨not_lt.mp hki, hk⟩, if_neg hki, Function.update_of_ne (show k + 1 ≠ i by omega)]

/-- A record that moves up keeps its headers and its name. -/
lemma moveUp_spec (c d : WlanClient) :
    (c.moveUp d).handles = d.handles ∧ (c.moveUp d).nameCount = d.nameCount ∧
      (c.moveUp d).headerSet = d.headerSet :=
  ⟨rfl, rfl, funext fun fam => by cases fam <;> rfl⟩

/-- A record less. -/
lemma WlanIface.recorded_detach {a : WlanIface} (hi : i < a.numWifiClient) (c : WlanClient) :
    a.recorded =
      WlanIface.recorded
        { a with
          wlanClient := shiftDown WlanClient.moveUp i (a.numWifiClient - 1)
            (Function.update a.wlanClient i c)
          numWifiClient := a.numWifiClient - 1 } + (a.wlanClient i).handles := by
  rw [WlanIface.recorded, sum_range_remove hi]
  congr 1
  refine sum_congr rfl fun k hk => ?_
  obtain ⟨e, he⟩ := detach_client (i := i) (c := c) (mem_range.mp hk)
  show _ = WlanClient.handles (shiftDown _ _ _ _ k)
  rw [he]
  split_ifs
  · rfl
  · exact (moveUp_spec _ _).1.symm

/-! ## The flags of the records -/

lemma WlanSys.Init.flagsOk (h : s.Init) : s.FlagsOk := by
  intro n i fam hset
  rw [(h.2 n).2 i] at hset
  cases fam <;> cases hset

/-- What the flags of all records are within stays so when one record is written. -/
lemma update_flags {f : ℕ → WlanClient} {Q : IpType → Prop}
    (hf : ∀ k fam, (f k).headerSet fam = true → Q fam)
    (hc : ∀ fam, c.headerSet fam = true → Q fam) (k : ℕ) (fam : IpType) :
    (Function.update f i c k).headerSet fam = true → Q fam := by
  by_cases hk : k = i
  · rw [hk, Function.update_self]
    exact hc fam
  · rw [Function.update_of_ne hk]
    exact hf k fam

/-- And when records move up. -/
lemma shiftDown_flags {f : ℕ → WlanClient} {Q : IpType → Prop}
    (hf : ∀ k fam, (f k).headerSet fam = true → Q fam) (k : ℕ) (fam : IpType) :
    (shiftDown WlanClient.moveUp i m f k).headerSet fam = true → Q fam := by
  rw [shiftDown_apply]
  split_ifs
  · rw [(moveUp_spec _ _).2.2]
    exact hf (k + 1) fam
  · exact hf k fam

lemma WlanSys.FlagsOk.setIface (hs : s.FlagsOk) {a : WlanIface}
    (htx : a.txProp = (s.iface n).txProp)
    (h : ∀ k fam, (a.wlanClient k).headerSet fam = true → (s.iface n).hasTx fam = true) :
    (s.setIface n a).FlagsOk := by
  intro m k fam
  by_cases hm : m = n
  · subst hm
    rw [iface_setIface_self, WlanIface.hasTx, htx]
    exact h k fam
  · rw [iface_setIface_of_ne hm]
    exact hs m k fam

/-- **Every event keeps the flags to the families of the interface.** -/
theorem WlanSys.FlagsOk.step {op : WlanOp} (hs : s.FlagsOk) (h : op.Step s s') : s'.FlagsOk := by
  obtain ⟨-, rfl⟩ := h
  cases op with
  | add n data ans =>
      rcases s.init_cases hs n data ans with ⟨-, -, x, hr, -, hx⟩ | ⟨-, -, hr⟩ |
        ⟨-, x, L, hr, -, -, hx⟩
      · simp only [WlanOp.call, hr]
        refine hs.setIface rfl (update_flags (hs n) fun fam h => (hx fam).mp ?_)
        cases fam <;> exact h
      · simp only [WlanOp.call, hr]
        exact hs
      · simp only [WlanOp.call, hr]
        exact hs.setIface rfl (update_flags (hs n) hx)
  | del n mac ans =>
      simp only [WlanOp.call]
      cases hidx : (s.iface n).getWlanClientIndex mac with
      | none =>
          unfold WlanSys.handleWlanClientDownEvt
          rw [hidx]
          exact hs
      | some i =>
          rcases s.down_cases hidx ans with ⟨c, hdrs, hr, -, hsh⟩ | ⟨c, hdrs, hr, -, -⟩
          · rw [hr]
            exact hs.setIface rfl
              (update_flags (hs n) fun fam h => hs n i fam (hsh.headerSet fam h))
          · rw [hr]
            refine hs.setIface rfl (shiftDown_flags (update_flags (hs n) fun fam h => ?_))
            cases fam <;> cases h

/-- **The headers stay recorded just if the event is clean.** -/
theorem WlanSys.Recorded.step_iff {op : WlanOp} {others : Multiset ℕ} (hs : s.FlagsOk)
    (H : s.Recorded others) (h : op.Step s s') : s'.Recorded others ↔ op.Clean s := by
  obtain ⟨hn, rfl⟩ := h
  cases op with
  | add n data ans =>
      have hmem : n ∈ s.ifaces := hn
      obtain ⟨G, hG, hset⟩ := WlanSys.exists_rest hmem
      unfold WlanSys.Recorded at H ⊢
      rw [hG] at H
      rcases s.init_cases hs n data ans with ⟨-, hclean, x, hr, hh, -⟩ | ⟨-, hclean, hr⟩ |
        ⟨-, x, L, hr, hh, hL, -⟩
      · have hrec : (s.attach n x).recorded = G + ((s.iface n).recorded + x.client.handles) := by
          refine (hset _).trans (congrArg (G + ·) ?_)
          exact WlanIface.recorded_attach _ _ _
        simp only [WlanOp.call, hr, hclean, iff_true]
        rw [hrec, show (s.attach n x).hdrs = x.hdrs from rfl, hh, H]
        simp only [add_assoc]
      · simp only [WlanOp.call, hr, hclean, iff_true]
        rw [H, hG]
      · have hrec : (s.abandon n x).recorded = G + (s.iface n).recorded :=
          (hset _).trans (congrArg (G + ·) (WlanIface.recorded_slot _ _))
        simp only [WlanOp.call, hr]
        rw [hrec, show (s.abandon n x).hdrs = x.hdrs from rfl, hh, H, ← hL]
        simp
  | del n mac ans =>
      have hmem : n ∈ s.ifaces := hn
      obtain ⟨G, hG, hset⟩ := WlanSys.exists_rest hmem
      unfold WlanSys.Recorded at H ⊢
      simp only [WlanOp.Clean, iff_true, WlanOp.call]
      cases hidx : (s.iface n).getWlanClientIndex mac with
      | none =>
          unfold WlanSys.handleWlanClientDownEvt
          rw [hidx]
          exact H
      | some i =>
          obtain ⟨hi, -, -⟩ := firstIdx_eq_some.mp hidx
          obtain ⟨K, hK, hupd⟩ := WlanIface.exists_rest hi
          have hh : s.hdrs.handles = others + G + K + ((s.iface n).wlanClient i).handles := by
            rw [H, hG, hK]
            simp only [add_assoc]
          rcases s.down_cases hidx ans with ⟨c, hdrs, hr, hc, -⟩ | ⟨c, hdrs, hr, hc, -⟩
          · have hrec : (s.setClient n i c).recorded = G + (K + c.handles) :=
              (hset _).trans (congrArg (G + ·) (hupd c))
            rw [hr]
            show hdrs.handles = others + (s.setClient n i c).recorded
            rw [hrec, hc _ hh]
            simp only [add_assoc]
          · have hcut := WlanIface.recorded_detach hi c.resetClient
            rw [hK] at hcut
            have hrec : (s.detach n i c hdrs).recorded = G + K :=
              (hset _).trans (congrArg (G + ·) (add_right_cancel hcut).symm)
            rw [hr]
            show hdrs.handles = others + (s.detach n i c hdrs).recorded
            rw [hrec, hc _ hh, add_assoc]

end Lemmas

end Ipacm.Wlan
