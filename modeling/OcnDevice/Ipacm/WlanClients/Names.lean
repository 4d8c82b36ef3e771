import OcnDevice.Ipacm.WlanClients.Headers

/-!
# The names of the headers

A header is named by the number of its interface, the name of the partial header, and the counter of
the interface, which never goes back.  The two numbers are printed to a buffer of two bytes, so that
only their leading digits are left.

`WlanSys.NamesDistinct` is kept by a client that attaches just if no attached client has the leading
digits of both (`WlanOp.Apart`, `NamesDistinct.step_iff`); all else keeps it, as clients keep the
names of their headers when they move up.
-/

namespace Ipacm.Wlan

/-- The headers that are built for the attached clients: their interfaces, the indices of the
clients, and the families. -/
def WlanSys.headers (s : WlanSys) : Set (ℕ × ℕ × IpType) :=
  {e | e.1 ∈ s.ifaces ∧ e.2.1 < (s.iface e.1).numWifiClient ∧ (s.iface e.1).hasTx e.2.2 = true}

/-- The name that a header was given. -/
def WlanSys.nameOf (s : WlanSys) (e : ℕ × ℕ × IpType) : String :=
  hdrName e.2.2 e.1 ((s.iface e.1).wlanClient e.2.1).nameCount

/-- **The headers of attached clients have different names.** -/
def WlanSys.NamesDistinct (s : WlanSys) : Prop := Set.InjOn s.nameOf s.headers

/-- **The client that attaches has leading digits of its own**, among the attached clients that have
a header of a family of its interface. -/
def WlanOp.Apart (s : WlanSys) : WlanOp → Prop
  | .add n _ ans => s.Attaches n ans → ∀ e ∈ s.headers, (s.iface n).hasTx e.2.2 = true →
      index e.1 = index n →
      index ((s.iface e.1).wlanClient e.2.1).nameCount ≠ index (s.iface n).headerNameCount
  | .del _ _ _ => True

section Lemmas

variable {s s' : WlanSys} {n m i : ℕ} {data : WlanEx} {ans : AddAnswers} {fam fam' : IpType}
  {x : Building}

/-! ## Names -/

lemma length_index (n : ℕ) : (index n).length = 1 := by
  rw [index, List.length_take]
  exact min_eq_left Nat.length_toDigits_pos

/-- **A name tells the family and the leading digits**, and nothing else. -/
lemma hdrName_eq_iff {c d : ℕ} :
    hdrName fam n c = hdrName fam' m d ↔ fam = fam' ∧ index n = index m ∧ index c = index d := by
  constructor
  · intro h
    have hl : index n ++ partialHdrName fam ++ index c =
        index m ++ partialHdrName fam' ++ index d := String.ofList_injective h
    obtain ⟨hfront, hcount⟩ := List.append_inj' hl (by rw [length_index, length_index])
    obtain ⟨hnum, hpart⟩ := List.append_inj hfront (by rw [length_index, length_index])
    refine ⟨?_, hnum, hcount⟩
    cases fam <;> cases fam' <;> first | rfl | exact absurd hpart (by decide)
  · rintro ⟨rfl, hnum, hcount⟩
    rw [hdrName, hdrName, hnum, hcount]

/-! ## Steps -/

/-- Headers that are those of other clients keep their distinct names. -/
lemma WlanSys.NamesDistinct.of_map (hd : s.NamesDistinct) (g : ℕ → ℕ → ℕ)
    (hg : ∀ m, Function.Injective (g m)) (hif : s'.ifaces = s.ifaces)
    (htx : ∀ m, (s'.iface m).txProp = (s.iface m).txProp)
    (hclient : ∀ m, ∀ k < (s'.iface m).numWifiClient, g m k < (s.iface m).numWifiClient ∧
      ((s'.iface m).wlanClient k).nameCount = ((s.iface m).wlanClient (g m k)).nameCount) :
    s'.NamesDistinct := by
  have hmaps : Set.MapsTo (fun e : ℕ × ℕ × IpType => (e.1, g e.1 e.2.1, e.2.2))
      s'.headers s.headers := by
    rintro ⟨m, k, fam⟩ ⟨hm, hk, hfam⟩
    rw [hif] at hm
    rw [WlanIface.hasTx, htx] at hfam
    exact ⟨hm, (hclient m k hk).1, hfam⟩
  have hinj : Function.Injective fun e : ℕ × ℕ × IpType => (e.1, g e.1 e.2.1, e.2.2) := by
    rintro ⟨m, k, fam⟩ ⟨m', k', fam'⟩ h
    simp only [Prod.mk.injEq] at h
    obtain ⟨rfl, hk, rfl⟩ := h
    rw [hg m hk]
  refine (Set.InjOn.comp hd hinj.injOn hmaps).congr ?_
  rintro ⟨m, k, fam⟩ ⟨-, hk, -⟩
  exact congrArg (hdrName fam m) (hclient m k hk).2.symm

/-- The same when one interface is written. -/
lemma WlanSys.NamesDistinct.of_iface (hd : s.NamesDistinct) {a : WlanIface} (g : ℕ → ℕ)
    (hg : Function.Injective g) (hif : s'.ifaces = s.ifaces)
    (hs' : s'.iface = Function.update s.iface n a) (htx : a.txProp = (s.iface n).txProp)
    (hclient : ∀ k < a.numWifiClient, g k < (s.iface n).numWifiClient ∧
      (a.wlanClient k).nameCount = ((s.iface n).wlanClient (g k)).nameCount) :
    s'.NamesDistinct := by
  refine hd.of_map (fun m k => if m = n then g k else k) (fun m => ?_) hif (fun m => ?_)
    fun m k hk => ?_
  · by_cases hm : m = n
    · simpa only [hm, if_true] using hg
    · simp only [hm, if_false]
      exact Function.injective_id
  · rw [hs']
    by_cases hm : m = n
    · rw [hm, Function.update_self, htx]
    · rw [Function.update_of_ne hm]
  · rw [hs'] at hk ⊢
    by_cases hm : m = n
    · subst hm
      rw [Function.update_self] at hk ⊢
      simpa only [if_true] using hclient k hk
    · rw [Function.update_of_ne hm] at hk ⊢
      simpa only [hm, if_false, and_true] using hk

/-- The headers when a client attaches: those that were there, and its own. -/
lemma headers_attach (hn : n ∈ s.ifaces) (x : Building) :
    (s.attach n x).headers = s.headers ∪
      {e | ∃ fam, (s.iface n).hasTx fam = true ∧ e = (n, (s.iface n).numWifiClient, fam)} := by
  ext ⟨m, k, fam⟩
  have hself : (s.attach n x).iface n = _ := iface_setIface_self _
  by_cases hm : m = n
  · subst hm
    simp only [WlanSys.headers, Set.mem_union, Set.mem_ofPred_eq, hself, WlanIface.hasTx,
      Prod.mk.injEq]
    have hlt : k < (s.iface m).numWifiClient + 1 ↔
        k < (s.iface m).numWifiClient ∨ k = (s.iface m).numWifiClient := Nat.lt_succ_iff_lt_or_eq
    rw [hlt]
    have hmem : m ∈ (s.attach m x).ifaces := hn
    constructor
    · rintro ⟨-, hk | hk, hfam⟩
      · exact Or.inl ⟨hn, hk, hfam⟩
      · exact Or.inr ⟨fam, hfam, trivial, hk, rfl⟩
    · rintro (⟨-, hk, hfam⟩ | ⟨fam, hfam, -, hk, rfl⟩)
      · exact ⟨hmem, Or.inl hk, hfam⟩
      · exact ⟨hmem, Or.inr hk, hfam⟩
  · have hother : (s.attach n x).iface m = s.iface m := iface_setIface_of_ne hm
    simp only [WlanSys.headers, Set.mem_union, Set.mem_ofPred_eq, hother, Prod.mk.injEq, hm,
      false_and, and_false, exists_false, or_false]
    rfl

/-- **A client attaches**: the names stay distinct just if the leading digits are its own. -/
lemma WlanSys.NamesDistinct.attach_iff (hd : s.NamesDistinct) (hn : n ∈ s.ifaces)
    (hatt : s.Attaches n ans) :
    (s.attach n x).NamesDistinct ↔ WlanOp.Apart s (.add n data ans) := by
  have hself : (s.attach n x).iface n = _ := iface_setIface_self _
  -- the headers that were there keep their names
  have hold : Set.EqOn (s.attach n x).nameOf s.nameOf s.headers := by
    rintro ⟨m, k, fam⟩ ⟨-, hk, -⟩
    refine congrArg (hdrName fam m) ?_
    by_cases hm : m = n
    · subst hm
      rw [hself]
      exact congrArg WlanClient.nameCount (Function.update_of_ne (ne_of_lt hk) _ _)
    · exact congrArg (fun a : WlanIface => (a.wlanClient k).nameCount) (iface_setIface_of_ne hm)
  have hnew : ∀ fam, (s.attach n x).nameOf (n, (s.iface n).numWifiClient, fam) =
      hdrName fam n (s.iface n).headerNameCount := by
    intro fam
    refine congrArg (hdrName fam n) ?_
    rw [hself]
    simp only [Function.update_self]
  have hdisj : Disjoint s.headers
      {e | ∃ fam, (s.iface n).hasTx fam = true ∧ e = (n, (s.iface n).numWifiClient, fam)} := by
    refine Set.disjoint_left.mpr ?_
    rintro _ ⟨-, hk, -⟩ ⟨fam, -, rfl⟩
    exact lt_irrefl _ hk
  rw [WlanSys.NamesDistinct, headers_attach hn, Set.injOn_union hdisj, hold.injOn_iff]
  constructor
  · rintro ⟨-, -, hcross⟩ - ⟨m, k, fam⟩ he hfam hnum hcount
    refine hcross (m, k, fam) he (n, (s.iface n).numWifiClient, fam) ⟨fam, hfam, rfl⟩ ?_
    rw [hold he, hnew]
    exact hdrName_eq_iff.mpr ⟨rfl, hnum, hcount⟩
  · intro hapart
    refine ⟨hd, ?_, ?_⟩
    · rintro _ ⟨fam, -, rfl⟩ _ ⟨fam', -, rfl⟩ h
      rw [hnew, hnew] at h
      rw [(hdrName_eq_iff.mp h).1]
    · rintro ⟨m, k, fam⟩ he _ ⟨fam', hfam', rfl⟩ h
      rw [hold he, hnew] at h
      obtain ⟨rfl, hnum, hcount⟩ := hdrName_eq_iff.mp h
      exact hapart hatt _ he hfam' hnum hcount

/-- **The names stay distinct just if the event keeps the leading digits apart.** -/
theorem WlanSys.NamesDistinct.step_iff {op : WlanOp} (hs : s.FlagsOk) (hd : s.NamesDistinct)
    (h : op.Step s s') : s'.NamesDistinct ↔ op.Apart s := by
  obtain ⟨hn, rfl⟩ := h
  cases op with
  | add n data ans =>
      rcases s.init_cases hs n data ans with ⟨hatt, -, x, hr, -, -⟩ | ⟨hno, -, hr⟩ |
        ⟨hno, x, L, hr, -, -, -⟩
      · simp only [WlanOp.call, hr]
        exact hd.attach_iff hn hatt
      · simp only [WlanOp.call, hr]
        exact iff_of_true hd fun h => absurd h hno
      · simp only [WlanOp.call, hr]
        refine iff_of_true ?_ fun h => absurd h hno
        refine hd.of_iface id Function.injective_id rfl rfl rfl fun k hk => ⟨hk, ?_⟩
        simp only [Function.update_of_ne (ne_of_lt hk), id]
  | del n mac ans =>
      refine iff_of_true ?_ trivial
      simp only [WlanOp.call]
      cases hidx : (s.iface n).getWlanClientIndex mac with
      | none =>
          unfold WlanSys.handleWlanClientDownEvt
          rw [hidx]
          exact hd
      | some i =>
          obtain ⟨hi, -, -⟩ := firstIdx_eq_some.mp hidx
          rcases s.down_cases hidx ans with ⟨c, hdrs, hr, -, hsh⟩ | ⟨c, hdrs, hr, -, -⟩
          · rw [hr]
            refine hd.of_iface id Function.injective_id rfl rfl rfl fun k hk => ⟨hk, ?_⟩
            by_cases hki : k = i
            · simp only [hki, Function.update_self, id, hsh.nameCount]
            · simp only [Function.update_of_ne hki, id]
          · -- the records behind the client move up
            rw [hr]
            refine hd.of_iface (fun k => if k < i then k else k + 1) (fun k k' hkk => ?_) rfl rfl rfl
              fun k hk => ?_
            · simp only at hkk
              split_ifs at hkk <;> omega
            · obtain ⟨e, he⟩ := detach_client (i := i) (c := c.resetClient) hk
              simp only at hk ⊢
              rw [he]
              split_ifs with hki
              · exact ⟨by omega, rfl⟩
              · exact ⟨by omega, rfl⟩

/-- No header is built at the start. -/
lemma WlanSys.Init.namesDistinct (h : s.Init) : s.NamesDistinct := by
  rintro ⟨m, k, fam⟩ ⟨-, hk, -⟩
  rw [(h.2 m).1] at hk
  exact absurd hk (Nat.not_lt_zero _)

end Lemmas

/-- **The headers of simultaneously attached clients have different names all along a run** just if
no client attaches while the leading digits of its interface and of the counter are those of an
attached client that has a header of the same family. -/
theorem header_names_distinct {s₀ s : WlanSys} {ops : List WlanOp} (h0 : s₀.Init)
    (hr : Run WlanOp.Step s₀ ops s) :
    (∀ pre u, pre <+: ops → Run WlanOp.Step s₀ pre u → u.NamesDistinct) ↔
      Run (fun s op s' => op.Apart s ∧ op.Step s s') s₀ ops s :=
  Run.always_iff (I := WlanSys.FlagsOk) (P := WlanSys.NamesDistinct)
    (fun _ _ _ _ h h' => h.2.symm.trans h'.2) (fun _ _ _ hs h => hs.step h)
    (fun _ _ _ hs hd h => hd.step_iff hs h) h0.flagsOk h0.namesDistinct hr

/-- Clients of the interfaces 1 and 2. -/
theorem header_names_distinct_two : ∃ s, Run WlanOp.Step (.fresh {1, 2})
    [.add 1 [] (answersOf fun _ => true), .add 2 [] (answersOf fun _ => true)] s ∧
      s.NamesDistinct := by
  have hr : Run WlanOp.Step (.fresh {1, 2})
      [.add 1 [] (answersOf fun _ => true), .add 2 [] (answersOf fun _ => true)] _ :=
    .snoc (.snoc (.nil _) ⟨by decide, rfl⟩) ⟨by decide, rfl⟩
  refine ⟨_, hr, (header_names_distinct (WlanSys.fresh_init {1, 2}) hr).mpr ?_ _ _
    (List.prefix_refl _) hr⟩
  refine .snoc (.snoc (.nil _) ⟨?_, by decide, rfl⟩) ⟨?_, by decide, rfl⟩
  · rintro - ⟨m, k, fam⟩ ⟨hm, hk, -⟩ - hnum
    rcases Finset.mem_insert.mp (show m ∈ ({1, 2} : Finset ℕ) from hm) with rfl | hm
    · exact absurd (show index 1 = index 2 from hnum) (by decide)
    · obtain rfl := Finset.mem_singleton.mp hm
      exact absurd hk (Nat.not_lt_zero _)
  · rintro - e ⟨-, hk, -⟩
    exact absurd hk (Nat.not_lt_zero _)

/-- Clients of the interfaces 1 and 10, the first of each: their IPv4 headers have one name. -/
theorem header_names_clash : ∃ s₀ ops s, WlanSys.Init s₀ ∧ Run WlanOp.Step s₀ ops s ∧
    (1, 0, .v4) ∈ s.headers ∧ (10, 0, .v4) ∈ s.headers ∧
    s.nameOf (1, 0, .v4) = s.nameOf (10, 0, .v4) ∧ ¬ s.NamesDistinct := by
  have hname : ∀ s : WlanSys, (1, 0, .v4) ∈ s.headers → (10, 0, .v4) ∈ s.headers →
      s.nameOf (1, 0, .v4) = s.nameOf (10, 0, .v4) → (1, 0, .v4) ∈ s.headers ∧
        (10, 0, .v4) ∈ s.headers ∧ s.nameOf (1, 0, .v4) = s.nameOf (10, 0, .v4) ∧
        ¬ s.NamesDistinct :=
    fun s h1 h10 heq => ⟨h1, h10, heq, fun hd => absurd (hd h1 h10 heq) (by decide)⟩
  refine ⟨.fresh {1, 10},
    [.add 1 [] (answersOf fun _ => true), .add 10 [] (answersOf fun _ => true)], _,
    WlanSys.fresh_init _, .snoc (.snoc (.nil _) ⟨by decide, rfl⟩) ⟨by decide, rfl⟩,
    hname _ ⟨by decide, by decide, by decide⟩ ⟨by decide, by decide, by decide⟩ ?_⟩
  exact hdrName_eq_iff.mpr ⟨rfl, by decide, by decide⟩

end Ipacm.Wlan
