import OcnDevice.Ipacm.NatApp.CacheSet

/-!
# The rules in the table and the enabled slots

`RulesOk` says that the rules in the table and the enabled slots of the cache are two views of the
same thing: an enabled slot has its rule in the table under the handle that it keeps, and each rule
of the table is that of an enabled slot.

Two calls can break this.  `DeleteEntry` clears the slot whether or not the driver has deleted the
rule, and `AddTable` forgets the table that there was.  `NatOp.Clean` rules out just these.
-/

namespace Ipacm

open IpaNat (IpaNatIpv4Rule)

/-- **The invariant that ties cache and table together.** -/
structure RulesOk (s : NatSys) : Prop extends SlotsOk s.app where
  tbl : s.app.natTableHdl = s.ipa.tblHdl
  no_tbl : s.ipa.tblHdl = 0 → s.ipa.rules = []
  nodup : s.ipa.hdls.Nodup
  rule : ∀ k < s.app.maxEntries, (s.app.cache k).enabled = true →
    ((s.app.cache k).ruleHdl, (s.app.cache k).natRule) ∈ s.ipa.rules
  owner : ∀ r ∈ s.ipa.rules, ∃ k < s.app.maxEntries, (s.app.cache k).enabled = true ∧
    (s.app.cache k).ruleHdl = r.1
  inj : ∀ j < s.app.maxEntries, ∀ k < s.app.maxEntries, (s.app.cache j).enabled = true →
    (s.app.cache k).enabled = true → (s.app.cache j).ruleHdl = (s.app.cache k).ruleHdl → j = k

/-- `AddTable` is called without a table only, and the driver does not fail to delete the rule of
an entry that `DeleteEntry` clears. -/
def NatOp.Clean (s : NatSys) : NatOp → Prop
  | .addTable _ => s.app.natTableHdl = 0
  | .deleteEntry rule => ∀ k < s.app.maxEntries, (s.app.cache k).conn = rule.conn →
      (s.app.cache k).enabled = true →
      (s.ipa.ipaNatDelIpv4Rule s.app.natTableHdl (s.app.cache k).ruleHdl).1 = true
  | _ => True

instance (s : NatSys) : (op : NatOp) → Decidable (op.Clean s)
  | .addTable _ => inferInstanceAs (Decidable (s.app.natTableHdl = 0))
  | .deleteEntry rule => inferInstanceAs (Decidable (∀ k < s.app.maxEntries,
      (s.app.cache k).conn = rule.conn → (s.app.cache k).enabled = true →
      (s.ipa.ipaNatDelIpv4Rule s.app.natTableHdl (s.app.cache k).ruleHdl).1 = true))
  | .deleteTable _ | .addEntry _ | .cacheEntry _ | .updateUDPTimeStamp _ | .updatePwrSaveIf _
  | .resetPwrSaveIf _ | .delEntriesOnClntDiscon _ | .delEntriesOnSTAClntDiscon _ | .addTempEntry _
  | .deleteTempEntry _ | .flushTempEntries _ _ _ => inferInstanceAs (Decidable True)

/-- A call that is clean. -/
def NatOp.CleanStep (s : NatSys) (op : NatOp) (s' : NatSys) : Prop := op.Clean s ∧ op.Step s s'

section Lemmas

variable {s s' : NatSys} {op : NatOp} {k hdl : ℕ} {e : NatTableEntry}

/-- Without a table no slot is enabled. -/
lemma RulesOk.off_of_no_tbl (H : RulesOk s) (h0 : s.app.natTableHdl = 0) :
    ∀ k < s.app.maxEntries, (s.app.cache k).enabled = false := fun k hk => by
  by_contra hon
  have hmem := H.rule k hk (by simpa using hon)
  rw [H.no_tbl (H.tbl.symm.trans h0)] at hmem
  simp at hmem

/-- The handle of an enabled slot is in use. -/
lemma RulesOk.hdl_mem (H : RulesOk s) (hk : k < s.app.maxEntries)
    (hon : (s.app.cache k).enabled = true) : (s.app.cache k).ruleHdl ∈ s.ipa.hdls :=
  List.mem_map.mpr ⟨_, H.rule k hk hon, rfl⟩

/-- A change of a slot that is not enabled and stays so, whatever is counted. -/
lemma RulesOk.off_slot (H : RulesOk s) {a : NatApp} (hs : SlotsOk a)
    (hmax : a.maxEntries = s.app.maxEntries) (htbl : a.natTableHdl = s.app.natTableHdl)
    (hoff : (s.app.cache k).enabled = false) (hoff' : (a.cache k).enabled = false)
    (hother : ∀ j, j ≠ k → a.cache j = s.app.cache j) : RulesOk { s with app := a } := by
  have hon : ∀ j, (a.cache j).enabled = true → j ≠ k ∧ a.cache j = s.app.cache j := fun j hj => by
    have hjk : j ≠ k := by
      rintro rfl
      rw [hoff'] at hj
      simp at hj
    exact ⟨hjk, hother j hjk⟩
  refine ⟨hs, htbl.trans H.tbl, H.no_tbl, H.nodup, fun j hj hen => ?_, fun r hr => ?_,
    fun i hi j hj hi' hj' h => ?_⟩
  · obtain ⟨-, he⟩ := hon j hen
    simp only [he] at hen ⊢
    exact H.rule j (hmax ▸ hj) hen
  · obtain ⟨j, hj, hen, hr'⟩ := H.owner r hr
    have hjk : j ≠ k := by
      rintro rfl
      rw [hoff] at hen
      simp at hen
    refine ⟨j, hmax ▸ hj, ?_, ?_⟩
    · simp only [hother j hjk, hen]
    · simp only [hother j hjk, hr']
  · obtain ⟨-, he⟩ := hon i hi'
    obtain ⟨-, he'⟩ := hon j hj'
    simp only [he] at hi' h
    simp only [he'] at hj' h
    exact H.inj i (hmax ▸ hi) j (hmax ▸ hj) hi' hj' h

/-- **A rule comes**: slot `k`, not enabled before, gets a rule under a fresh handle. -/
lemma RulesOk.rule_comes (H : RulesOk s) {a : NatApp} (hs : SlotsOk a)
    (hmax : a.maxEntries = s.app.maxEntries) (htbl : a.natTableHdl = s.app.natTableHdl)
    (h0 : s.app.natTableHdl ≠ 0) (hk : k < s.app.maxEntries)
    (hoff : (s.app.cache k).enabled = false) (hhdl : (a.cache k).ruleHdl ∉ s.ipa.hdls)
    (hon : (a.cache k).enabled = true) (hother : ∀ j, j ≠ k → a.cache j = s.app.cache j) :
    RulesOk { app := a, ipa := { s.ipa with
      rules := ((a.cache k).ruleHdl, (a.cache k).natRule) :: s.ipa.rules } } := by
  have hne : ∀ j < s.app.maxEntries, (s.app.cache j).enabled = true →
      (s.app.cache j).ruleHdl ≠ (a.cache k).ruleHdl := fun j hj hen e =>
    hhdl (e ▸ H.hdl_mem hj hen)
  refine ⟨hs, htbl.trans H.tbl, fun h => absurd (H.tbl.trans h) h0, ?_, fun j hj hen => ?_,
    fun r hr => ?_, fun i hi j hj hi' hj' h => ?_⟩
  · exact List.nodup_cons.mpr ⟨hhdl, H.nodup⟩
  · by_cases hjk : j = k
    · rw [hjk]
      exact List.mem_cons_self
    · simp only [hother j hjk] at hen ⊢
      exact List.mem_cons_of_mem _ (H.rule j (hmax ▸ hj) hen)
  · rcases List.mem_cons.mp hr with rfl | hr
    · exact ⟨k, hmax ▸ hk, hon, rfl⟩
    · obtain ⟨j, hj, hen, hr'⟩ := H.owner r hr
      have hjk : j ≠ k := by
        rintro rfl
        rw [hoff] at hen
        simp at hen
      refine ⟨j, hmax ▸ hj, ?_, ?_⟩
      · simp only [hother j hjk, hen]
      · simp only [hother j hjk, hr']
  · simp only at hi hj hi' hj' h
    rw [hmax] at hi hj
    by_cases hik : i = k
    · by_cases hjk : j = k
      · rw [hik, hjk]
      · rw [hother j hjk] at hj' h
        rw [hik] at h
        exact absurd h.symm (hne j hj hj')
    · rw [hother i hik] at hi' h
      by_cases hjk : j = k
      · rw [hjk] at h
        exact absurd h (hne i hi hi')
      · rw [hother j hjk] at hj' h
        exact H.inj i hi j hj hi' hj' h

/-- **A rule goes**: the rule of the enabled slot `k` is deleted and the slot is no longer
enabled. -/
lemma RulesOk.rule_goes (H : RulesOk s) {a : NatApp} (hs : SlotsOk a)
    (hmax : a.maxEntries = s.app.maxEntries) (htbl : a.natTableHdl = s.app.natTableHdl)
    (hk : k < s.app.maxEntries) (hon : (s.app.cache k).enabled = true)
    (hoff : (a.cache k).enabled = false) (hother : ∀ j, j ≠ k → a.cache j = s.app.cache j) :
    RulesOk { app := a, ipa := { s.ipa with
      rules := s.ipa.rules.filter fun r => r.1 ≠ (s.app.cache k).ruleHdl } } := by
  have hen : ∀ j, (a.cache j).enabled = true → j ≠ k ∧ a.cache j = s.app.cache j := fun j hj => by
    have hjk : j ≠ k := by
      rintro rfl
      rw [hoff] at hj
      simp at hj
    exact ⟨hjk, hother j hjk⟩
  refine ⟨hs, htbl.trans H.tbl, fun h => ?_, ?_, fun j hj hen' => ?_, fun r hr => ?_,
    fun i hi j hj hi' hj' h => ?_⟩
  · rw [H.no_tbl h]
    rfl
  · exact H.nodup.sublist ((List.filter_sublist).map _)
  · obtain ⟨hjk, he⟩ := hen j hen'
    simp only at hj
    rw [hmax] at hj
    simp only [he] at hen' ⊢
    refine List.mem_filter.mpr ⟨H.rule j hj hen', ?_⟩
    simpa using fun h => hjk (H.inj j hj k hk hen' hon h)
  · obtain ⟨hr, hne⟩ := List.mem_filter.mp hr
    obtain ⟨j, hj, hen', hr'⟩ := H.owner r hr
    have hjk : j ≠ k := by
      rintro rfl
      simp [hr'] at hne
    refine ⟨j, hmax ▸ hj, ?_, ?_⟩
    · simp only [hother j hjk, hen']
    · simp only [hother j hjk, hr']
  · obtain ⟨-, he⟩ := hen i hi'
    obtain ⟨-, he'⟩ := hen j hj'
    simp only [he] at hi' h
    simp only [he'] at hj' h
    exact H.inj i (hmax ▸ hi) j (hmax ▸ hj) hi' hj' h

/-- What neither a slot nor a rule has to do with. -/
lemma RulesOk.congr (H : RulesOk s) (hmax : s'.app.maxEntries = s.app.maxEntries)
    (hcache : s'.app.cache = s.app.cache) (htbl : s'.app.natTableHdl = s.app.natTableHdl)
    (htbl' : s'.ipa.tblHdl = s.ipa.tblHdl) (hrules : s'.ipa.rules = s.ipa.rules) : RulesOk s' := by
  refine ⟨H.toSlotsOk.retag hmax (fun _ _ => by rw [hcache])
    (fun _ _ h => Or.inl (by rwa [hcache] at h)), ?_, ?_, ?_, ?_, ?_, ?_⟩
  · rw [htbl, htbl']; exact H.tbl
  · rw [htbl', hrules]; exact H.no_tbl
  · rw [IpaDrv.hdls, hrules]; exact H.nodup
  · rw [hmax, hcache, hrules]; exact H.rule
  · rw [hmax, hcache, hrules]; exact H.owner
  · rw [hmax, hcache]; exact H.inj

/-- A slot that is enabled gets another time stamp. -/
lemma RulesOk.stamp (H : RulesOk s) {ts : UInt32} :
    RulesOk { s with app := s.app.setSlot k { s.app.cache k with timestamp := ts } } := by
  have hlike : ∀ j, ((s.app.setSlot k { s.app.cache k with timestamp := ts }).cache j).conn
      = (s.app.cache j).conn ∧
      ((s.app.setSlot k { s.app.cache k with timestamp := ts }).cache j).natRule
        = (s.app.cache j).natRule ∧
      ((s.app.setSlot k { s.app.cache k with timestamp := ts }).cache j).enabled
        = (s.app.cache j).enabled ∧
      ((s.app.setSlot k { s.app.cache k with timestamp := ts }).cache j).ruleHdl
        = (s.app.cache j).ruleHdl := fun j => by
    by_cases hj : j = k
    · rw [hj, NatApp.setSlot_cache_self]
      exact ⟨rfl, rfl, rfl, rfl⟩
    · rw [NatApp.setSlot_cache_of_ne hj]
      exact ⟨rfl, rfl, rfl, rfl⟩
  refine ⟨H.toSlotsOk.retag rfl (fun j _ => (hlike j).1) (fun j _ h => ?_), H.tbl, H.no_tbl,
    H.nodup, fun j hj h => ?_, fun r hr => ?_, fun i hi j hj hi' hj' h => ?_⟩
  · rw [(hlike j).2.2.1] at h
    exact Or.inl h
  · simp only [(hlike j).2.2.1, (hlike j).2.2.2, (hlike j).2.1] at h ⊢
    exact H.rule j hj h
  · obtain ⟨j, hj, h1, h2⟩ := H.owner r hr
    exact ⟨j, hj, (hlike j).2.2.1.trans h1, (hlike j).2.2.2.trans h2⟩
  · simp only [(hlike i).2.2.1, (hlike j).2.2.1, (hlike i).2.2.2, (hlike j).2.2.2] at hi' hj' h
    exact H.inj i hi j hj hi' hj' h

/-- A state with no rule and no enabled slot. -/
lemma RulesOk.of_no_rules (hs : SlotsOk s.app) (htbl : s.app.natTableHdl = s.ipa.tblHdl)
    (hrules : s.ipa.rules = []) (hoff : ∀ k < s.app.maxEntries, (s.app.cache k).enabled = false) :
    RulesOk s := by
  have hnot : ∀ k < s.app.maxEntries, (s.app.cache k).enabled ≠ true := fun k hk h => by
    rw [hoff k hk] at h
    simp at h
  refine ⟨hs, htbl, fun _ => hrules, ?_, fun k hk h => absurd h (hnot k hk), fun r hr => ?_,
    fun j hj _ _ h => absurd h (hnot j hj)⟩
  · rw [IpaDrv.hdls, hrules]
    exact List.nodup_nil
  · rw [hrules] at hr
    simp at hr

/-- Clearing a slot that is not enabled. -/
lemma RulesOk.wipe (H : RulesOk s) (hoff : (s.app.cache k).enabled = false) :
    RulesOk { s with app := s.app.wipe k } := by
  exact H.off_slot H.toSlotsOk.wipe rfl rfl hoff (by rw [NatApp.wipe_cache_self]) fun j =>
    NatApp.wipe_cache_of_ne

/-- Clearing a slot whose rule the driver has deleted. -/
lemma RulesOk.remove (H : RulesOk s) (hk : k < s.app.maxEntries)
    (hon : (s.app.cache k).enabled = true) :
    RulesOk { app := s.app.wipe k, ipa := { s.ipa with
      rules := s.ipa.rules.filter fun r => r.1 ≠ (s.app.cache k).ruleHdl } } := by
  exact H.rule_goes H.toSlotsOk.wipe rfl rfl hk hon (by rw [NatApp.wipe_cache_self]) fun j =>
    NatApp.wipe_cache_of_ne

/-- Enabling a slot that was not. -/
lemma RulesOk.enable (H : RulesOk s) (hk : k < s.app.maxEntries) (h0 : s.app.natTableHdl ≠ 0)
    (hoff : (s.app.cache k).enabled = false) (hused : (s.app.cache k).conn ≠ {})
    (hfresh : hdl ∉ s.ipa.hdls) :
    RulesOk { app := s.app.setSlot k { s.app.cache k with ruleHdl := hdl, enabled := true },
              ipa := { s.ipa with rules := (hdl, (s.app.cache k).natRule) :: s.ipa.rules } } := by
  set e : NatTableEntry := { s.app.cache k with ruleHdl := hdl, enabled := true } with he
  have hself : (s.app.setSlot k e).cache k = e := NatApp.setSlot_cache_self
  have hother : ∀ j, j ≠ k → (s.app.setSlot k e).cache j = s.app.cache j := fun j hj =>
    NatApp.setSlot_cache_of_ne hj
  have hs : SlotsOk (s.app.setSlot k e) := H.toSlotsOk.rewrite rfl fun _ => Or.inr hused
  have h := H.rule_comes hs rfl rfl h0 hk hoff (by rw [hself]; exact hfresh) (by rw [hself]) hother
  rw [hself] at h
  exact h

/-- Filling a free slot without a rule. -/
lemma RulesOk.fill (H : RulesOk s) (hk : k < s.app.maxEntries)
    (hfree : (s.app.cache k).conn = {}) (hfull : e.conn.Full)
    (hdup : ∀ j < s.app.maxEntries, (s.app.cache j).conn ≠ e.conn) (hoff : e.enabled = false) :
    RulesOk { s with app := s.app.fill k e } := by
  exact H.off_slot (H.toSlotsOk.fill hfull hdup) rfl rfl (H.off k hk hfree)
    (by rw [NatApp.fill_cache_self, hoff]) fun j => NatApp.fill_cache_of_ne

/-- Filling a free slot with a rule. -/
lemma RulesOk.install (H : RulesOk s) (hk : k < s.app.maxEntries)
    (hfree : (s.app.cache k).conn = {}) (hfull : e.conn.Full)
    (hdup : ∀ j < s.app.maxEntries, (s.app.cache j).conn ≠ e.conn) (hon : e.enabled = true)
    (h0 : s.app.natTableHdl ≠ 0) (hfresh : e.ruleHdl ∉ s.ipa.hdls) :
    RulesOk { app := s.app.fill k e,
              ipa := { s.ipa with rules := (e.ruleHdl, e.natRule) :: s.ipa.rules } } := by
  have h := H.rule_comes (H.toSlotsOk.fill hfull hdup) rfl rfl h0 hk (H.off k hk hfree)
    (by rw [NatApp.fill_cache_self]; exact hfresh) (by rw [NatApp.fill_cache_self, hon])
    fun j => NatApp.fill_cache_of_ne
  rw [NatApp.fill_cache_self] at h
  exact h

/-- Disabling a slot whose rule the driver has deleted. -/
lemma RulesOk.disable (hdl : ℕ) (H : RulesOk s) (hk : k < s.app.maxEntries)
    (hon : (s.app.cache k).enabled = true) :
    RulesOk { app := s.app.setSlot k { s.app.cache k with enabled := false, ruleHdl := hdl },
              ipa := { s.ipa with
                rules := s.ipa.rules.filter fun r => r.1 ≠ (s.app.cache k).ruleHdl } } := by
  set e : NatTableEntry := { s.app.cache k with enabled := false, ruleHdl := hdl } with he
  have hself : (s.app.setSlot k e).cache k = e := NatApp.setSlot_cache_self
  have hother : ∀ j, j ≠ k → (s.app.setSlot k e).cache j = s.app.cache j := fun j hj =>
    NatApp.setSlot_cache_of_ne hj
  have hs : SlotsOk (s.app.setSlot k e) := H.toSlotsOk.rewrite rfl fun _ => Or.inl hon
  exact H.rule_goes hs rfl rfl hk hon (by rw [hself]) hother

/-- **Each move keeps cache and table tied**, but for those of `AddTable` and `DeleteEntry`. -/
lemma RulesOk.move (H : RulesOk s) (hop : ¬ op.Leaks) (h : NatMove op s s') : RulesOk s' := by
  cases h with
  | quiet temp replies => exact H.congr rfl rfl rfl rfl rfl
  | save _ _ _ _ => exact H.congr rfl rfl rfl rfl rfl
  | unsave _ _ _ => exact H.congr rfl rfl rfl rfl rfl
  | fill _ hk hfree hfull hdup hoff => exact H.fill hk hfree hfull hdup hoff
  | install _ hk hfree hfull hdup hon h0 _ _ hfresh _ =>
      exact H.install hk hfree hfull hdup hon h0 hfresh
  | forget _ _ hoff => exact H.wipe hoff
  | remove _ hk hon _ => exact H.remove hk hon
  | leak _ hleak _ _ => exact absurd hleak hop
  | @enable k hdl hre hk h0 _ _ hfresh =>
      have hoff : (s.app.cache k).enabled = false := by
        cases op with
        | addTable pubIp => exact absurd trivial hop
        | resetPwrSaveIf ip => exact hre.2.2
        | _ => exact absurd hre id
      exact H.enable hk h0 hoff hre.used hfresh
  | disable _ hk hon _ => exact H.disable _ hk hon
  | stamp _ _ => exact H.stamp
  | openTbl h _ => exact absurd (h ▸ trivial) hop
  | openFail h => exact absurd (h ▸ trivial) hop
  | name h _ => exact absurd (h ▸ trivial) hop
  | close _ _ _ _ =>
      have hs : SlotsOk { s.app with pubIpAddrPre := s.app.pubIpAddr } :=
        H.toSlotsOk.retag rfl (fun _ _ => rfl) fun _ _ h => Or.inl h
      exact .of_no_rules hs.reset rfl rfl fun k hk => congrArg NatTableEntry.enabled
        (NatApp.reset_cache (a := { s.app with pubIpAddrPre := s.app.pubIpAddr }) hk)

/-- Reinstalling a slot that is not enabled. -/
lemma RulesOk.reinstall (H : RulesOk s) (hk : k < s.app.maxEntries)
    (hoff : (s.app.cache k).enabled = false) (hused : (s.app.cache k).conn ≠ {}) :
    RulesOk (s.reinstall k) := by
  unfold NatSys.reinstall
  rcases s.ipa.ipaNatAddIpv4Rule_cases s.app.natTableHdl (s.app.cache k).natRule with
    ⟨rep, h⟩ | ⟨h0, -, hdl, rep, -, hfresh, h⟩
  · rw [h]
    exact (H.wipe hoff).congr rfl rfl rfl rfl rfl
  · rw [h]
    exact (H.enable hk h0 hoff hused hfresh).congr rfl rfl rfl rfl rfl

/-- A table that is created where there was none. -/
lemma RulesOk.addTable (H : RulesOk s) (h0 : s.app.natTableHdl = 0) (pubIp : UInt32) :
    RulesOk (s.addTable pubIp).2 := by
  have hoff := H.off_of_no_tbl h0
  rcases s.addTable_cases pubIp with ⟨ret, hdl, rep, -, hhdl, h⟩ | ⟨-, t, h, ht⟩
  · rw [h]
    have h0' : hdl = s.app.natTableHdl := hhdl.elim (fun e => e.trans h0.symm) id
    exact H.congr rfl rfl h0' rfl rfl
  · rw [h]
    have h1 : RulesOk (s.opened pubIp) :=
      .of_no_rules (H.toSlotsOk.retag rfl (fun _ _ => rfl) fun _ _ h => Or.inl h) rfl rfl hoff
    suffices hR : RulesOk t from hR.congr rfl rfl rfl rfl rfl
    by_cases hpre : pubIp = s.app.pubIpAddrPre
    · -- the slots that the loop has not come to are not enabled
      have hloop := forUpTo_invariant (n := s.app.maxEntries) (f := NatSys.restoreEntry)
        (P := fun i t => RulesOk t ∧ t.app.maxEntries = s.app.maxEntries ∧
          ∀ k < s.app.maxEntries, i ≤ k → (t.app.cache k).enabled = false)
        ⟨h1, rfl, fun k hk _ => hoff k hk⟩ fun i t hi ht => by
          obtain ⟨hR, hmax, hrest⟩ := ht
          unfold NatSys.restoreEntry
          by_cases hip : (t.app.cache i).privateIp ≠ 0
          · rw [if_pos hip]
            obtain ⟨f1, -, -, f4⟩ := t.reinstall_frame i
            refine ⟨hR.reinstall (hmax ▸ hi) (hrest i hi le_rfl) fun h =>
              hip (congrArg Conn.privateIp h), f1.trans hmax, fun k hk hik => ?_⟩
            rw [f4 k (by omega)]
            exact hrest k hk (by omega)
          · rw [if_neg hip]
            exact ⟨hR, hmax, fun k hk hik => hrest k hk (by omega)⟩
      rw [ht, if_pos hpre]
      exact hloop.1
    · rw [ht, if_neg hpre]
      exact h1

/-- A `DeleteEntry` for which the driver does not fail. -/
lemma RulesOk.deleteEntry (H : RulesOk s) {rule : NatTableEntry}
    (hc : NatOp.Clean s (.deleteEntry rule)) : RulesOk (s.deleteEntry rule).2 := by
  unfold NatSys.deleteEntry
  cases hidx : firstIdx s.app.maxEntries fun cnt => (s.app.cache cnt).conn = rule.conn with
  | none => exact H
  | some k =>
      obtain ⟨hk, hconn, -⟩ := firstIdx_eq_some.mp hidx
      by_cases hon : (s.app.cache k).enabled = true
      · have hok := hc k hk (of_decide_eq_true hconn) hon
        simp only [hon, if_true]
        rcases s.ipa.ipaNatDelIpv4Rule_cases s.app.natTableHdl (s.app.cache k).ruleHdl with
          ⟨rep, h⟩ | ⟨-, -, -, rep, h⟩
        · rw [h] at hok
          simp at hok
        · rw [h]
          exact (H.remove hk hon).congr rfl rfl rfl rfl rfl
      · simp only [hon]
        exact H.wipe (by simpa using hon)

/-- **A clean call keeps cache and table tied.** -/
theorem RulesOk.step (H : RulesOk s) (h : op.CleanStep s s') : RulesOk s' := by
  obtain ⟨hc, rfl⟩ := h
  cases op with
  | addTable pubIp => exact H.addTable hc pubIp
  | deleteEntry rule => exact H.deleteEntry hc
  | _ => exact NatOp.preserves H fun _ _ ht hmove => ht.move id hmove

lemma RulesOk.init (h : s.Init) : RulesOk s := by
  have hs := (CacheOk.init h).toSlotsOk
  obtain ⟨n, alg, pre, pwr, rep, rfl⟩ := h
  exact .of_no_rules hs rfl rfl fun _ _ => rfl

end Lemmas

/-- **The enabled slots are the rules of the table**, under the handles that the slots keep, in
every run whose calls are clean. -/
theorem rules_match {s s' : NatSys} {ops : List NatOp} (h0 : s.Init)
    (hr : Run NatOp.CleanStep s ops s') :
    s'.app.natTableHdl = s'.ipa.tblHdl ∧
      (∀ j < s'.app.maxEntries, ∀ k < s'.app.maxEntries, (s'.app.cache j).enabled = true →
        (s'.app.cache k).enabled = true → (s'.app.cache j).ruleHdl = (s'.app.cache k).ruleHdl →
        j = k) ∧
      ∀ hdl, hdl ∈ s'.ipa.hdls ↔ ∃ k < s'.app.maxEntries, (s'.app.cache k).enabled = true ∧
        (s'.app.cache k).ruleHdl = hdl := by
  have H : RulesOk s' := hr.invariant (fun _ _ _ h hst => h.step hst) (RulesOk.init h0)
  refine ⟨H.tbl, H.inj, fun hdl => ⟨fun hmem => ?_, ?_⟩⟩
  · obtain ⟨r, hr, rfl⟩ := List.mem_map.mp hmem
    exact H.owner r hr
  · rintro ⟨k, hk, hon, rfl⟩
    exact H.hdl_mem hk hon

/-- A TCP rule of a client, with all but the client and its port fixed. -/
def tcpRule (privateIp : UInt32) (privatePort : UInt16) : NatTableEntry where
  privateIp := privateIp
  privatePort := privatePort
  targetIp := 0x08080808
  targetPort := 443
  publicPort := privatePort
  protocol := 6

/-- A NatApp with two slots, whose driver gives the listed answers and then succeeds. -/
def twoSlots (answers : List Bool) : NatSys :=
  NatSys.init 2 [] 0 (fun _ => 0) fun n => ⟨answers.getD n true, n⟩

lemma twoSlots_init (answers : List Bool) : (twoSlots answers).Init := ⟨_, _, _, _, _, rfl⟩

/-- A table with one rule, which is then deleted. -/
theorem rules_match_deleted : ∃ ops s', Run NatOp.CleanStep (twoSlots []) ops s' ∧
    ∀ hdl, hdl ∈ s'.ipa.hdls ↔ ∃ k < s'.app.maxEntries, (s'.app.cache k).enabled = true ∧
      (s'.app.cache k).ruleHdl = hdl := by
  have hr : Run NatOp.CleanStep (twoSlots [])
      [.addTable 1, .addEntry (tcpRule 10 20), .deleteEntry (tcpRule 10 20)] _ :=
    .cons ⟨rfl, rfl⟩ (.cons ⟨trivial, rfl⟩ (.cons ⟨by decide +kernel, rfl⟩ (.nil _)))
  exact ⟨_, _, hr, (rules_match (twoSlots_init _) hr).2.2⟩

/-- When the driver fails to delete the rule of a connection that is closed, the rule stays in the
table and no slot knows it any more. -/
theorem rules_leaked : ∃ s ops s', NatSys.Init s ∧ Run NatOp.Step s ops s' ∧
    ¬ (∀ hdl, hdl ∈ s'.ipa.hdls ↔ ∃ k < s'.app.maxEntries, (s'.app.cache k).enabled = true ∧
      (s'.app.cache k).ruleHdl = hdl) := by
  refine ⟨_, _, _, twoSlots_init [true, true, false], NatSys.run_callAll _
    [.addTable 1, .addEntry (tcpRule 10 20), .deleteEntry (tcpRule 10 20)], fun h => ?_⟩
  have hmem := (h 2).mp (by decide +kernel)
  revert hmem
  decide +kernel

end Ipacm
