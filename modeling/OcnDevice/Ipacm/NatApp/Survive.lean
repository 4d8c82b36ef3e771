import OcnDevice.Ipacm.NatApp.Fields

/-!
# Connections while there is no table

The cache outlives the table: what is cached when the WAN goes down stays in its slot, without a
rule, and `AddTable` for the same address gives all of it to the driver again.

One call breaks this.  Without a table the driver refuses every rule, and `ResetPwrSaveIf` clears
the slots whose rule it refuses; so it forgets the connections of the client that leaves power save.
-/

namespace Ipacm

/-- The calls by which a connection is given up: it is closed, or its STA client disconnects. -/
def NatOp.GivesUp (c : Conn) : NatOp → Prop
  | .deleteEntry rule => rule.conn = c
  | .delEntriesOnSTAClntDiscon ip => ip = c.targetIp
  | _ => False

/-- The slot has the connection and its rule still. -/
def Kept (e e' : NatTableEntry) : Prop := e'.conn = e.conn ∧ e'.natRule = e.natRule

/-- A call without a table, behind which there is none either, that does not give up the connection
and is no `ResetPwrSaveIf` of its client. -/
def NatOp.AbsentStep (c : Conn) (s : NatSys) (op : NatOp) (s' : NatSys) : Prop :=
  s.app.natTableHdl = 0 ∧ s'.app.natTableHdl = 0 ∧ ¬ op.GivesUp c ∧
    op ≠ .resetPwrSaveIf c.privateIp ∧ op.Step s s'

section Lemmas

variable {s s' t u : NatSys} {op : NatOp} {k : ℕ} {e : NatTableEntry} {c : Conn}

lemma Kept.refl : Kept e e := ⟨rfl, rfl⟩

lemma Kept.trans {e₁ e₂ e₃ : NatTableEntry} (h : Kept e₁ e₂) (h' : Kept e₂ e₃) : Kept e₁ e₃ :=
  ⟨h'.1.trans h.1, h'.2.trans h.2⟩

lemma Kept.of_fields {e' : NatTableEntry} (h : e'.fields = e.fields) : Kept e e' :=
  ⟨NatTableEntry.conn_eq_of_fields h, NatTableEntry.natRule_eq_of_fields h⟩

/-- **A move keeps a connection** that the call does not forget. -/
lemma NatMove.kept (h : NatMove op t u) (hused : (t.app.cache k).conn ≠ {})
    (hf : ¬ op.Forgets t k) : Kept (t.app.cache k) (u.app.cache k) := by
  rcases h.slot_cases k with h | ⟨-, hfree, -⟩ | ⟨hf', -⟩
  · exact .of_fields h
  · exact absurd hfree hused
  · exact absurd hf' hf

/-- A creation that does not bring a table leaves the cache alone. -/
lemma NatSys.addTable_absent {pubIp : UInt32}
    (h0 : (s.addTable pubIp).2.app.natTableHdl = 0) :
    (s.addTable pubIp).2.app.cache = s.app.cache := by
  rcases s.addTable_cases pubIp with ⟨ret, hdl, rep, -, -, h⟩ | ⟨-, t, h, ht⟩
  · rw [h]
  · have hne : t.app.natTableHdl ≠ 0 := by
      rw [ht]
      by_cases hpre : pubIp = s.app.pubIpAddrPre
      · rw [if_pos hpre]
        refine forUpTo_preserves (P := fun t : NatSys => t.app.natTableHdl ≠ 0) (Nat.succ_ne_zero _)
          fun k t _ ht => ?_
        unfold NatSys.restoreEntry
        split_ifs
        · rw [(t.reinstall_frame k).2.1]
          exact ht
        · exact ht
      · rw [if_neg hpre]
        exact Nat.succ_ne_zero _
    rw [h] at h0
    exact absurd h0 hne

/-- What a call without a table may forget it gives up, or it is a `ResetPwrSaveIf` of the
client. -/
lemma NatOp.Forgets.absent (h : op.Forgets t k) (hop : ∀ pubIp, op ≠ .addTable pubIp) :
    op.GivesUp (t.app.cache k).conn ∨ op = .resetPwrSaveIf (t.app.cache k).privateIp := by
  cases op with
  | addTable pubIp => exact absurd rfl (hop pubIp)
  | deleteEntry rule => exact Or.inl h.symm
  | delEntriesOnSTAClntDiscon ip => exact Or.inl h.2.symm
  | resetPwrSaveIf ip => exact Or.inr (congrArg _ h.2.1.symm)
  | _ => exact absurd h id

/-- **A call without a table keeps a connection.** -/
lemma NatOp.AbsentStep.kept (h : op.AbsentStep c s s') (hconn : (s.app.cache k).conn = c)
    (hused : c ≠ {}) : Kept (s.app.cache k) (s'.app.cache k) := by
  obtain ⟨-, h0', hgive, hreset, rfl⟩ := h
  by_cases hop : ∃ pubIp, op = .addTable pubIp
  · obtain ⟨pubIp, rfl⟩ := hop
    rw [NatOp.call, NatSys.addTable_absent h0']
    exact .refl
  · refine NatOp.preserves (P := fun t => Kept (s.app.cache k) (t.app.cache k)) .refl
      fun t u ht hm => ht.trans (hm.kept ?_ fun hf => ?_)
    · rw [ht.1, hconn]
      exact hused
    · have hc : (t.app.cache k).conn = c := ht.1.trans hconn
      rcases hf.absent (fun pubIp e => hop ⟨pubIp, e⟩) with h | h
      · exact hgive (hc ▸ h)
      · refine hreset (h.trans ?_)
        rw [← hc]
        rfl

/-- A deletion that succeeds is one of the address of the table, which it remembers. -/
lemma NatSys.deleteTable_eq_zero {pubIp : UInt32} (h : s.deleteTable pubIp = (0, s')) :
    s'.app.natTableHdl = 0 ∧ s'.app.pubIpAddrPre = pubIp := by
  unfold NatSys.deleteTable at h
  by_cases h0 : s.app.natTableHdl = 0
  · rw [if_pos h0] at h
    simp at h
  rw [if_neg h0] at h
  by_cases hip : s.app.pubIpAddr = pubIp
  · rw [if_neg (not_not.mpr hip)] at h
    cases hd : s.ipa.ipaNatDelIpv4Tbl s.app.natTableHdl with
    | mk ret ipa =>
        rw [hd] at h
        by_cases hret : ret ≠ 0
        · simp only [if_pos hret] at h
          exact absurd (congrArg Prod.fst h) hret
        · simp only [if_neg hret] at h
          obtain rfl := congrArg Prod.snd h
          exact ⟨rfl, hip⟩
  · rw [if_pos hip] at h
    simp at h

/-- Only the deletion of a table changes the address before. -/
lemma NatMove.pubIpAddrPre (h : NatMove op t u) (hop : ∀ pubIp, op ≠ .deleteTable pubIp) :
    u.app.pubIpAddrPre = t.app.pubIpAddrPre := by
  cases h with
  | close h _ _ _ => exact absurd h (hop _)
  | _ => rfl

lemma NatOp.AbsentStep.pubIpAddrPre (h : op.AbsentStep c s s') :
    s'.app.pubIpAddrPre = s.app.pubIpAddrPre := by
  obtain ⟨h0, -, -, -, rfl⟩ := h
  by_cases hop : ∃ pubIp, op = .deleteTable pubIp
  · obtain ⟨pubIp, rfl⟩ := hop
    rw [NatOp.call, NatSys.deleteTable, if_pos h0]
  · exact NatOp.preserves (P := fun t => t.app.pubIpAddrPre = s.app.pubIpAddrPre) rfl
      fun t u ht hm => (hm.pubIpAddrPre fun pubIp e => hop ⟨pubIp, e⟩).trans ht

/-- **`AddTable` gives the whole cache to the driver**, if the address is the one before and the
driver takes every rule. -/
lemma NatSys.addTable_restores {pubIp : UInt32} (hpre : pubIp = s.app.pubIpAddrPre)
    (hok : ∀ n ≤ s.app.maxEntries, (s.ipa.replies n).ok = true)
    (hadd : s.addTable pubIp = (0, s')) (hk : k < s.app.maxEntries)
    (hip : (s.app.cache k).privateIp ≠ 0) :
    Kept (s.app.cache k) (s'.app.cache k) ∧ (s'.app.cache k).enabled = true ∧
      ((s'.app.cache k).ruleHdl, (s'.app.cache k).natRule) ∈ s'.ipa.rules := by
  rcases s.addTable_cases pubIp with ⟨ret, hdl, rep, hne, -, h⟩ | ⟨-, t, h, ht⟩
  · rw [h] at hadd
    exact absurd (congrArg Prod.fst hadd) hne
  · rw [h] at hadd
    obtain rfl := congrArg Prod.snd hadd
    rw [if_pos hpre] at ht
    have hloop := forUpTo_invariant (n := s.app.maxEntries) (f := NatSys.restoreEntry)
      (P := fun i (t : NatSys) => t.app.natTableHdl ≠ 0 ∧ t.app.natTableHdl = t.ipa.tblHdl ∧
        (∀ n < s.app.maxEntries - i, (t.ipa.replies n).ok = true) ∧
        (∀ j < i, (s.app.cache j).privateIp ≠ 0 → Kept (s.app.cache j) (t.app.cache j) ∧
          (t.app.cache j).enabled = true ∧
          ((t.app.cache j).ruleHdl, (t.app.cache j).natRule) ∈ t.ipa.rules) ∧
        ∀ j, i ≤ j → t.app.cache j = s.app.cache j)
      (s := s.opened pubIp)
      ⟨Nat.succ_ne_zero _, rfl, fun n hn => hok (n + 1) (by omega), by simp, fun _ _ => rfl⟩
      fun i t hi ht => by
        obtain ⟨h0, htbl, hrep, hdone, hrest⟩ := ht
        unfold NatSys.restoreEntry
        by_cases hip : (t.app.cache i).privateIp ≠ 0
        · have hadd : t.ipa.ipaNatAddIpv4Rule t.app.natTableHdl (t.app.cache i).natRule =
              (some t.ipa.freshHdl, { t.ipa.pop with
                rules := (t.ipa.freshHdl, (t.app.cache i).natRule) :: t.ipa.rules }) := by
            unfold IpaDrv.ipaNatAddIpv4Rule
            rw [if_neg (by tauto), if_pos (hrep 0 (by omega))]
          rw [if_pos hip, NatSys.reinstall, hadd]
          refine ⟨h0, htbl, fun n hn => hrep (n + 1) (by omega), fun j hj hjip => ?_,
            fun j hj => ?_⟩
          · rcases Nat.lt_succ_iff_lt_or_eq.mp hj with hj | rfl
            · rw [NatApp.setSlot_cache_of_ne (show j ≠ i by omega)]
              obtain ⟨h1, h2, h3⟩ := hdone j hj hjip
              exact ⟨h1, h2, List.mem_cons_of_mem _ h3⟩
            · rw [NatApp.setSlot_cache_self, hrest j le_rfl]
              exact ⟨⟨rfl, rfl⟩, rfl, List.mem_cons_self⟩
          · rw [NatApp.setSlot_cache_of_ne (show j ≠ i by omega)]
            exact hrest j (by omega)
        · rw [if_neg hip]
          refine ⟨h0, htbl, fun n hn => hrep n (by omega), fun j hj hjip => ?_,
            fun j hj => hrest j (by omega)⟩
          rcases Nat.lt_succ_iff_lt_or_eq.mp hj with hj | rfl
          · exact hdone j hj hjip
          · rw [hrest j le_rfl] at hip
            exact absurd hjip hip
    rw [← ht] at hloop
    exact hloop.2.2.2.1 k hk hip

end Lemmas

/-- **Connections survive the absence of a table.**  What is cached when the table is deleted stays
in its slot for as long as there is no table, no call gives it up and its client does not leave
power save; and the next `AddTable` for the same address installs it, if the driver takes every
rule. -/
theorem connections_survive {s s0 s1 s2 s3 : NatSys} {ops ops' : List NatOp} {pubIp : UInt32}
    {k : ℕ} (h0 : s.Init) (hr : Run NatOp.Step s ops s0)
    (hdel : s0.deleteTable pubIp = (0, s1)) (hk : k < s1.app.maxEntries)
    (hused : (s1.app.cache k).conn ≠ {})
    (hr' : Run (NatOp.AbsentStep (s1.app.cache k).conn) s1 ops' s2) :
    Kept (s1.app.cache k) (s2.app.cache k) ∧
      (s2.addTable pubIp = (0, s3) → (∀ n ≤ s2.app.maxEntries, (s2.ipa.replies n).ok = true) →
        Kept (s1.app.cache k) (s3.app.cache k) ∧ (s3.app.cache k).enabled = true ∧
          ((s3.app.cache k).ruleHdl, (s1.app.cache k).natRule) ∈ s3.ipa.rules) := by
  have hpre1 := (NatSys.deleteTable_eq_zero hdel).2
  have hslots : SlotsOk s1.app :=
    @SlotsOk.step _ _ (.deleteTable pubIp)
      (hr.invariant (P := fun t => SlotsOk t.app) (fun _ _ _ h hst => h.step hst)
        (CacheOk.init h0).toSlotsOk) (congrArg Prod.snd hdel)
  obtain ⟨hkept, hpre, hmax⟩ := hr'.invariant
    (P := fun t => Kept (s1.app.cache k) (t.app.cache k) ∧ t.app.pubIpAddrPre = pubIp ∧
      t.app.maxEntries = s1.app.maxEntries)
    (fun t op u ht hst => ⟨ht.1.trans (hst.kept ht.1.1 hused), hst.pubIpAddrPre.trans ht.2.1,
      (NatOp.step_maxEntries hst.2.2.2.2).trans ht.2.2⟩)
    ⟨.refl, hpre1, rfl⟩
  refine ⟨hkept, fun hadd hok => ?_⟩
  have hip : (s2.app.cache k).privateIp ≠ 0 := by
    have hfull := hslots.full k hk hused
    rw [← hkept.1] at hfull
    exact hfull.1
  obtain ⟨h1, h2, h3⟩ := NatSys.addTable_restores hpre.symm hok hadd (hmax ▸ hk) hip
  exact ⟨hkept.trans h1, h2, by rw [← (hkept.trans h1).2]; exact h3⟩

/-- The state behind a table with one rule that is then deleted. -/
def wanDown : NatSys := (twoSlots []).callAll [.addTable 1, .addEntry (tcpRule 10 20),
  .deleteTable 1]

/-- While the WAN is down another connection is cached; then the same address comes back. -/
theorem connections_survive_one :
    (((wanDown.cacheEntry (tcpRule 11 21)).addTable 1).2.app.cache 0).enabled = true := by
  have hr' : Run (NatOp.AbsentStep (wanDown.app.cache 0).conn) wanDown
      [.cacheEntry (tcpRule 11 21)] (wanDown.cacheEntry (tcpRule 11 21)) :=
    .cons ⟨by decide +kernel, by decide +kernel, id, by simp, rfl⟩ (.nil _)
  exact ((@connections_survive _ _ wanDown _ _ _ _ 1 0 (twoSlots_init [])
    (NatSys.run_callAll _ [.addTable 1, .addEntry (tcpRule 10 20)]) rfl (by decide +kernel)
    (by decide +kernel) hr').2 (Prod.ext (by decide +kernel) rfl) (by decide +kernel)).2.1

/-- A client that leaves power save while the WAN is down loses its connections. -/
theorem connections_forgotten : ∃ s ops s0 s1 s2 k, NatSys.Init s ∧ Run NatOp.Step s ops s0 ∧
    s0.deleteTable 1 = (0, s1) ∧ k < s1.app.maxEntries ∧ (s1.app.cache k).conn ≠ {} ∧
    Run NatOp.Step s1 [.resetPwrSaveIf 10] s2 ∧ s1.app.natTableHdl = 0 ∧ s2.app.natTableHdl = 0 ∧
    ∀ j < s2.app.maxEntries, (s2.app.cache j).conn ≠ (s1.app.cache k).conn := by
  refine ⟨_, _, _, wanDown, _, 0, twoSlots_init [], NatSys.run_callAll _
    [.addTable 1, .addEntry (tcpRule 10 20)], rfl, by decide +kernel, by decide +kernel,
    NatSys.run_callAll _ _, by decide +kernel, by decide +kernel, by decide +kernel⟩

end Ipacm
