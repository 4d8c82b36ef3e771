import OcnDevice.Ipacm.NatApp.Rules

/-!
# Clients in power save

A client in power save has no rule in the table, so that the hardware does not wake it up.
`AddEntry` looks at `PwrSaveIfs` before it installs a rule; `AddTable`, which restores the cache,
does not.

`Saved ip` is what `UpdatePwrSaveIf ip` is there for.  It holds behind the call if there was room in
`PwrSaveIfs` and the driver deleted the rules of the client, and it stays until the client leaves
power save or disconnects, unless a table is restored that has entries of the client.
-/

namespace Ipacm

/-- **The client is in power save**, and none of its entries is enabled. -/
structure Saved (ip : UInt32) (s : NatSys) : Prop where
  listed : ∃ i < ipaMaxNumWifiClients, s.app.pwrSaveIfs i = ip
  off : ∀ k < s.app.maxEntries, (s.app.cache k).privateIp = ip → (s.app.cache k).enabled = false

/-- The number of entries of the client that are enabled, among the first `n`. -/
def NatSys.ruleCnt (s : NatSys) (ip : UInt32) (n : ℕ) : ℕ :=
  ((Finset.range n).filter fun k =>
    (s.app.cache k).privateIp = ip ∧ (s.app.cache k).enabled = true).card

/-- `UpdatePwrSaveIf` can do what it is for: the client is in power save already, with no entry
enabled, or there is room for it and the driver deletes each of its rules. -/
def NatSys.CanSave (s : NatSys) (ip : UInt32) : Prop :=
  if (s.app.pwrSaveIdx ip).isSome then
    ∀ k < s.app.maxEntries, (s.app.cache k).privateIp = ip → (s.app.cache k).enabled = false
  else (s.app.pwrSaveIdx 0).isSome ∧
    ∀ n < s.ruleCnt ip s.app.maxEntries, (s.ipa.replies n).ok = true

instance (s : NatSys) (ip : UInt32) : Decidable (s.CanSave ip) := by
  unfold NatSys.CanSave
  infer_instance

/-- A call that leaves the client in power save, and restores no table with entries of it. -/
def NatOp.KeepsSaved (ip : UInt32) (s : NatSys) : NatOp → Prop
  | .resetPwrSaveIf ip' | .delEntriesOnClntDiscon ip' => ip' ≠ ip
  | .addTable pubIp => pubIp = s.app.pubIpAddrPre →
      ∀ k < s.app.maxEntries, (s.app.cache k).privateIp ≠ ip
  | _ => True

/-- A clean call that keeps the client in power save. -/
def NatOp.SavedStep (ip : UInt32) (s : NatSys) (op : NatOp) (s' : NatSys) : Prop :=
  op.KeepsSaved ip s ∧ op.CleanStep s s'

section Lemmas

variable {s s' t u : NatSys} {op : NatOp} {ip : UInt32} {k : ℕ} {e : NatTableEntry}

lemma Saved.isPwrSaveIf (H : Saved ip s) (hip : ip ≠ 0) : s.app.isPwrSaveIf ip = true := by
  obtain ⟨i, hi, h⟩ := H.listed
  unfold NatApp.isPwrSaveIf
  rw [List.any_eq_true]
  exact ⟨i, List.mem_range.mpr hi, by simp [h, hip]⟩

/-- A change of one slot that leaves no enabled entry of the client there. -/
lemma Saved.slot (H : Saved ip s) {a : NatApp} (hpwr : a.pwrSaveIfs = s.app.pwrSaveIfs)
    (hmax : a.maxEntries = s.app.maxEntries) (hother : ∀ j, j ≠ k → a.cache j = s.app.cache j)
    (hself : (a.cache k).privateIp = ip → (a.cache k).enabled = false) (ipa : IpaDrv) :
    Saved ip { app := a, ipa } := by
  refine ⟨by simpa only [hpwr] using H.listed, fun j hj h => ?_⟩
  by_cases hjk : j = k
  · rw [hjk] at h ⊢
    exact hself h
  · simp only [hother j hjk] at h ⊢
    exact H.off j (hmax ▸ hj) h

/-- Clearing a slot. -/
lemma Saved.wipe (H : Saved ip s) (ipa : IpaDrv) : Saved ip { app := s.app.wipe k, ipa } := by
  refine H.slot (a := s.app.wipe k) (k := k) rfl rfl (fun j => NatApp.wipe_cache_of_ne)
    (fun _ => ?_) ipa
  rw [NatApp.wipe_cache_self]

/-- An entry of `PwrSaveIfs` that is not the client's may change. -/
lemma Saved.setPwrSaveIf (H : Saved ip s) {i : ℕ} {ip' : UInt32} (h : s.app.pwrSaveIfs i ≠ ip) :
    Saved ip { s with app := s.app.setPwrSaveIf i ip' } := by
  obtain ⟨j, hj, hjip⟩ := H.listed
  have hne : j ≠ i := fun e => h (e ▸ hjip)
  exact ⟨⟨j, hj, (Function.update_of_ne hne _ _).trans hjip⟩, H.off⟩

/-- No table with entries of the client is restored, in the middle of a call as well. -/
def NatOp.RestoresNot (op : NatOp) (ip : UInt32) (s : NatSys) : Prop :=
  ∀ pubIp, op = .addTable pubIp → pubIp = s.app.pubIpAddrPre →
    ∀ k < s.app.maxEntries, (s.app.cache k).privateIp ≠ ip

lemma NatOp.RestoresNot.of_keeps (h : op.KeepsSaved ip s) : op.RestoresNot ip s := by
  rintro pubIp rfl
  exact h

/-- The moves of a restore bring no entry of the client. -/
lemma NatOp.RestoresNot.move (hip : ip ≠ 0) (h : op.RestoresNot ip t) (hm : NatMove op t u) :
    op.RestoresNot ip u := by
  rintro pubIp rfl hpre k hk
  have hwipe : ∀ j, t.app.pubIpAddrPre = u.app.pubIpAddrPre → k < t.app.maxEntries →
      ((t.app.wipe j).cache k).privateIp ≠ ip := fun j hpre' hk => by
    by_cases hkj : k = j
    · rw [hkj, NatApp.wipe_cache_self]
      exact hip.symm
    · rw [NatApp.wipe_cache_of_ne hkj]
      exact h pubIp rfl (hpre.trans hpre'.symm) k hk
  have hset : ∀ j e, t.app.pubIpAddrPre = u.app.pubIpAddrPre → k < t.app.maxEntries →
      e.privateIp = (t.app.cache j).privateIp →
      ((t.app.setSlot j e).cache k).privateIp ≠ ip := fun j e hpre' hk he => by
    by_cases hkj : k = j
    · rw [hkj, NatApp.setSlot_cache_self, he]
      exact h pubIp rfl (hpre.trans hpre'.symm) j (hkj ▸ hk)
    · rw [NatApp.setSlot_cache_of_ne hkj]
      exact h pubIp rfl (hpre.trans hpre'.symm) k hk
  cases hm with
  | quiet _ _ | openTbl _ _ | openFail _ | name _ _ => exact h pubIp rfl hpre k hk
  | forget _ _ _ | remove _ _ _ _ | leak _ _ _ _ => exact hwipe _ rfl hk
  | enable _ _ _ _ _ _ | stamp _ _ => exact hset _ _ rfl hk rfl
  | save hop _ _ _ | fill hop _ _ _ _ _ | install hop _ _ _ _ _ _ _ _ _ _ | disable hop _ _ _
  | close hop _ _ _ => simp [NatOp.Fills, NatOp.Disables] at hop
  | unsave hop _ _ => simp at hop

/-- **Each move leaves the client in power save.** -/
lemma Saved.move (hip : ip ≠ 0) (H : Saved ip t)
    (hkeep : op ≠ .resetPwrSaveIf ip ∧ op ≠ .delEntriesOnClntDiscon ip)
    (hrest : op.RestoresNot ip t) (h : NatMove op t u) : Saved ip u := by
  cases h with
  | quiet _ _ | openTbl _ _ | openFail _ | name _ _ => exact ⟨H.listed, H.off⟩
  | save _ _ _ h0 => exact H.setPwrSaveIf (by rw [h0]; exact hip.symm)
  | unsave hop _ h =>
      refine H.setPwrSaveIf fun e => ?_
      rw [h] at e
      subst e
      exact hop.elim hkeep.1 hkeep.2
  | @fill k e _ _ _ _ _ hoff =>
      refine H.slot (a := t.app.fill k e) (k := k) rfl rfl (fun j => NatApp.fill_cache_of_ne)
        (fun _ => ?_) _
      rw [NatApp.fill_cache_self, hoff]
  | @install k e _ _ _ _ _ _ _ _ _ _ hsave =>
      refine H.slot (a := t.app.fill k e) (k := k) rfl rfl (fun j => NatApp.fill_cache_of_ne)
        (fun h => ?_) _
      rw [NatApp.fill_cache_self] at h
      rw [h, H.isPwrSaveIf hip] at hsave
      simp at hsave
  | forget _ _ _ => exact H.wipe _
  | remove _ _ _ _ => exact H.wipe _
  | leak _ _ _ _ => exact H.wipe _
  | @enable k hdl hre hk _ _ _ _ =>
      refine H.slot (a := t.app.setSlot k _) (k := k) rfl rfl (fun j => NatApp.setSlot_cache_of_ne) (fun h => ?_) _
      rw [NatApp.setSlot_cache_self] at h
      cases op with
      | addTable pubIp => exact absurd h (hrest pubIp rfl hre.1 k hk)
      | resetPwrSaveIf ip' => exact absurd (congrArg _ (hre.2.1.symm.trans h)) hkeep.1
      | _ => exact absurd hre id
  | @disable k hdl _ _ _ _ =>
      refine H.slot (a := t.app.setSlot k _) (k := k) rfl rfl (fun j => NatApp.setSlot_cache_of_ne) (fun _ => ?_) _
      rw [NatApp.setSlot_cache_self]
  | @stamp k ts hk hon =>
      refine H.slot (a := t.app.setSlot k _) (k := k) rfl rfl (fun j => NatApp.setSlot_cache_of_ne) (fun h => ?_) _
      rw [NatApp.setSlot_cache_self] at h ⊢
      exact H.off k hk h
  | close _ _ _ _ =>
      refine ⟨H.listed, fun k hk _ => congrArg NatTableEntry.enabled
        (NatApp.reset_cache (a := { t.app with pubIpAddrPre := t.app.pubIpAddr }) hk)⟩

/-- **A call that keeps the client in power save does.** -/
lemma Saved.step (hip : ip ≠ 0) (H : Saved ip s) (hkeep : op.KeepsSaved ip s) (h : op.Step s s') :
    Saved ip s' := by
  have hne : op ≠ .resetPwrSaveIf ip ∧ op ≠ .delEntriesOnClntDiscon ip :=
    ⟨by rintro rfl; exact hkeep rfl, by rintro rfl; exact hkeep rfl⟩
  obtain rfl := h
  exact (NatOp.preserves (P := fun t => Saved ip t ∧ op.RestoresNot ip t) ⟨H, .of_keeps hkeep⟩
    fun t u ht hm => ⟨ht.1.move hip hne ht.2 hm, ht.2.move hip hm⟩).1

/-- The rules in the table are those of the enabled slots. -/
lemma RulesOk.rule_of_slot (H : RulesOk s) {r : ℕ × IpaNat.IpaNatIpv4Rule} (hr : r ∈ s.ipa.rules) :
    ∃ k < s.app.maxEntries, (s.app.cache k).enabled = true ∧ r.2 = (s.app.cache k).natRule := by
  obtain ⟨k, hk, hon, hhdl⟩ := H.owner r hr
  refine ⟨k, hk, hon, ?_⟩
  have hmem := H.rule k hk hon
  rw [hhdl] at hmem
  exact congrArg Prod.snd (List.inj_on_of_nodup_map H.nodup hr hmem rfl)

lemma NatSys.ruleCnt_succ_of (ip : UInt32) (n : ℕ) (h : (s.app.cache n).privateIp = ip ∧
    (s.app.cache n).enabled = true) : s.ruleCnt ip (n + 1) = s.ruleCnt ip n + 1 := by
  unfold NatSys.ruleCnt
  rw [Finset.range_add_one, Finset.filter_insert, if_pos h, Finset.card_insert_of_notMem (by simp)]

lemma NatSys.ruleCnt_succ_of_not (ip : UInt32) (n : ℕ) (h : ¬ ((s.app.cache n).privateIp = ip ∧
    (s.app.cache n).enabled = true)) : s.ruleCnt ip (n + 1) = s.ruleCnt ip n := by
  unfold NatSys.ruleCnt
  rw [Finset.range_add_one, Finset.filter_insert, if_neg h]

lemma NatSys.ruleCnt_mono (ip : UInt32) {m n : ℕ} (h : m ≤ n) : s.ruleCnt ip m ≤ s.ruleCnt ip n :=
  Finset.card_le_card (Finset.filter_subset_filter _ (Finset.range_mono h))

/-- The loop of `UpdatePwrSaveIf` disables every entry of the client, if the driver deletes their
rules. -/
lemma RulesOk.pwrSaveLoop (ip : UInt32) (H : RulesOk s)
    (hok : ∀ n < s.ruleCnt ip s.app.maxEntries, (s.ipa.replies n).ok = true) :
    (forUpTo s.app.maxEntries (NatSys.pwrSaveEntry ip) s).app.maxEntries = s.app.maxEntries ∧
      (forUpTo s.app.maxEntries (NatSys.pwrSaveEntry ip) s).app.pwrSaveIfs = s.app.pwrSaveIfs ∧
      ∀ k < s.app.maxEntries,
        ((forUpTo s.app.maxEntries (NatSys.pwrSaveEntry ip) s).app.cache k).privateIp = ip →
        ((forUpTo s.app.maxEntries (NatSys.pwrSaveEntry ip) s).app.cache k).enabled = false := by
  have hloop := forUpTo_invariant (n := s.app.maxEntries) (f := NatSys.pwrSaveEntry ip) (s := s)
    (P := fun i t => RulesOk t ∧ t.app.maxEntries = s.app.maxEntries ∧
      t.app.pwrSaveIfs = s.app.pwrSaveIfs ∧
      (∀ k < i, (t.app.cache k).privateIp = ip → (t.app.cache k).enabled = false) ∧
      (∀ k, i ≤ k → t.app.cache k = s.app.cache k) ∧
      ∀ n, t.ipa.replies n = s.ipa.replies (n + s.ruleCnt ip i))
    ⟨H, rfl, rfl, by simp, fun _ _ => rfl, fun n => by simp [NatSys.ruleCnt]⟩
    fun i t hi ht => by
      obtain ⟨hR, hmax, hpwr, hdone, hrest, hrep⟩ := ht
      have hi' : t.app.cache i = s.app.cache i := hrest i le_rfl
      unfold NatSys.pwrSaveEntry
      by_cases hon : (t.app.cache i).privateIp = ip ∧ (t.app.cache i).enabled = true
      · have hcnt := s.ruleCnt_succ_of ip i (hi' ▸ hon)
        have hlt : s.ruleCnt ip i < s.ruleCnt ip s.app.maxEntries := by
          have := s.ruleCnt_mono ip (show i + 1 ≤ s.app.maxEntries from hi)
          omega
        have hin := hR.hdl_mem (hmax ▸ hi) hon.2
        have h0 : t.app.natTableHdl ≠ 0 := fun h => by
          rw [IpaDrv.hdls, hR.no_tbl (hR.tbl.symm.trans h)] at hin
          simp at hin
        have hdel := IpaDrv.ipaNatDelIpv4Rule_of_ok h0 hR.tbl hin
          (by rw [hrep, Nat.zero_add]; exact hok _ hlt)
        rw [if_pos hon, NatSys.disableEntry, hdel]
        refine ⟨(hR.disable 0 (hmax ▸ hi) hon.2).congr rfl rfl rfl rfl rfl, hmax, hpwr,
          fun k hk hip => ?_, fun k hk => ?_, fun n => ?_⟩
        · by_cases hki : k = i
          · rw [hki, NatApp.setSlot_cache_self]
          · rw [NatApp.setSlot_cache_of_ne hki] at hip ⊢
            exact hdone k (by omega) hip
        · rw [NatApp.setSlot_cache_of_ne (show k ≠ i by omega)]
          exact hrest k (by omega)
        · rw [hcnt]
          exact (hrep (n + 1)).trans (congrArg s.ipa.replies (by omega))
      · rw [if_neg hon]
        refine ⟨hR, hmax, hpwr, fun k hk hip => ?_, fun k hk => hrest k (by omega), fun n => ?_⟩
        · rcases Nat.lt_succ_iff_lt_or_eq.mp hk with hk | rfl
          · exact hdone k hk hip
          · by_contra hne
            exact hon ⟨hip, by simpa using hne⟩
        · rw [s.ruleCnt_succ_of_not ip i (by rw [← hi']; exact hon)]
          exact hrep n
  exact ⟨hloop.2.1, hloop.2.2.1, hloop.2.2.2.1⟩

/-- **`UpdatePwrSaveIf` puts the client in power save** if it can. -/
theorem RulesOk.saved (H : RulesOk s) (hip : ip ≠ 0) (hcan : s.CanSave ip) :
    Saved ip (s.updatePwrSaveIf ip).2 := by
  unfold NatSys.CanSave at hcan
  unfold NatSys.updatePwrSaveIf
  rw [if_neg hip]
  by_cases hdup : (s.app.pwrSaveIdx ip).isSome = true
  · rw [if_pos hdup] at hcan ⊢
    obtain ⟨i, hi⟩ := Option.isSome_iff_exists.mp hdup
    obtain ⟨h1, h2, -⟩ := firstIdx_eq_some.mp hi
    exact ⟨⟨i, h1, of_decide_eq_true h2⟩, hcan⟩
  · rw [if_neg hdup] at hcan ⊢
    obtain ⟨i, hi⟩ := Option.isSome_iff_exists.mp hcan.1
    obtain ⟨h1, -, -⟩ := firstIdx_eq_some.mp hi
    simp only [hi]
    have hR : RulesOk { s with app := s.app.setPwrSaveIf i ip } := H.congr rfl rfl rfl rfl rfl
    obtain ⟨hmax, hpwr, hoff⟩ := hR.pwrSaveLoop ip hcan.2
    refine ⟨⟨i, h1, ?_⟩, fun k hk => hoff k (hmax ▸ hk)⟩
    rw [hpwr]
    exact Function.update_self _ _ _

end Lemmas

/-- **Power save is respected**: from an `UpdatePwrSaveIf` that can put the client in power save, and
for as long as the calls keep it there, no entry of the client is enabled, and no rule of the table
is one of the client. -/
theorem pwrSave_respected {s s1 s2 s3 : NatSys} {ops ops' : List NatOp} {ip : UInt32}
    (h0 : s.Init) (hr : Run NatOp.CleanStep s ops s1) (hupd : s1.updatePwrSaveIf ip = (0, s2))
    (hcan : s1.CanSave ip) (hr' : Run (NatOp.SavedStep ip) s2 ops' s3) :
    (∀ k < s3.app.maxEntries, (s3.app.cache k).privateIp = ip →
        (s3.app.cache k).enabled = false) ∧
      ∀ r ∈ s3.ipa.rules, r.2.privateIp ≠ ip := by
  have hip : ip ≠ 0 := by
    rintro rfl
    simp [NatSys.updatePwrSaveIf] at hupd
  have H1 : RulesOk s1 := hr.invariant (fun _ _ _ h hst => h.step hst) (RulesOk.init h0)
  have h2 : s2 = (s1.updatePwrSaveIf ip).2 := (congrArg Prod.snd hupd).symm
  have H2 : RulesOk s2 := @RulesOk.step _ _ (.updatePwrSaveIf ip) H1 ⟨trivial, h2.symm⟩
  have hs2 : Saved ip s2 := h2 ▸ H1.saved hip hcan
  obtain ⟨H3, hs3⟩ := hr'.invariant (P := fun t => RulesOk t ∧ Saved ip t)
    (fun _ _ _ h hst => ⟨h.1.step hst.2, h.2.step hip hst.1 hst.2.2⟩) ⟨H2, hs2⟩
  refine ⟨hs3.off, fun r hmem hrip => ?_⟩
  obtain ⟨k, hk, hon, hrule⟩ := H3.rule_of_slot hmem
  have hoff := hs3.off k hk (by rw [← hrip, hrule]; rfl)
  rw [hoff] at hon
  simp at hon

/-- A client goes into power save with a rule in the table, and then opens another connection. -/
theorem pwrSave_respected_two : ∃ s3, Run (NatOp.SavedStep 10)
    ((twoSlots []).callAll [.addTable 1, .addEntry (tcpRule 10 20), .updatePwrSaveIf 10])
    [.addEntry (tcpRule 10 21)] s3 ∧
    ∀ k < s3.app.maxEntries, (s3.app.cache k).privateIp = 10 →
      (s3.app.cache k).enabled = false := by
  have hr : Run NatOp.CleanStep (twoSlots []) [.addTable 1, .addEntry (tcpRule 10 20)]
      ((twoSlots []).callAll [.addTable 1, .addEntry (tcpRule 10 20)]) :=
    .cons ⟨rfl, rfl⟩ (.cons ⟨trivial, rfl⟩ (.nil _))
  have hr' : Run (NatOp.SavedStep 10)
      ((twoSlots []).callAll [.addTable 1, .addEntry (tcpRule 10 20), .updatePwrSaveIf 10])
      [.addEntry (tcpRule 10 21)] _ := .cons ⟨trivial, trivial, rfl⟩ (.nil _)
  exact ⟨_, hr', (pwrSave_respected (twoSlots_init _) hr rfl (by decide +kernel) hr').1⟩

/-- A table that is deleted and created again brings back the rules of a client in power save. -/
theorem pwrSave_restored : ∃ s ops s1 s2 ops' s3, NatSys.Init s ∧ Run NatOp.Step s ops s1 ∧
    s1.updatePwrSaveIf 10 = (0, s2) ∧ Run NatOp.Step s2 ops' s3 ∧
    (∀ op ∈ ops', op ≠ .resetPwrSaveIf 10 ∧ op ≠ .delEntriesOnClntDiscon 10) ∧
    ∃ k < s3.app.maxEntries, (s3.app.cache k).privateIp = 10 ∧ (s3.app.cache k).enabled = true := by
  refine ⟨_, _, _, _, [.deleteTable 1, .addTable 1], _, twoSlots_init [], NatSys.run_callAll _
    [.addTable 1, .addEntry (tcpRule 10 20)], rfl, NatSys.run_callAll _ _, by decide, 0, ?_⟩
  decide +kernel

end Ipacm
