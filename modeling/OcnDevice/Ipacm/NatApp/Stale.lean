import OcnDevice.Ipacm.NatApp.Rules

/-!
# Connections of another public address

A connection is learned under the public address of its time, and its rule translates to no other.
The cache outlives the tables of several addresses, and it does not keep the address of a slot that
`AddEntry` filled.  So the history is followed beside the state: `Learned` has, for each slot in use,
the address under which its connection was learned.

Rules are installed from the cache by the restore of `AddTable` and by `ResetPwrSaveIf`, and neither
looks at that address.
-/

namespace Ipacm

/-- NatApp, and for each slot the address under which its connection was learned. -/
structure Learned where
  sys : NatSys
  addr : ℕ → UInt32

/-- The address under which the connections were learned that a call puts into free slots.
`FlushTempEntries` takes temporary entries of the current address only. -/
def NatOp.learnedUnder (s : NatSys) : NatOp → UInt32
  | .addEntry rule | .cacheEntry rule => rule.publicIp
  | _ => s.app.pubIpAddr

/-- A call, and what it does to the history. -/
def NatOp.LearnStep (l : Learned) (op : NatOp) (l' : Learned) : Prop :=
  op.Step l.sys l'.sys ∧ ∀ k, l'.addr k =
    if (l.sys.app.cache k).conn = {} then op.learnedUnder l.sys else l.addr k

/-- **The entries that a call installs are of the address of the table**: the rule given to
`AddEntry`, the cache that `AddTable` restores, and the entries of a client that leaves power save
while there is a table. -/
def NatOp.Current (l : Learned) : NatOp → Prop
  | .addEntry rule => rule.publicIp = l.sys.app.pubIpAddr
  | .addTable pubIp => pubIp = l.sys.app.pubIpAddrPre →
      ∀ k < l.sys.app.maxEntries, (l.sys.app.cache k).conn ≠ {} → l.addr k = pubIp
  | .resetPwrSaveIf ip => l.sys.app.natTableHdl ≠ 0 →
      ∀ k < l.sys.app.maxEntries, (l.sys.app.cache k).privateIp = ip →
        (l.sys.app.cache k).enabled = false → l.addr k = l.sys.app.pubIpAddr
  | _ => True

/-- A clean call that installs entries of the address of the table only. -/
def NatOp.CurrentStep (l : Learned) (op : NatOp) (l' : Learned) : Prop :=
  op.Clean l.sys ∧ op.Current l ∧ op.LearnStep l l'

section Lemmas

variable {s s' t u : NatSys} {op : NatOp} {k : ℕ} {l l' : Learned}

/-- A slot that is enabled behind a call was enabled before, or it was free and the call fills slots
with rules, or the call reinstalls entries and this is one that it may. -/
def NatOp.Origin (op : NatOp) (s : NatSys) (k : ℕ) : Prop :=
  (s.app.cache k).enabled = true ∨ ((s.app.cache k).conn = {} ∧ op.Fills true) ∨
    (∃ pubIp, op = .addTable pubIp ∧ pubIp = s.app.pubIpAddrPre ∧ (s.app.cache k).conn ≠ {}) ∨
    ∃ ip, op = .resetPwrSaveIf ip ∧ (s.app.cache k).privateIp = ip ∧ (s.app.cache k).conn ≠ {}

/-- What became of slot `k` in the course of a call that started in `s`. -/
structure NatOp.Traced (op : NatOp) (s : NatSys) (k : ℕ) (t : NatSys) : Prop where
  pre : (∃ pubIp, op = .addTable pubIp) → t.app.pubIpAddrPre = s.app.pubIpAddrPre
  conn : (t.app.cache k).conn = (s.app.cache k).conn ∨
    ((s.app.cache k).conn = {} ∧ ∃ b, op.Fills b) ∨
    ((t.app.cache k).conn = {} ∧ ∀ b, ¬ op.Fills b)
  origin : (t.app.cache k).enabled = true → op.Origin s k

/-- A call that forgets entries fills none. -/
lemma NatOp.Forgets.not_fills (h : op.Forgets s k) (b : Bool) : ¬ op.Fills b := by
  cases op with
  | addEntry _ | cacheEntry _ | flushTempEntries _ _ _ => exact absurd h id
  | _ => exact id

lemma NatOp.Reinstalls.not_fills (h : op.Reinstalls s k) (b : Bool) : ¬ op.Fills b := by
  cases op with
  | addTable _ | resetPwrSaveIf _ => exact id
  | _ => exact absurd h id

/-- A move that leaves the slot alone, or changes nothing of it that counts. -/
lemma NatOp.Traced.same (h : op.Traced s k t)
    (hpre : (∃ pubIp, op = .addTable pubIp) → u.app.pubIpAddrPre = t.app.pubIpAddrPre)
    (hconn : (u.app.cache k).conn = (t.app.cache k).conn)
    (hon : (u.app.cache k).enabled = true → (t.app.cache k).enabled = true) : op.Traced s k u :=
  ⟨fun hop => (hpre hop).trans (h.pre hop), hconn ▸ h.conn, fun he => h.origin (hon he)⟩

/-- **Each move can be traced.** -/
lemma NatOp.Traced.move (h : op.Traced s k t) (hm : NatMove op t u) : op.Traced s k u := by
  have hkeep : ∀ {j e a}, a = t.app.setSlot j e → k ≠ j → ∀ ipa : IpaDrv,
      op.Traced s k { app := a, ipa } := fun {j e a} ha hkj ipa => by
    subst ha
    exact h.same (fun _ => rfl) (by simp only [NatApp.setSlot_cache_of_ne hkj])
      (by simp only [NatApp.setSlot_cache_of_ne hkj]; exact id)
  have hfill : ∀ {j e} (b : Bool), op.Fills b → (t.app.cache j).conn = {} →
      (e.enabled = true → b = true) → ∀ ipa : IpaDrv,
      op.Traced s k { app := t.app.fill j e, ipa } := fun {j e} b hb hfree hon ipa => by
    by_cases hkj : k = j
    · subst hkj
      have hs : (s.app.cache k).conn = {} := by
        rcases h.conn with h | h | h
        · rw [← h, hfree]
        · exact h.1
        · exact absurd hb (h.2 b)
      refine ⟨fun hop => h.pre hop, Or.inr (Or.inl ⟨hs, b, hb⟩), fun he => ?_⟩
      simp only [NatApp.fill_cache_self] at he
      exact Or.inr (Or.inl ⟨hs, hon he ▸ hb⟩)
    · exact h.same (fun _ => rfl) (by simp only [NatApp.fill_cache_of_ne hkj])
        (by simp only [NatApp.fill_cache_of_ne hkj]; exact id)
  have hwipe : ∀ {j}, op.Forgets t j → ∀ ipa : IpaDrv,
      op.Traced s k { app := t.app.wipe j, ipa } := fun {j} hf ipa => by
    by_cases hkj : k = j
    · subst hkj
      refine ⟨fun hop => h.pre hop, Or.inr (Or.inr ⟨?_, hf.not_fills⟩), fun he => ?_⟩
      · simp only [NatApp.wipe_cache_self]
        rfl
      · simp [NatApp.wipe_cache_self] at he
    · exact h.same (fun _ => rfl) (by simp only [NatApp.wipe_cache_of_ne hkj])
        (by simp only [NatApp.wipe_cache_of_ne hkj]; exact id)
  cases hm with
  | quiet _ _ | save _ _ _ _ | unsave _ _ _ | openTbl _ _ | openFail _ | name _ _ =>
      exact h.same (fun _ => rfl) rfl id
  | fill hop _ hfree _ _ hoff => exact hfill false hop hfree (by simp [hoff]) _
  | install hop _ hfree _ _ _ _ _ _ _ _ => exact hfill true hop hfree (fun _ => rfl) _
  | forget hop _ _ => exact hwipe hop _
  | remove hop _ _ _ => exact hwipe hop _
  | leak hop _ _ _ => exact hwipe hop _
  | @enable j hdl hre hk _ _ _ _ =>
      by_cases hkj : k = j
      · subst hkj
        have hused := hre.used
        have hconn : (t.app.cache k).conn = (s.app.cache k).conn := by
          rcases h.conn with h | h | h
          · exact h
          · obtain ⟨b, hb⟩ := h.2
            exact absurd hb (hre.not_fills b)
          · exact absurd h.1 hused
        refine ⟨fun hop => h.pre hop, Or.inl ?_, fun _ => ?_⟩
        · simp only [NatApp.setSlot_cache_self]
          exact hconn
        · cases op with
          | addTable pubIp =>
              exact Or.inr (Or.inr (Or.inl ⟨pubIp, rfl, hre.1.trans (h.pre ⟨_, rfl⟩),
                hconn ▸ hused⟩))
          | resetPwrSaveIf ip =>
              exact Or.inr (Or.inr (Or.inr ⟨ip, rfl,
                (congrArg Conn.privateIp hconn).symm.trans hre.2.1, hconn ▸ hused⟩))
          | _ => exact absurd hre id
      · exact hkeep rfl hkj _
  | @disable j hdl _ _ _ _ =>
      by_cases hkj : k = j
      · subst hkj
        refine h.same (fun _ => rfl) ?_ fun he => ?_
        · simp only [NatApp.setSlot_cache_self]
          rfl
        · simp [NatApp.setSlot_cache_self] at he
      · exact hkeep rfl hkj _
  | @stamp j ts _ hon =>
      by_cases hkj : k = j
      · subst hkj
        refine h.same (fun _ => rfl) ?_ fun _ => hon
        simp only [NatApp.setSlot_cache_self]
        rfl
      · exact hkeep rfl hkj _
  | close hop _ _ _ =>
      refine h.same (fun ⟨_, e⟩ => by rw [e] at hop; simp at hop) ?_ fun he => ?_
      · by_cases hk : k < t.app.maxEntries
        · simp only [NatApp.reset_cache (a := { t.app with pubIpAddrPre := t.app.pubIpAddr }) hk]
          rfl
        · simp only [NatApp.reset, if_neg hk]
      · by_cases hk : k < t.app.maxEntries
        · simp [NatApp.reset_cache (a := { t.app with pubIpAddrPre := t.app.pubIpAddr }) hk] at he
        · simpa only [NatApp.reset, if_neg hk] using he

/-- **Where the enabled slots behind a call come from.** -/
theorem NatOp.Step.origin (h : op.Step s s') (hon : (s'.app.cache k).enabled = true) :
    op.Origin s k := by
  obtain rfl := h
  exact (NatOp.preserves (P := op.Traced s k) ⟨fun _ => rfl, Or.inl rfl, Or.inl⟩
    fun _ _ ht hm => ht.move hm).origin hon

/-- Only the creation and the deletion of a table change the address and the table. -/
lemma NatMove.addresses (h : NatMove op t u)
    (hop : ∀ pubIp, op ≠ .addTable pubIp ∧ op ≠ .deleteTable pubIp) :
    u.app.pubIpAddr = t.app.pubIpAddr ∧ u.app.natTableHdl = t.app.natTableHdl ∧
      u.ipa.publicIp = t.ipa.publicIp := by
  cases h with
  | openTbl h _ | openFail h | name h _ => exact absurd h (hop _).1
  | close h _ _ _ => exact absurd h (hop _).2
  | _ => exact ⟨rfl, rfl, rfl⟩

lemma NatOp.Step.addresses (h : op.Step s s')
    (hop : ∀ pubIp, op ≠ .addTable pubIp ∧ op ≠ .deleteTable pubIp) :
    s'.app.pubIpAddr = s.app.pubIpAddr ∧ s'.app.natTableHdl = s.app.natTableHdl ∧
      s'.ipa.publicIp = s.ipa.publicIp := by
  obtain rfl := h
  exact NatOp.preserves (P := fun t => t.app.pubIpAddr = s.app.pubIpAddr ∧
    t.app.natTableHdl = s.app.natTableHdl ∧ t.ipa.publicIp = s.ipa.publicIp) ⟨rfl, rfl, rfl⟩
    fun t u ht hm => by
      obtain ⟨h1, h2, h3⟩ := hm.addresses hop
      exact ⟨h1.trans ht.1, h2.trans ht.2.1, h3.trans ht.2.2⟩

/-- A `DeleteTable` fails and changes nothing but the replies, or there is no table any more. -/
lemma NatSys.deleteTable_cases (s : NatSys) (pubIp : UInt32) :
    (∃ replies, (s.deleteTable pubIp).2 = { s with ipa := { s.ipa with replies } }) ∨
      (s.deleteTable pubIp).2.app.natTableHdl = 0 := by
  unfold NatSys.deleteTable IpaDrv.ipaNatDelIpv4Tbl
  split_ifs
  · exact Or.inl ⟨s.ipa.replies, rfl⟩
  · exact Or.inl ⟨s.ipa.replies, rfl⟩
  · exact Or.inl ⟨s.ipa.replies, rfl⟩
  · exact Or.inr rfl
  · exact Or.inl ⟨_, rfl⟩

/-- A creation that succeeds names the address of the table. -/
lemma NatSys.addTable_addresses (pubIp : UInt32) (h0 : s.app.natTableHdl = 0)
    (hne : (s.addTable pubIp).2.app.natTableHdl ≠ 0) :
    (s.addTable pubIp).2.app.pubIpAddr = pubIp ∧ (s.addTable pubIp).2.ipa.publicIp = pubIp := by
  rcases s.addTable_cases pubIp with ⟨ret, hdl, rep, -, hhdl, h⟩ | ⟨-, t, h, ht⟩
  · rw [h] at hne
    exact absurd (hhdl.elim id fun e => e.trans h0) hne
  · rw [h]
    refine ⟨rfl, ?_⟩
    suffices hip : t.ipa.publicIp = pubIp from hip
    rw [ht]
    by_cases hpre : pubIp = s.app.pubIpAddrPre
    · rw [if_pos hpre]
      refine forUpTo_preserves (P := fun t : NatSys => t.ipa.publicIp = pubIp) rfl
        fun k t _ ht => ?_
      unfold NatSys.restoreEntry NatSys.reinstall
      split_ifs
      · rcases t.ipa.ipaNatAddIpv4Rule_cases t.app.natTableHdl (t.app.cache k).natRule with
          ⟨rep, h⟩ | ⟨-, -, hdl, rep, -, -, h⟩ <;> rw [h] <;> exact ht
      · exact ht
    · rw [if_neg hpre]
      rfl

/-- **The invariant**: the enabled slots are of the address of the table. -/
structure CurrentOk (l : Learned) : Prop where
  rules : RulesOk l.sys
  tbl : l.sys.app.natTableHdl ≠ 0 → l.sys.ipa.publicIp = l.sys.app.pubIpAddr
  addr : ∀ k < l.sys.app.maxEntries, (l.sys.app.cache k).enabled = true →
    l.addr k = l.sys.app.pubIpAddr

/-- What is known of a slot that was in use stays known. -/
lemma NatOp.LearnStep.addr_of_used (h : op.LearnStep l l') (hused : (l.sys.app.cache k).conn ≠ {}) :
    l'.addr k = l.addr k := by
  rw [h.2, if_neg hused]

/-- **A call that installs entries of the address of the table only** keeps the invariant. -/
theorem CurrentOk.step (H : CurrentOk l) (h : op.CurrentStep l l') : CurrentOk l' := by
  obtain ⟨hclean, hcur, hstep⟩ := h
  have HR : RulesOk l'.sys := H.rules.step ⟨hclean, hstep.1⟩
  by_cases h0 : l'.sys.app.natTableHdl = 0
  · refine ⟨HR, fun h => absurd h0 h, fun k hk hon => ?_⟩
    rw [HR.off_of_no_tbl h0 k hk] at hon
    simp at hon
  have hmax := NatOp.step_maxEntries hstep.1
  -- a slot that was enabled was in use
  have hused : ∀ k < l.sys.app.maxEntries, (l.sys.app.cache k).enabled = true →
      (l.sys.app.cache k).conn ≠ {} := fun k hk hon hfree => by
    rw [H.rules.off k hk hfree] at hon
    simp at hon
  by_cases hadd : ∃ pubIp, op = .addTable pubIp
  · obtain ⟨pubIp, rfl⟩ := hadd
    have hs : (l.sys.addTable pubIp).2 = l'.sys := hstep.1
    obtain ⟨h1, h2⟩ := NatSys.addTable_addresses pubIp hclean (by rw [hs]; exact h0)
    rw [hs] at h1 h2
    refine ⟨HR, fun _ => h2.trans h1.symm, fun k hk hon => ?_⟩
    rcases NatOp.Step.origin hstep.1 hon with h | ⟨-, h⟩ | ⟨p, hp, hpre, hu⟩ | ⟨ip, hip, -⟩
    · rw [H.rules.off_of_no_tbl hclean k (hmax ▸ hk)] at h
      simp at h
    · exact absurd h id
    · obtain rfl : pubIp = p := by simpa using hp
      rw [hstep.addr_of_used hu, h1]
      exact hcur hpre k (hmax ▸ hk) hu
    · simp at hip
  by_cases hdel : ∃ pubIp, op = .deleteTable pubIp
  · obtain ⟨pubIp, rfl⟩ := hdel
    have hs : (l.sys.deleteTable pubIp).2 = l'.sys := hstep.1
    rcases l.sys.deleteTable_cases pubIp with ⟨rep, h⟩ | h
    · rw [hs] at h
      refine ⟨HR, ?_, fun k hk hon => ?_⟩
      · rw [h] at h0 ⊢
        exact H.tbl
      · rw [h] at hk hon ⊢
        rw [hstep.addr_of_used (hused k hk hon)]
        exact H.addr k hk hon
    · rw [hs] at h
      exact absurd h h0
  obtain ⟨h1, h2, h3⟩ := NatOp.Step.addresses hstep.1 fun p =>
    ⟨fun e => hadd ⟨p, e⟩, fun e => hdel ⟨p, e⟩⟩
  rw [h2] at h0
  refine ⟨HR, fun _ => by rw [h1, h3]; exact H.tbl h0, fun k hk hon => ?_⟩
  rw [hmax] at hk
  rw [h1]
  rcases NatOp.Step.origin hstep.1 hon with h | ⟨hfree, hfills⟩ | ⟨p, hp, -⟩ | ⟨ip, rfl, hip, hu⟩
  · rw [hstep.addr_of_used (hused k hk h)]
    exact H.addr k hk h
  · rw [hstep.2, if_pos hfree]
    cases op with
    | addEntry rule => exact hcur
    | flushTempEntries ip isAdd isDummy => rfl
    | cacheEntry rule => exact absurd hfills (by simp [NatOp.Fills])
    | _ => exact absurd hfills id
  · exact absurd ⟨p, hp⟩ hadd
  · rw [hstep.addr_of_used hu]
    by_cases hen : (l.sys.app.cache k).enabled = true
    · exact H.addr k hk hen
    · exact hcur h0 k hk hip (by simpa using hen)

end Lemmas

/-- **No stale translation**: each rule of the table stems from a connection that was learned under
the public address of the table, in every run whose calls install entries of that address only. -/
theorem rules_current {l l' : Learned} {ops : List NatOp} (h0 : l.sys.Init)
    (hr : Run NatOp.CurrentStep l ops l') :
    ∀ r ∈ l'.sys.ipa.rules, ∃ k < l'.sys.app.maxEntries, (l'.sys.app.cache k).enabled = true ∧
      (l'.sys.app.cache k).ruleHdl = r.1 ∧ l'.addr k = l'.sys.ipa.publicIp := by
  have hinit : CurrentOk l := by
    have hR := RulesOk.init h0
    obtain ⟨n, alg, pre, pwr, rep, h⟩ := h0
    refine ⟨hR, fun hne => ?_, fun k _ hon => ?_⟩
    · rw [h] at hne
      exact absurd rfl hne
    · rw [h] at hon
      simp [NatSys.init] at hon
  have H := hr.invariant (fun _ _ _ h hst => h.step hst) hinit
  intro r hmem
  obtain ⟨k, hk, hon, hhdl⟩ := H.rules.owner r hmem
  refine ⟨k, hk, hon, hhdl, ?_⟩
  rw [H.addr k hk hon, H.tbl fun h => ?_]
  rw [H.rules.no_tbl (H.rules.tbl.symm.trans h)] at hmem
  simp at hmem

/-- Make a call and follow the history. -/
def Learned.call (l : Learned) (op : NatOp) : Learned where
  sys := (op.call l.sys).2
  addr k := if (l.sys.app.cache k).conn = {} then op.learnedUnder l.sys else l.addr k

lemma Learned.call_step (l : Learned) (op : NatOp) : op.LearnStep l (l.call op) :=
  ⟨rfl, fun _ => rfl⟩

lemma Learned.run_foldl (l : Learned) (ops : List NatOp) :
    Run NatOp.LearnStep l ops (ops.foldl Learned.call l) := by
  induction ops generalizing l with
  | nil => exact .nil l
  | cons op ops ih => exact .cons (l.call_step op) (ih _)

/-- A connection of address 1, in the table of that address. -/
theorem rules_current_one : ∃ l', Run NatOp.CurrentStep ⟨twoSlots [], fun _ => 0⟩
    [.addTable 1, .addEntry { tcpRule 10 20 with publicIp := 1 }] l' ∧
    ∀ r ∈ l'.sys.ipa.rules, ∃ k < l'.sys.app.maxEntries, (l'.sys.app.cache k).enabled = true ∧
      (l'.sys.app.cache k).ruleHdl = r.1 ∧ l'.addr k = l'.sys.ipa.publicIp := by
  have hr : Run NatOp.CurrentStep ⟨twoSlots [], fun _ => 0⟩
      [.addTable 1, .addEntry { tcpRule 10 20 with publicIp := 1 }] _ :=
    .cons ⟨rfl, fun h => absurd h (by decide), Learned.call_step _ _⟩
      (.cons ⟨trivial, rfl, Learned.call_step _ _⟩ (.nil _))
  exact ⟨_, hr, rules_current (twoSlots_init []) hr⟩

/-- A connection of address 1 goes into the table of address 2 when its client leaves power save. -/
theorem rules_stale : ∃ l ops l', NatSys.Init l.sys ∧ Run NatOp.LearnStep l ops l' ∧
    ¬ ∀ r ∈ l'.sys.ipa.rules, ∃ k < l'.sys.app.maxEntries, (l'.sys.app.cache k).enabled = true ∧
      (l'.sys.app.cache k).ruleHdl = r.1 ∧ l'.addr k = l'.sys.ipa.publicIp := by
  refine ⟨⟨twoSlots [], fun _ => 0⟩, _, _, twoSlots_init [], Learned.run_foldl _
    [.addTable 1, .addEntry { tcpRule 10 20 with publicIp := 1 }, .deleteTable 1, .addTable 2,
      .resetPwrSaveIf 10], ?_⟩
  decide +kernel

end Ipacm
