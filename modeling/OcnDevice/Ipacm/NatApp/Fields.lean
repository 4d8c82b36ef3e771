import OcnDevice.Ipacm.NatApp.Rules

/-!
# The fields of a cached connection

A slot is filled by `AddEntry` or by `CacheEntry`, field by field, and from then on the calls write
only whether and how its rule is installed.  So what a slot says of its connection is what it was
filled with (`NatMove.slot_cases`, `NatOp.KeptStep.fields`).

Of the two only `CacheEntry` writes `public_ip`.  A free slot has none (`FreeClean`), so a slot that
`AddEntry` filled has the public address zero, whatever the rule says.
-/

namespace Ipacm

/-- What an entry says of its connection, without whether and how its rule is installed. -/
def NatTableEntry.fields (e : NatTableEntry) : NatTableEntry :=
  { e with timestamp := 0, enabled := false, ruleHdl := 0 }

/-- **The call fills slot `k` for the rule.**  `FlushTempEntries` calls `AddEntry` for temporary
entry `cnt`, or its dummy, in the state that the passes before have left. -/
inductive NatOp.Creates (s : NatSys) (k : ℕ) : NatTableEntry → NatOp → Prop
  | addEntry {rule : NatTableEntry} (hfree : (s.app.cache k).conn = {})
      (hin : ((s.addEntry rule).2.app.cache k).conn ≠ {}) : Creates s k rule (.addEntry rule)
  | cacheEntry {rule : NatTableEntry} (hfree : (s.app.cache k).conn = {})
      (hin : ((s.cacheEntry rule).app.cache k).conn ≠ {}) : Creates s k rule (.cacheEntry rule)
  | flush {ip : UInt32} {isAdd isDummy : Bool} {cnt : ℕ} {t : NatSys} (hcnt : cnt < maxTempEntries)
      (ht : t = forUpTo cnt (NatSys.flushEntry ip isAdd isDummy) s)
      (hfree : (t.app.cache k).conn = {})
      (hin : ((t.flushEntry ip isAdd isDummy cnt).app.cache k).conn ≠ {}) :
      Creates s k
        (if isDummy then NatSys.dummyOf (t.app.temp cnt) else t.app.temp cnt)
        (.flushTempEntries ip isAdd isDummy)

/-- A call behind which slot `k` is in use. -/
def NatOp.KeptStep (k : ℕ) (s : NatSys) (op : NatOp) (s' : NatSys) : Prop :=
  op.Step s s' ∧ (s'.app.cache k).conn ≠ {}

/-- A free slot has no public address. -/
def FreeClean (a : NatApp) : Prop := ∀ k, (a.cache k).conn = {} → (a.cache k).publicIp = 0

namespace NatSys

/-! ## Passes of a flush -/

/-- The dummy rule takes the place of temporary entry `cnt`. -/
def makeDummy (s : NatSys) (cnt : ℕ) : NatSys :=
  { s with app := s.app.setTemp cnt (dummyOf (s.app.temp cnt)) }

/-- Add temporary entry `cnt` to the cache; it is cleared if this succeeds. -/
def flushAdd (s : NatSys) (cnt : ℕ) : NatSys :=
  if (s.addEntry (s.app.temp cnt)).1 ≠ 0 then (s.addEntry (s.app.temp cnt)).2
  else
    { (s.addEntry (s.app.temp cnt)).2 with
      app := (s.addEntry (s.app.temp cnt)).2.app.setTemp cnt {} }

/-- A pass of `FlushTempEntries` in terms of these. -/
lemma flushEntry_eq (s : NatSys) (ip : UInt32) (isAdd isDummy : Bool) (cnt : ℕ) :
    s.flushEntry ip isAdd isDummy cnt =
      if (s.app.temp cnt).privateIp = ip ∨ (s.app.temp cnt).targetIp = ip then
        if isAdd ∧ (s.app.temp cnt).publicIp = s.app.pubIpAddr then
          (if isDummy then s.makeDummy cnt else s).flushAdd cnt
        else { s with app := s.app.setTemp cnt {} }
      else s := rfl

@[simp] lemma makeDummy_temp (s : NatSys) (cnt : ℕ) :
    (s.makeDummy cnt).app.temp cnt = dummyOf (s.app.temp cnt) := Function.update_self _ _ _

lemma flushAdd_cache (s : NatSys) (cnt : ℕ) :
    (s.flushAdd cnt).app.cache = (s.addEntry (s.app.temp cnt)).2.app.cache := by
  unfold flushAdd
  split_ifs <;> rfl

end NatSys

section Lemmas

variable {s s' t u : NatSys} {op : NatOp} {k : ℕ} {rule e e' : NatTableEntry} {a : NatApp}

/-! ## Moves -/

lemma NatTableEntry.conn_eq_of_fields (h : e.fields = e'.fields) : e.conn = e'.conn := by
  have hconn : ∀ e : NatTableEntry, e.fields.conn = e.conn := fun _ => rfl
  rw [← hconn, h, hconn]

lemma NatTableEntry.natRule_eq_of_fields (h : e.fields = e'.fields) : e.natRule = e'.natRule := by
  have hrule : ∀ e : NatTableEntry, e.fields.natRule = e.natRule := fun _ => rfl
  rw [← hrule, h, hrule]

lemma NatTableEntry.publicIp_eq_of_fields (h : e.fields = e'.fields) :
    e.publicIp = e'.publicIp := by
  have hip : ∀ e : NatTableEntry, e.fields.publicIp = e.publicIp := fun _ => rfl
  rw [← hip, h, hip]

/-- A slot that is rewritten with the same fields. -/
lemma NatApp.setSlot_fields {j : ℕ} (h : e.fields = (a.cache j).fields) :
    ((a.setSlot j e).cache k).fields = (a.cache k).fields := by
  by_cases hkj : k = j
  · rw [hkj, NatApp.setSlot_cache_self]
    exact h
  · rw [NatApp.setSlot_cache_of_ne hkj]

lemma NatApp.reset_fields (a : NatApp) (k : ℕ) :
    (a.reset.cache k).fields = (a.cache k).fields := by
  by_cases hk : k < a.maxEntries
  · rw [NatApp.reset_cache hk]
    rfl
  · rw [show a.reset.cache k = a.cache k from if_neg hk]

/-- **What a move does to a slot**: it keeps its fields, or it fills the slot, or it clears it. -/
theorem NatMove.slot_cases (h : NatMove op t u) (k : ℕ) :
    (u.app.cache k).fields = (t.app.cache k).fields ∨
      ((∃ b, op.Fills b) ∧ (t.app.cache k).conn = {} ∧ (u.app.cache k).conn.Full) ∨
      (op.Forgets t k ∧ u.app.cache k = {}) := by
  have hfill : ∀ {j e} (b : Bool), op.Fills b → (t.app.cache j).conn = {} → e.conn.Full →
      ((t.app.fill j e).cache k).fields = (t.app.cache k).fields ∨
        ((∃ b, op.Fills b) ∧ (t.app.cache k).conn = {} ∧ ((t.app.fill j e).cache k).conn.Full) ∨
        (op.Forgets t k ∧ (t.app.fill j e).cache k = {}) := fun {j e} b hb hfree hfull => by
    by_cases hkj : k = j
    · subst hkj
      rw [NatApp.fill_cache_self]
      exact Or.inr (Or.inl ⟨⟨b, hb⟩, hfree, hfull⟩)
    · rw [NatApp.fill_cache_of_ne hkj]
      exact Or.inl rfl
  have hwipe : ∀ {j}, op.Forgets t j →
      ((t.app.wipe j).cache k).fields = (t.app.cache k).fields ∨
        ((∃ b, op.Fills b) ∧ (t.app.cache k).conn = {} ∧ ((t.app.wipe j).cache k).conn.Full) ∨
        (op.Forgets t k ∧ (t.app.wipe j).cache k = {}) := fun {j} hf => by
    by_cases hkj : k = j
    · subst hkj
      exact Or.inr (Or.inr ⟨hf, NatApp.wipe_cache_self⟩)
    · rw [NatApp.wipe_cache_of_ne hkj]
      exact Or.inl rfl
  cases h with
  | quiet _ _ | save _ _ _ _ | unsave _ _ _ | openTbl _ _ | openFail _ | name _ _ =>
      exact Or.inl rfl
  | fill hop _ hfree hfull _ _ => exact hfill false hop hfree hfull
  | install hop _ hfree hfull _ _ _ _ _ _ _ => exact hfill true hop hfree hfull
  | forget hop _ _ => exact hwipe hop
  | remove hop _ _ _ => exact hwipe hop
  | leak hop _ _ _ => exact hwipe hop
  | enable _ _ _ _ _ _ => exact Or.inl (NatApp.setSlot_fields rfl)
  | disable _ _ _ _ => exact Or.inl (NatApp.setSlot_fields rfl)
  | stamp _ _ => exact Or.inl (NatApp.setSlot_fields rfl)
  | close _ _ _ _ =>
      exact Or.inl (NatApp.reset_fields { t.app with pubIpAddrPre := t.app.pubIpAddr } k)

/-- Each move keeps the free slots clean. -/
lemma FreeClean.move (H : FreeClean t.app) (h : NatMove op t u) : FreeClean u.app := by
  intro k hfree
  rcases h.slot_cases k with h | ⟨-, -, hfull⟩ | ⟨-, h⟩
  · rw [NatTableEntry.conn_eq_of_fields h] at hfree
    rw [NatTableEntry.publicIp_eq_of_fields h]
    exact H k hfree
  · exact absurd hfree hfull.ne_empty
  · rw [h]

lemma FreeClean.step (H : FreeClean s.app) (h : op.Step s s') : FreeClean s'.app := by
  obtain rfl := h
  exact NatOp.preserves (P := fun t => FreeClean t.app) H fun _ _ ht hmove => ht.move hmove

lemma FreeClean.init (h : s.Init) : FreeClean s.app := by
  obtain ⟨n, alg, pre, pwr, rep, rfl⟩ := h
  exact fun _ _ => rfl

/-- A call that fills slots forgets none. -/
lemma NatOp.Fills.not_forgets {b : Bool} (h : op.Fills b) (k : ℕ) : ¬ op.Forgets s k := by
  cases op with
  | addEntry _ | cacheEntry _ | flushTempEntries _ _ _ => exact id
  | _ => exact absurd h id

/-- **A call that does not delete a connection keeps its fields.** -/
lemma NatOp.KeptStep.fields (h : op.KeptStep k s s') (hused : (s.app.cache k).conn ≠ {}) :
    (s'.app.cache k).fields = (s.app.cache k).fields := by
  obtain ⟨rfl, hkept⟩ := h
  -- a slot that the call has cleared it does not fill again
  have H := (NatOp.moves s op).preserves
    (P := fun t => (t.app.cache k).fields = (s.app.cache k).fields ∨
      ((t.app.cache k).conn = {} ∧ ∀ b, ¬ op.Fills b)) (Or.inl rfl) fun t u ht hm => by
    rcases ht with ht | ⟨hfree, hno⟩
    · rcases hm.slot_cases k with h | ⟨-, hfree, -⟩ | ⟨hf, h⟩
      · exact Or.inl (h.trans ht)
      · rw [NatTableEntry.conn_eq_of_fields ht] at hfree
        exact absurd hfree hused
      · exact Or.inr ⟨by rw [h]; rfl, fun b hb => hb.not_forgets k hf⟩
    · rcases hm.slot_cases k with h | ⟨⟨b, hb⟩, -, -⟩ | ⟨-, h⟩
      · exact Or.inr ⟨(NatTableEntry.conn_eq_of_fields h).trans hfree, hno⟩
      · exact absurd hb (hno b)
      · exact Or.inr ⟨by rw [h]; rfl, hno⟩
  exact H.resolve_right fun h => hkept h.1

/-! ## The slot that is filled -/

/-- What `AddEntry` writes to the slot that it fills. -/
lemma NatSys.addEntry_fields (hfree : (s.app.cache k).conn = {})
    (hin : ((s.addEntry rule).2.app.cache k).conn ≠ {}) :
    ((s.addEntry rule).2.app.cache k).fields =
      { rule with publicIp := (s.app.cache k).publicIp }.fields := by
  have hfill : ∀ {j on hdl}, ((s.app.fill j (entryOf rule (s.app.cache j) on hdl)).cache k).conn ≠ {} →
      ((s.app.fill j (entryOf rule (s.app.cache j) on hdl)).cache k).fields =
        { rule with publicIp := (s.app.cache k).publicIp }.fields := fun {j on hdl} h => by
    by_cases hkj : k = j
    · subst hkj
      rw [NatApp.fill_cache_self]
      rfl
    · rw [NatApp.fill_cache_of_ne hkj] at h
      exact absurd hfree h
  rcases s.addEntry_cases rule with h | ⟨-, h⟩ | ⟨-, -, -, j, -, -, h⟩
  · rw [h] at hin
    exact absurd hfree hin
  · rw [h] at hin
    exact absurd hfree hin
  · rw [h] at hin ⊢
    by_cases hsave : s.app.isPwrSaveIf rule.privateIp ∨ s.app.isPwrSaveIf rule.targetIp
    · rw [if_pos hsave] at hin ⊢
      exact hfill hin
    · rw [if_neg hsave] at hin ⊢
      rcases s.ipa.ipaNatAddIpv4Rule_cases s.app.natTableHdl rule.natRule with
        ⟨rep, h⟩ | ⟨-, -, hdl, rep, -, -, h⟩
      · rw [h] at hin
        exact absurd hfree hin
      · rw [h] at hin ⊢
        exact hfill hin

/-- What `CacheEntry` writes to the slot that it fills. -/
lemma NatSys.cacheEntry_fields (hfree : (s.app.cache k).conn = {})
    (hin : ((s.cacheEntry rule).app.cache k).conn ≠ {}) :
    ((s.cacheEntry rule).app.cache k).fields = rule.fields := by
  unfold NatSys.cacheEntry at hin ⊢
  by_cases hfull : rule.conn.Full
  · rw [if_neg (not_not.mpr hfull)] at hin ⊢
    by_cases hdup : s.app.chkForDup rule = true
    · rw [if_pos hdup] at hin
      exact absurd hfree hin
    · rw [if_neg hdup] at hin ⊢
      cases hslot : s.app.freeSlot with
      | none =>
          rw [hslot] at hin
          exact absurd hfree hin
      | some j =>
          simp only [hslot] at hin ⊢
          by_cases hkj : k = j
          · subst hkj
            rw [NatApp.fill_cache_self]
            rfl
          · rw [NatApp.fill_cache_of_ne hkj] at hin
            exact absurd hfree hin
  · rw [if_pos hfull] at hin
    exact absurd hfree hin

/-- What a pass of `FlushTempEntries` writes to the slot that it fills. -/
lemma NatSys.flushEntry_fields {ip : UInt32} {isAdd isDummy : Bool} {cnt : ℕ}
    (hfree : (s.app.cache k).conn = {})
    (hin : ((s.flushEntry ip isAdd isDummy cnt).app.cache k).conn ≠ {}) :
    ((s.flushEntry ip isAdd isDummy cnt).app.cache k).fields =
      { (if isDummy then NatSys.dummyOf (s.app.temp cnt) else s.app.temp cnt) with
        publicIp := (s.app.cache k).publicIp }.fields := by
  rw [s.flushEntry_eq] at hin ⊢
  by_cases htouch : (s.app.temp cnt).privateIp = ip ∨ (s.app.temp cnt).targetIp = ip
  · rw [if_pos htouch] at hin ⊢
    by_cases hadd : isAdd = true ∧ (s.app.temp cnt).publicIp = s.app.pubIpAddr
    · rw [if_pos hadd, flushAdd_cache] at hin ⊢
      cases isDummy with
      | false => exact addEntry_fields hfree hin
      | true =>
          simp only [reduceIte, makeDummy_temp] at hin ⊢
          exact addEntry_fields (s := s.makeDummy cnt) hfree hin
    · rw [if_neg hadd] at hin
      exact absurd hfree hin
  · rw [if_neg htouch] at hin
    exact absurd hfree hin

/-- The passes of a flush behind the one that filled the slot keep its fields. -/
lemma NatSys.flushEntry_kept (ip : UInt32) (isAdd isDummy : Bool) (cnt : ℕ)
    (hused : (s.app.cache k).conn ≠ {}) :
    ((s.flushEntry ip isAdd isDummy cnt).app.cache k).fields = (s.app.cache k).fields := by
  refine (s.flushEntry_moves ip isAdd isDummy cnt).preserves
    (P := fun t => (t.app.cache k).fields = (s.app.cache k).fields) rfl fun t u ih hm => ?_
  rcases hm.slot_cases k with h | ⟨-, hfree, -⟩ | ⟨hf, -⟩
  · exact h.trans ih
  · rw [NatTableEntry.conn_eq_of_fields ih] at hfree
    exact absurd hfree hused
  · exact absurd hf id

/-- **What a call writes to the slot that it fills.** -/
lemma NatOp.Creates.fields (h : op.Creates s k rule) (hclean : FreeClean s.app) :
    ((op.call s).2.app.cache k).conn ≠ {} ∧ ((op.call s).2.app.cache k).fields =
      { rule with publicIp := if op = NatOp.cacheEntry rule then rule.publicIp else 0 }.fields := by
  cases h with
  | addEntry hfree hin =>
      have h := NatSys.addEntry_fields hfree hin
      rw [hclean k hfree] at h
      exact ⟨hin, h⟩
  | cacheEntry hfree hin =>
      rw [if_pos rfl]
      exact ⟨hin, NatSys.cacheEntry_fields hfree hin⟩
  | @flush ip isAdd isDummy cnt t hcnt ht hfree hin =>
      have htclean : FreeClean t.app := by
        rw [ht]
        exact forUpTo_preserves (P := fun t : NatSys => FreeClean t.app) hclean fun i u _ hu =>
          (u.flushEntry_moves ip isAdd isDummy i).preserves (P := fun t => FreeClean t.app) hu
            fun _ _ ht hm => ht.move hm
      have hpass := NatSys.flushEntry_fields hfree hin
      rw [htclean k hfree] at hpass
      have H := forUpTo_invariant_from (n := maxTempEntries) (m := cnt + 1)
        (f := NatSys.flushEntry ip isAdd isDummy) (s := s)
        (P := fun _ (u : NatSys) => (u.app.cache k).conn ≠ {} ∧ (u.app.cache k).fields =
          ((t.flushEntry ip isAdd isDummy cnt).app.cache k).fields)
        hcnt (by rw [forUpTo, ← ht]; exact ⟨hin, rfl⟩) fun i u _ _ hu => by
          have hkept := NatSys.flushEntry_kept ip isAdd isDummy i hu.1
          exact ⟨(NatTableEntry.conn_eq_of_fields hkept) ▸ hu.1, hkept.trans hu.2⟩
      simp only [NatOp.call, NatSys.flushTempEntries, reduceCtorEq, if_false]
      exact ⟨H.1, H.2.trans hpass⟩

end Lemmas

/-- **A cached connection keeps the fields of its rule** for as long as no call deletes it, if and
only if `CacheEntry` filled its slot, or the rule has no public address. -/
theorem cached_fields {s₀ s s₁ s₂ : NatSys} {ops₀ ops : List NatOp} {op : NatOp} {k : ℕ}
    {rule : NatTableEntry} (h0 : s₀.Init) (hr₀ : Run NatOp.Step s₀ ops₀ s)
    (hop : op.Creates s k rule) (hst : op.Step s s₁) (hr : Run (NatOp.KeptStep k) s₁ ops s₂) :
    (s₂.app.cache k).fields = rule.fields ↔ op = .cacheEntry rule ∨ rule.publicIp = 0 := by
  have hclean : FreeClean s.app :=
    hr₀.invariant (P := fun t => FreeClean t.app) (fun _ _ _ h hst => h.step hst) (.init h0)
  obtain ⟨hused, hfields⟩ := hop.fields hclean
  rw [show (op.call s).2 = s₁ from hst] at hused hfields
  have hkept := (hr.invariant (P := fun t => (t.app.cache k).conn ≠ {} ∧
    (t.app.cache k).fields = (s₁.app.cache k).fields)
    (fun t op u ht hst => ⟨hst.2, (hst.fields ht.1).trans ht.2⟩) ⟨hused, rfl⟩).2
  rw [hkept, hfields]
  by_cases hcache : op = .cacheEntry rule
  · simp [hcache]
  · rw [if_neg hcache]
    constructor
    · intro h
      exact Or.inr (congrArg NatTableEntry.publicIp h).symm
    · intro h
      rw [← h.resolve_left hcache]

/-- A connection that is cached without a table and installed by the table that comes. -/
theorem cached_fields_restored :
    (((twoSlots []).callAll [.cacheEntry { tcpRule 10 20 with publicIp := 1 }, .addTable 0]).app.cache
      0).fields = { tcpRule 10 20 with publicIp := 1 }.fields := by
  have hop : NatOp.Creates (twoSlots []) 0 { tcpRule 10 20 with publicIp := 1 }
      (.cacheEntry { tcpRule 10 20 with publicIp := 1 }) :=
    .cacheEntry (by decide +kernel) (by decide +kernel)
  have hr : Run (NatOp.KeptStep 0)
      ((twoSlots []).cacheEntry { tcpRule 10 20 with publicIp := 1 }) [.addTable 0] _ :=
    .cons ⟨rfl, by decide +kernel⟩ (.nil _)
  exact (cached_fields (twoSlots_init []) (.nil _) hop rfl hr).mpr (Or.inl rfl)

/-- A dummy rule, whose private address is the public one, is given to `AddEntry`: the slot has the
public address zero, and `UpdateUDPTimeStamp` takes its connection for one with a client. -/
theorem cached_fields_lost : ∃ s₀ s s₁ ops₀ rule k, NatSys.Init s₀ ∧ Run NatOp.Step s₀ ops₀ s ∧
    NatOp.Creates s k rule (.addEntry rule) ∧ NatOp.Step s (.addEntry rule) s₁ ∧
    (s₁.app.cache k).fields ≠ rule.fields ∧ rule.privateIp = rule.publicIp ∧
    (s₁.app.cache k).privateIp ≠ (s₁.app.cache k).publicIp := by
  refine ⟨_, (twoSlots []).callAll [.addTable 1], _, _, { tcpRule 1 20 with publicIp := 1 }, 0,
    twoSlots_init [], NatSys.run_callAll _ _, .addEntry ?_ ?_, rfl, ?_, rfl, ?_⟩ <;>
  decide +kernel

end Ipacm
