import OcnDevice.Ipacm.NatApp.Moves

/-!
# The cache is a set of connections

Whether a slot of the cache is in use shows in its five fields only, and `curCnt` is counted up and
down by hand.  `CacheOk` says that all of this fits together: the five fields of a slot are all zero
or all not, no two slots hold the same connection, a free slot is not enabled, and `curCnt` is the
number of slots in use.
-/

namespace Ipacm

/-- The slots in use. -/
def NatApp.used (a : NatApp) : Finset ℕ :=
  (Finset.range a.maxEntries).filter fun k => (a.cache k).conn ≠ {}

/-- What the slots hold. -/
structure SlotsOk (a : NatApp) : Prop where
  full : ∀ k < a.maxEntries, (a.cache k).conn ≠ {} → (a.cache k).conn.Full
  off : ∀ k < a.maxEntries, (a.cache k).conn = {} → (a.cache k).enabled = false
  distinct : ∀ j < a.maxEntries, ∀ k < a.maxEntries, (a.cache j).conn ≠ {} →
    (a.cache j).conn = (a.cache k).conn → j = k

/-- **The invariant of the cache.** -/
structure CacheOk (a : NatApp) : Prop extends SlotsOk a where
  cnt : a.curCnt = a.used.card

/-- The rule of a TCP or UDP connection. -/
def NatTableEntry.TcpUdp (e : NatTableEntry) : Prop := e.protocol = 6 ∨ e.protocol = 17

/-- The rule that is given to the call, if any, is one of a TCP or UDP connection. -/
def NatOp.TcpUdp : NatOp → Prop
  | .addEntry rule | .deleteEntry rule | .cacheEntry rule | .addTempEntry rule
  | .deleteTempEntry rule => rule.TcpUdp
  | _ => True

/-- A call with TCP and UDP rules. -/
def NatOp.TcpUdpStep (s : NatSys) (op : NatOp) (s' : NatSys) : Prop := op.TcpUdp ∧ op.Step s s'

section Lemmas

variable {a a' : NatApp} {s s' : NatSys} {op : NatOp} {k : ℕ} {e : NatTableEntry}

lemma NatApp.mem_used : k ∈ a.used ↔ k < a.maxEntries ∧ (a.cache k).conn ≠ {} := by
  simp [NatApp.used]

lemma Conn.Full.ne_empty {c : Conn} (h : c.Full) : c ≠ {} := by
  rintro rfl
  exact h.1 rfl

@[simp] lemma NatApp.setSlot_cache_self : (a.setSlot k e).cache k = e :=
  Function.update_self _ _ _

lemma NatApp.setSlot_cache_of_ne {j : ℕ} (h : j ≠ k) : (a.setSlot k e).cache j = a.cache j :=
  Function.update_of_ne h _ _

@[simp] lemma NatApp.fill_cache_self : (a.fill k e).cache k = e := Function.update_self _ _ _

lemma NatApp.fill_cache_of_ne {j : ℕ} (h : j ≠ k) : (a.fill k e).cache j = a.cache j :=
  Function.update_of_ne h _ _

@[simp] lemma NatApp.wipe_cache_self : (a.wipe k).cache k = {} := Function.update_self _ _ _

lemma NatApp.wipe_cache_of_ne {j : ℕ} (h : j ≠ k) : (a.wipe k).cache j = a.cache j :=
  Function.update_of_ne h _ _

lemma NatApp.reset_cache (h : k < a.maxEntries) :
    a.reset.cache k = { a.cache k with enabled := false } :=
  if_pos h

/-- A change that leaves the connections where they are, and enables slots in use only. -/
lemma SlotsOk.retag (H : SlotsOk a) (hmax : a'.maxEntries = a.maxEntries)
    (hconn : ∀ k < a.maxEntries, (a'.cache k).conn = (a.cache k).conn)
    (hon : ∀ k < a.maxEntries, (a'.cache k).enabled = true →
      (a.cache k).enabled = true ∨ (a.cache k).conn ≠ {}) : SlotsOk a' := by
  refine ⟨fun k hk h0 => ?_, fun k hk h0 => ?_, fun j hj k hk h0 h => ?_⟩
  · rw [hmax] at hk
    rw [hconn k hk] at h0 ⊢
    exact H.full k hk h0
  · rw [hmax] at hk
    rw [hconn k hk] at h0
    by_contra hne
    rcases hon k hk (by simpa using hne) with h | h
    · rw [H.off k hk h0] at h
      simp at h
    · exact h h0
  · rw [hmax] at hj hk
    rw [hconn j hj] at h0 h
    rw [hconn k hk] at h
    exact H.distinct j hj k hk h0 h

lemma CacheOk.retag (H : CacheOk a) (hmax : a'.maxEntries = a.maxEntries)
    (hcnt : a'.curCnt = a.curCnt)
    (hconn : ∀ k < a.maxEntries, (a'.cache k).conn = (a.cache k).conn)
    (hon : ∀ k < a.maxEntries, (a'.cache k).enabled = true →
      (a.cache k).enabled = true ∨ (a.cache k).conn ≠ {}) : CacheOk a' := by
  refine ⟨H.toSlotsOk.retag hmax hconn hon, ?_⟩
  have hused : a'.used = a.used := by
    ext k
    rw [NatApp.mem_used, NatApp.mem_used, hmax]
    exact and_congr_right fun hk => by rw [hconn k hk]
  rw [hcnt, H.cnt, hused]

/-- A slot that is rewritten keeps its connection. -/
lemma NatApp.rewrite_slots (hconn : e.conn = (a.cache k).conn)
    (hon : e.enabled = true → (a.cache k).enabled = true ∨ (a.cache k).conn ≠ {}) (j : ℕ) :
    ((a.setSlot k e).cache j).conn = (a.cache j).conn ∧
      (((a.setSlot k e).cache j).enabled = true →
        (a.cache j).enabled = true ∨ (a.cache j).conn ≠ {}) := by
  by_cases hj : j = k
  · rw [hj, NatApp.setSlot_cache_self]
    exact ⟨hconn, hon⟩
  · rw [NatApp.setSlot_cache_of_ne hj]
    exact ⟨rfl, Or.inl⟩

lemma SlotsOk.rewrite (H : SlotsOk a) (hconn : e.conn = (a.cache k).conn)
    (hon : e.enabled = true → (a.cache k).enabled = true ∨ (a.cache k).conn ≠ {}) :
    SlotsOk (a.setSlot k e) :=
  H.retag rfl (fun j _ => (NatApp.rewrite_slots hconn hon j).1)
    fun j _ => (NatApp.rewrite_slots hconn hon j).2

lemma CacheOk.rewrite (H : CacheOk a) (hconn : e.conn = (a.cache k).conn)
    (hon : e.enabled = true → (a.cache k).enabled = true ∨ (a.cache k).conn ≠ {}) :
    CacheOk (a.setSlot k e) :=
  H.retag rfl rfl (fun j _ => (NatApp.rewrite_slots hconn hon j).1)
    fun j _ => (NatApp.rewrite_slots hconn hon j).2

/-- **Filling a free slot.** -/
lemma SlotsOk.fill (H : SlotsOk a) (hfull : e.conn.Full)
    (hdup : ∀ j < a.maxEntries, (a.cache j).conn ≠ e.conn) : SlotsOk (a.fill k e) := by
  have hself : (a.fill k e).cache k = e := NatApp.fill_cache_self
  have hother : ∀ j, j ≠ k → (a.fill k e).cache j = a.cache j := fun j => NatApp.fill_cache_of_ne
  refine ⟨fun j hj h0 => ?_, fun j hj h0 => ?_, fun i hi j hj h0 h => ?_⟩
  · by_cases hjk : j = k
    · rw [hjk, hself]
      exact hfull
    · rw [hother j hjk] at h0 ⊢
      exact H.full j hj h0
  · by_cases hjk : j = k
    · rw [hjk, hself] at h0
      exact absurd h0 hfull.ne_empty
    · rw [hother j hjk] at h0 ⊢
      exact H.off j hj h0
  · by_cases hik : i = k
    · by_cases hjk : j = k
      · rw [hik, hjk]
      · rw [hik, hself, hother j hjk] at h
        exact absurd h.symm (hdup j hj)
    · rw [hother i hik] at h0 h
      by_cases hjk : j = k
      · rw [hjk, hself] at h
        exact absurd h (hdup i hi)
      · rw [hother j hjk] at h
        exact H.distinct i hi j hj h0 h

lemma CacheOk.fill (H : CacheOk a) (hk : k < a.maxEntries) (hfree : (a.cache k).conn = {})
    (hfull : e.conn.Full) (hdup : ∀ j < a.maxEntries, (a.cache j).conn ≠ e.conn) :
    CacheOk (a.fill k e) := by
  refine ⟨H.toSlotsOk.fill hfull hdup, ?_⟩
  have hused : (a.fill k e).used = insert k a.used := by
    ext j
    rw [Finset.mem_insert, NatApp.mem_used, NatApp.mem_used]
    by_cases hjk : j = k
    · rw [hjk, NatApp.fill_cache_self]
      exact ⟨fun _ => Or.inl rfl, fun _ => ⟨hk, hfull.ne_empty⟩⟩
    · rw [NatApp.fill_cache_of_ne hjk]
      exact ⟨Or.inr, fun h => h.resolve_left hjk⟩
  have hnot : k ∉ a.used := fun h => (NatApp.mem_used.mp h).2 hfree
  rw [hused, Finset.card_insert_of_notMem hnot]
  simp only [NatApp.fill, NatApp.setSlot, H.cnt]
  push_cast
  rfl

/-- **Clearing a slot.** -/
lemma SlotsOk.wipe (H : SlotsOk a) : SlotsOk (a.wipe k) := by
  have hself : (a.wipe k).cache k = {} := NatApp.wipe_cache_self
  have hother : ∀ j, j ≠ k → (a.wipe k).cache j = a.cache j := fun j => NatApp.wipe_cache_of_ne
  refine ⟨fun j hj h0 => ?_, fun j hj h0 => ?_, fun i hi j hj h0 h => ?_⟩
  · by_cases hjk : j = k
    · rw [hjk, hself] at h0
      exact absurd rfl h0
    · rw [hother j hjk] at h0 ⊢
      exact H.full j hj h0
  · by_cases hjk : j = k
    · rw [hjk, hself]
    · rw [hother j hjk] at h0 ⊢
      exact H.off j hj h0
  · by_cases hik : i = k
    · rw [hik, hself] at h0
      exact absurd rfl h0
    · rw [hother i hik] at h0 h
      by_cases hjk : j = k
      · rw [hjk, hself] at h
        exact absurd h h0
      · rw [hother j hjk] at h
        exact H.distinct i hi j hj h0 h

lemma CacheOk.wipe (H : CacheOk a) (hk : k < a.maxEntries) (hused : (a.cache k).conn ≠ {}) :
    CacheOk (a.wipe k) := by
  refine ⟨H.toSlotsOk.wipe, ?_⟩
  have hmem : k ∈ a.used := NatApp.mem_used.mpr ⟨hk, hused⟩
  have herase : (a.wipe k).used = a.used.erase k := by
    ext j
    rw [Finset.mem_erase, NatApp.mem_used, NatApp.mem_used]
    by_cases hjk : j = k
    · rw [hjk, NatApp.wipe_cache_self]
      exact ⟨fun h => absurd rfl h.2, fun h => absurd rfl h.1⟩
    · rw [NatApp.wipe_cache_of_ne hjk]
      exact ⟨fun h => ⟨hjk, h⟩, fun h => h.2⟩
  have hpos : 1 ≤ a.used.card := Finset.card_pos.mpr ⟨k, hmem⟩
  rw [herase, Finset.card_erase_of_mem hmem]
  simp only [NatApp.wipe, NatApp.setSlot, H.cnt]
  omega

/-- A table that is deleted. -/
lemma SlotsOk.reset (H : SlotsOk a) : SlotsOk a.reset := by
  refine H.retag rfl (fun k hk => ?_) fun k hk hon => ?_
  · rw [NatApp.reset_cache hk]
    rfl
  · rw [NatApp.reset_cache hk] at hon
    simp at hon

lemma CacheOk.reset (H : CacheOk a) : CacheOk a.reset := by
  refine H.retag rfl rfl (fun k hk => ?_) fun k hk hon => ?_
  · rw [NatApp.reset_cache hk]
    rfl
  · rw [NatApp.reset_cache hk] at hon
    simp at hon

/-- A slot that a call with TCP and UDP rules may clear is in use. -/
lemma NatOp.Forgets.used (h : op.Forgets s k) (htu : op.TcpUdp) : (s.app.cache k).conn ≠ {} := by
  intro h0
  cases op with
  | deleteEntry rule =>
      have hproto : rule.protocol = 0 := congrArg Conn.protocol (h.symm.trans h0)
      rcases htu with h | h <;> rw [hproto] at h <;> simp at h
  | delEntriesOnSTAClntDiscon ip => exact h.1 (h.2.symm.trans (congrArg Conn.targetIp h0))
  | addTable pubIp => exact h.2 (congrArg Conn.privateIp h0)
  | resetPwrSaveIf ip => exact h.1 (h.2.1.symm.trans (congrArg Conn.privateIp h0))
  | _ => exact h

/-- A slot that a call may reinstall is in use. -/
lemma NatOp.Reinstalls.used (h : op.Reinstalls s k) : (s.app.cache k).conn ≠ {} := by
  intro h0
  cases op with
  | addTable pubIp => exact h.2 (congrArg Conn.privateIp h0)
  | resetPwrSaveIf ip => exact h.1 (h.2.1.symm.trans (congrArg Conn.privateIp h0))
  | _ => exact h

/-- Each move keeps the slots well formed, with whatever rules. -/
lemma SlotsOk.move (H : SlotsOk s.app) (h : NatMove op s s') : SlotsOk s'.app := by
  have hsame : ∀ {a' : NatApp}, a'.maxEntries = s.app.maxEntries → a'.cache = s.app.cache →
      SlotsOk a' := fun hmax hcache =>
    H.retag hmax (fun _ _ => by rw [hcache]) fun _ _ hon => Or.inl (by rwa [hcache] at hon)
  cases h with
  | quiet _ _ | save _ _ _ _ | unsave _ _ _ | openTbl _ _ | openFail _ | name _ _ =>
      exact hsame rfl rfl
  | fill _ _ _ hfull hdup _ => exact H.fill hfull hdup
  | install _ _ _ hfull hdup _ _ _ _ _ _ => exact H.fill hfull hdup
  | forget _ _ _ | remove _ _ _ _ | leak _ _ _ _ => exact H.wipe
  | enable hop _ _ _ _ _ => exact H.rewrite rfl fun _ => Or.inr hop.used
  | disable _ _ _ _ => exact H.rewrite rfl fun hon => by simp at hon
  | stamp _ hon => exact H.rewrite rfl fun _ => Or.inl hon
  | close _ _ _ _ =>
      exact SlotsOk.reset (a := { s.app with pubIpAddrPre := s.app.pubIpAddr }) (hsame rfl rfl)

lemma SlotsOk.step (H : SlotsOk s.app) (h : op.Step s s') : SlotsOk s'.app := by
  obtain rfl := h
  exact NatOp.preserves (P := fun t => SlotsOk t.app) H fun _ _ ht hmove => ht.move hmove

/-- **Each move keeps the cache well formed.** -/
lemma CacheOk.move (H : CacheOk s.app) (htu : op.TcpUdp) (h : NatMove op s s') :
    CacheOk s'.app := by
  have hsame : ∀ {a' : NatApp}, a'.maxEntries = s.app.maxEntries → a'.curCnt = s.app.curCnt →
      a'.cache = s.app.cache → CacheOk a' := fun hmax hcnt hcache =>
    H.retag hmax hcnt (fun _ _ => by rw [hcache]) fun _ _ hon => Or.inl (by rwa [hcache] at hon)
  cases h with
  | quiet temp replies => exact hsame rfl rfl rfl
  | save _ _ _ _ => exact hsame rfl rfl rfl
  | unsave _ _ _ => exact hsame rfl rfl rfl
  | fill _ hk hfree hfull hdup _ => exact H.fill hk hfree hfull hdup
  | install _ hk hfree hfull hdup _ _ _ _ _ _ => exact H.fill hk hfree hfull hdup
  | forget hop hk _ => exact H.wipe hk (hop.used htu)
  | remove hop hk _ _ => exact H.wipe hk (hop.used htu)
  | leak hop _ hk _ => exact H.wipe hk (hop.used htu)
  | enable hop _ _ _ _ _ => exact H.rewrite rfl fun _ => Or.inr hop.used
  | disable _ _ _ _ => exact H.rewrite rfl fun hon => by simp at hon
  | stamp _ hon => exact H.rewrite rfl fun _ => Or.inl hon
  | openTbl _ _ => exact hsame rfl rfl rfl
  | openFail _ => exact hsame rfl rfl rfl
  | name _ _ => exact hsame rfl rfl rfl
  | close _ _ _ _ =>
      exact CacheOk.reset (a := { s.app with pubIpAddrPre := s.app.pubIpAddr })
        (hsame rfl rfl rfl)

lemma CacheOk.step (H : CacheOk s.app) (h : op.TcpUdpStep s s') : CacheOk s'.app := by
  obtain ⟨htu, rfl⟩ := h
  exact NatOp.preserves (P := fun t => CacheOk t.app) H fun _ _ ht hmove => ht.move htu hmove

/-- An empty cache. -/
lemma CacheOk.init (h : s.Init) : CacheOk s.app := by
  obtain ⟨n, alg, pre, pwr, rep, rfl⟩ := h
  refine ⟨⟨fun k _ h0 => absurd rfl h0, fun _ _ _ => rfl, fun j _ k _ h0 => absurd rfl h0⟩, ?_⟩
  have hused : (NatSys.init n alg pre pwr rep).app.used = ∅ := by
    ext k
    rw [NatApp.mem_used]
    simp only [Finset.notMem_empty, iff_false, not_and, not_not]
    exact fun _ => rfl
  rw [hused]
  rfl

end Lemmas

/-- **The cache is a well-formed set** in every run with TCP and UDP rules. -/
theorem cache_wellFormed {s s' : NatSys} {ops : List NatOp} (h0 : s.Init)
    (hr : Run NatOp.TcpUdpStep s ops s') :
    (∀ j < s'.app.maxEntries, ∀ k < s'.app.maxEntries, (s'.app.cache j).conn ≠ {} →
        (s'.app.cache j).conn = (s'.app.cache k).conn → j = k) ∧
      (∀ k < s'.app.maxEntries, (s'.app.cache k).conn.Full ∨
        ((s'.app.cache k).conn = {} ∧ (s'.app.cache k).enabled = false)) ∧
      s'.app.curCnt = s'.app.used.card ∧ 0 ≤ s'.app.curCnt ∧
      s'.app.curCnt ≤ s'.app.maxEntries := by
  have H : CacheOk s'.app :=
    hr.invariant (P := fun t => CacheOk t.app) (fun _ _ _ h hst => h.step hst) (CacheOk.init h0)
  have hle : s'.app.used.card ≤ s'.app.maxEntries :=
    (Finset.card_filter_le _ _).trans (Finset.card_range _).le
  refine ⟨H.distinct, fun k hk => ?_, H.cnt, ?_, ?_⟩
  · by_cases hused : (s'.app.cache k).conn = {}
    · exact Or.inr ⟨hused, H.off k hk hused⟩
    · exact Or.inl (H.full k hk hused)
  · rw [H.cnt]; exact Int.natCast_nonneg _
  · rw [H.cnt]; exact_mod_cast hle

/-- A connection that is cached without a table and then deleted. -/
theorem cache_wellFormed_cached : ∃ s ops s', NatSys.Init s ∧ Run NatOp.TcpUdpStep s ops s' ∧
    s'.app.curCnt = s'.app.used.card := by
  have h0 : (NatSys.init 2 [] 0 (fun _ => 0) fun _ => ⟨true, 0⟩).Init := ⟨_, _, _, _, _, rfl⟩
  have hr := @Run.cons _ _ NatOp.TcpUdpStep (NatSys.init 2 [] 0 (fun _ => 0) fun _ => ⟨true, 0⟩) _ _ _
    (.cacheEntry { privateIp := 1, privatePort := 2, targetIp := 3, targetPort := 4, protocol := 6 })
    ⟨Or.inl rfl, rfl⟩ (.nil _)
  exact ⟨_, _, _, h0, hr, (cache_wellFormed h0 hr).2.2.1⟩

end Ipacm
