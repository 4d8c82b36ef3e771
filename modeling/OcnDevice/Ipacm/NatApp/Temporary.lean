import OcnDevice.Ipacm.NatApp.Fields

/-!
# Flushing the temporary entries

`FlushTempEntries` looks at each temporary entry once and touches no other in that pass
(`flushEntry_frame`), so what becomes of an entry is what its own pass does with it: the passes before
leave it alone, and those behind it leave it and the connections of the cache alone.

An entry of the client that is flushed is dropped if it is not to be added, or if it is of another
public address than the table.  Otherwise it is given to `AddEntry`, and stays if that fails.
-/

namespace Ipacm

namespace NatSys

variable {s t : NatSys} {rule : NatTableEntry} {ip : UInt32} {isAdd isDummy : Bool} {cnt j k : ℕ}

/-- What the pass for temporary entry `cnt` gives to `AddEntry`. -/
def flushed (s : NatSys) (isDummy : Bool) (cnt : ℕ) : NatTableEntry :=
  if isDummy then dummyOf (s.app.temp cnt) else s.app.temp cnt

/-- The state in which that pass calls `AddEntry`. -/
def adding (s : NatSys) (isDummy : Bool) (cnt : ℕ) : NatSys :=
  if isDummy then s.makeDummy cnt else s

/-- The entry is one of the client that is flushed. -/
def Matches (s : NatSys) (ip : UInt32) (cnt : ℕ) : Prop :=
  (s.app.temp cnt).privateIp = ip ∨ (s.app.temp cnt).targetIp = ip

/-- The entry is to be added, and it is of the public address of the table. -/
def Adds (s : NatSys) (isAdd : Bool) (cnt : ℕ) : Prop :=
  isAdd = true ∧ (s.app.temp cnt).publicIp = s.app.pubIpAddr

/-- **What becomes of temporary entry `cnt`** in a flush from `s` to `s'`, whose pass for that entry
finds the state `t`. -/
structure Flushed (s t : NatSys) (ip : UInt32) (isAdd isDummy : Bool) (cnt : ℕ) (s' : NatSys) :
    Prop where
  other : ¬ s.Matches ip cnt → s'.app.temp cnt = s.app.temp cnt
  dropped : s.Matches ip cnt → ¬ s.Adds isAdd cnt → s'.app.temp cnt = {}
  added : s.Matches ip cnt → s.Adds isAdd cnt →
    ((t.adding isDummy cnt).addEntry (s.flushed isDummy cnt)).1 = 0 →
    s'.app.temp cnt = {} ∧ ((s.flushed isDummy cnt).conn.Full →
      ∃ k < s'.app.maxEntries, (s'.app.cache k).conn = (s.flushed isDummy cnt).conn)
  failed : s.Matches ip cnt → s.Adds isAdd cnt →
    ((t.adding isDummy cnt).addEntry (s.flushed isDummy cnt)).1 ≠ 0 → isDummy = false →
    s'.app.temp cnt = s.app.temp cnt

/-! ## One pass -/

/-- `AddEntry` changes neither the temporary entries nor the public address. -/
lemma addEntry_frame (s : NatSys) (rule : NatTableEntry) :
    (s.addEntry rule).2.app.temp = s.app.temp ∧
      (s.addEntry rule).2.app.pubIpAddr = s.app.pubIpAddr ∧
      (s.addEntry rule).2.app.maxEntries = s.app.maxEntries := by
  rcases s.addEntry_cases rule with h | ⟨-, h⟩ | ⟨-, -, -, j, -, -, h⟩
  · rw [h]
    exact ⟨rfl, rfl, rfl⟩
  · rw [h]
    exact ⟨rfl, rfl, rfl⟩
  · rw [h]
    split_ifs
    · exact ⟨rfl, rfl, rfl⟩
    · cases s.ipa.ipaNatAddIpv4Rule s.app.natTableHdl rule.natRule with
      | mk hdl ipa => cases hdl <;> exact ⟨rfl, rfl, rfl⟩

/-- **An `AddEntry` that succeeds** has the connection in the cache, if it is one. -/
lemma addEntry_success (h : (s.addEntry rule).1 = 0) (hfull : rule.conn.Full) :
    ∃ k < s.app.maxEntries, ((s.addEntry rule).2.app.cache k).conn = rule.conn := by
  rcases s.addEntry_cases rule with hadd | ⟨hbad, -⟩ | ⟨-, -, -, k, hk, -, hadd⟩
  · rw [hadd] at h
    simp at h
  · exact absurd hfull hbad
  · refine ⟨k, hk, ?_⟩
    rw [hadd] at h ⊢
    by_cases hsave : s.app.isPwrSaveIf rule.privateIp ∨ s.app.isPwrSaveIf rule.targetIp
    · rw [if_pos hsave]
      simp only [NatApp.fill_cache_self]
      rfl
    · rw [if_neg hsave] at h ⊢
      rcases s.ipa.ipaNatAddIpv4Rule_cases s.app.natTableHdl rule.natRule with
        ⟨rep, hdrv⟩ | ⟨-, -, hdl, rep, -, -, hdrv⟩
      · rw [hdrv] at h
        simp at h
      · rw [hdrv]
        simp only [NatApp.fill_cache_self]
        rfl

lemma adding_temp (s : NatSys) (isDummy : Bool) (cnt : ℕ) :
    (s.adding isDummy cnt).app.temp cnt = s.flushed isDummy cnt := by
  cases isDummy with
  | false => rfl
  | true => exact s.makeDummy_temp cnt

/-! The three ways of a pass. -/

lemma flushEntry_of_not_matches (h : ¬ s.Matches ip cnt) :
    s.flushEntry ip isAdd isDummy cnt = s := if_neg h

lemma flushEntry_of_not_adds (h : s.Matches ip cnt) (hadd : ¬ s.Adds isAdd cnt) :
    s.flushEntry ip isAdd isDummy cnt = { s with app := s.app.setTemp cnt {} } :=
  (if_pos h).trans (if_neg hadd)

lemma flushEntry_of_adds (h : s.Matches ip cnt) (hadd : s.Adds isAdd cnt) :
    s.flushEntry ip isAdd isDummy cnt = (s.adding isDummy cnt).flushAdd cnt :=
  (if_pos h).trans (if_pos hadd)

/-- A pass changes no other temporary entry, and not the public address. -/
lemma flushEntry_frame (s : NatSys) (ip : UInt32) (isAdd isDummy : Bool) (h : j ≠ cnt) :
    (s.flushEntry ip isAdd isDummy cnt).app.temp j = s.app.temp j ∧
      (s.flushEntry ip isAdd isDummy cnt).app.pubIpAddr = s.app.pubIpAddr := by
  by_cases hmatch : s.Matches ip cnt
  · by_cases hadd : s.Adds isAdd cnt
    · rw [flushEntry_of_adds hmatch hadd]
      obtain ⟨htemp, hpub, -⟩ :=
        (s.adding isDummy cnt).addEntry_frame ((s.adding isDummy cnt).app.temp cnt)
      have hsame : (s.adding isDummy cnt).app.temp j = s.app.temp j ∧
          (s.adding isDummy cnt).app.pubIpAddr = s.app.pubIpAddr := by
        cases isDummy with
        | false => exact ⟨rfl, rfl⟩
        | true => exact ⟨Function.update_of_ne h _ _, rfl⟩
      unfold flushAdd
      split_ifs
      · exact ⟨(congrFun htemp j).trans hsame.1, hpub.trans hsame.2⟩
      · exact ⟨(Function.update_of_ne h _ _).trans ((congrFun htemp j).trans hsame.1),
          hpub.trans hsame.2⟩
    · rw [flushEntry_of_not_adds hmatch hadd]
      exact ⟨Function.update_of_ne h _ _, rfl⟩
  · rw [flushEntry_of_not_matches hmatch]
    exact ⟨rfl, rfl⟩

lemma flushEntry_maxEntries (s : NatSys) (ip : UInt32) (isAdd isDummy : Bool) (cnt : ℕ) :
    (s.flushEntry ip isAdd isDummy cnt).app.maxEntries = s.app.maxEntries :=
  (s.flushEntry_moves ip isAdd isDummy cnt).maxEntries

/-- **The pass of an entry**, by itself. -/
lemma flushEntry_flushed (s : NatSys) (ip : UInt32) (isAdd isDummy : Bool) (cnt : ℕ) :
    s.Flushed s ip isAdd isDummy cnt (s.flushEntry ip isAdd isDummy cnt) := by
  refine ⟨fun h => ?_, fun h hadd => ?_, fun h hadd hret => ?_, fun h hadd hret hd => ?_⟩
  · rw [flushEntry_of_not_matches h]
  · rw [flushEntry_of_not_adds h hadd]
    exact Function.update_self _ _ _
  · rw [flushEntry_of_adds h hadd, flushAdd, adding_temp, if_neg (not_not.mpr hret)]
    refine ⟨Function.update_self _ _ _, fun hfull => ?_⟩
    obtain ⟨k, hk, hconn⟩ := addEntry_success hret hfull
    exact ⟨k, ((s.adding isDummy cnt).addEntry_frame _).2.2.symm ▸ hk, hconn⟩
  · rw [flushEntry_of_adds h hadd, flushAdd, adding_temp, if_pos hret,
      ((s.adding isDummy cnt).addEntry_frame _).1, adding_temp, hd]
    rfl

/-! ## A whole flush -/

/-- The passes for other entries leave entry `cnt` alone, and the passes keep what is cached. -/
structure FlushKeeps (cnt : ℕ) (s s' : NatSys) : Prop where
  temp : s'.app.temp cnt = s.app.temp cnt
  pubIpAddr : s'.app.pubIpAddr = s.app.pubIpAddr
  maxEntries : s'.app.maxEntries = s.app.maxEntries
  cache : ∀ k, (s.app.cache k).conn ≠ {} → (s'.app.cache k).fields = (s.app.cache k).fields

lemma FlushKeeps.refl (cnt : ℕ) (s : NatSys) : FlushKeeps cnt s s :=
  ⟨rfl, rfl, rfl, fun _ _ => rfl⟩

lemma FlushKeeps.pass {s' : NatSys} (H : FlushKeeps cnt s s') (h : cnt ≠ j) :
    FlushKeeps cnt s (s'.flushEntry ip isAdd isDummy j) := by
  obtain ⟨htemp, hpub⟩ := s'.flushEntry_frame ip isAdd isDummy h
  refine ⟨htemp.trans H.temp, hpub.trans H.pubIpAddr,
    (s'.flushEntry_maxEntries ip isAdd isDummy j).trans H.maxEntries, fun k hk => ?_⟩
  have hk' := H.cache k hk
  rw [flushEntry_kept ip isAdd isDummy j (NatTableEntry.conn_eq_of_fields hk' ▸ hk), hk']

/-- What the pass of an entry does to it is what a flush does, if all around it keeps it. -/
lemma Flushed.around {u s' : NatSys} (hb : FlushKeeps cnt s t)
    (H : t.Flushed t ip isAdd isDummy cnt u) (ha : FlushKeeps cnt u s') :
    s.Flushed t ip isAdd isDummy cnt s' := by
  have hmatch : t.Matches ip cnt ↔ s.Matches ip cnt := by
    unfold Matches
    rw [hb.temp]
  have hadds : t.Adds isAdd cnt ↔ s.Adds isAdd cnt := by
    unfold Adds
    rw [hb.temp, hb.pubIpAddr]
  have hflushed : t.flushed isDummy cnt = s.flushed isDummy cnt := by
    unfold flushed
    rw [hb.temp]
  refine ⟨fun h => ?_, fun h hadd => ?_, fun h hadd hret => ?_, fun h hadd hret hd => ?_⟩
  · rw [ha.temp, H.other (mt hmatch.mp h), hb.temp]
  · rw [ha.temp, H.dropped (hmatch.mpr h) (mt hadds.mp hadd)]
  · obtain ⟨htemp, hcache⟩ := H.added (hmatch.mpr h) (hadds.mpr hadd) (hflushed ▸ hret)
    rw [hflushed] at hcache
    refine ⟨ha.temp.trans htemp, fun hfull => ?_⟩
    obtain ⟨k, hk, hconn⟩ := hcache hfull
    have hused : (u.app.cache k).conn ≠ {} := hconn ▸ hfull.ne_empty
    exact ⟨k, ha.maxEntries.symm ▸ hk,
      (NatTableEntry.conn_eq_of_fields (ha.cache k hused)).trans hconn⟩
  · rw [ha.temp, H.failed (hmatch.mpr h) (hadds.mpr hadd) (hflushed ▸ hret) hd, hb.temp]

/-- Each entry that the loop has passed. -/
lemma forUpTo_flushed {n : ℕ} (s : NatSys) (ip : UInt32) (isAdd isDummy : Bool) (hcnt : cnt < n) :
    s.Flushed (forUpTo cnt (flushEntry ip isAdd isDummy) s) ip isAdd isDummy cnt
      (forUpTo n (flushEntry ip isAdd isDummy) s) := by
  have hbefore : FlushKeeps cnt s (forUpTo cnt (flushEntry ip isAdd isDummy) s) :=
    forUpTo_preserves (.refl cnt s) fun i u hi hu => hu.pass (by omega)
  have hafter : FlushKeeps cnt (forUpTo (cnt + 1) (flushEntry ip isAdd isDummy) s)
      (forUpTo n (flushEntry ip isAdd isDummy) s) :=
    forUpTo_invariant_from (m := cnt + 1) (P := fun _ => FlushKeeps cnt _) hcnt (.refl cnt _)
      fun i u hi _ hu => hu.pass (by omega)
  exact (flushEntry_flushed _ ip isAdd isDummy cnt).around hbefore hafter

end NatSys

open NatSys

/-- **What a flush does with each temporary entry**: one of another client stays, one that is not to
be added is dropped, one that `AddEntry` takes is in the cache, and one that it refuses stays; and
no connection of the cache is lost. -/
theorem flushed_entries (s : NatSys) (ip : UInt32) (isAdd isDummy : Bool) :
    (∀ cnt < maxTempEntries, s.Flushed (forUpTo cnt (flushEntry ip isAdd isDummy) s) ip isAdd isDummy
      cnt (s.flushTempEntries ip isAdd isDummy)) ∧
    ∀ k, (s.app.cache k).conn ≠ {} →
      ((s.flushTempEntries ip isAdd isDummy).app.cache k).fields = (s.app.cache k).fields := by
  unfold flushTempEntries
  constructor
  · exact fun cnt hcnt => s.forUpTo_flushed ip isAdd isDummy hcnt
  · intro k hk
    exact (forUpTo_preserves (P := fun u : NatSys => (u.app.cache k).conn ≠ {} ∧
      (u.app.cache k).fields = (s.app.cache k).fields) ⟨hk, rfl⟩ fun i u _ hu => by
        have hkept := flushEntry_kept ip isAdd isDummy i hu.1
        exact ⟨NatTableEntry.conn_eq_of_fields hkept ▸ hu.1, hkept.trans hu.2⟩).2

/-- A connection of another public address than the table, which is flushed, is neither a temporary
entry nor in the cache afterwards. -/
theorem flushed_elsewhere : ∃ (s₀ s : NatSys) (ops : List NatOp) (ip : UInt32) (cnt : ℕ), s₀.Init ∧
    Run NatOp.Step s₀ ops s ∧ cnt < maxTempEntries ∧ s.Matches ip cnt ∧ (s.app.temp cnt).conn.Full ∧
    (∀ j < maxTempEntries,
      ((s.flushTempEntries ip true false).app.temp j).conn ≠ (s.app.temp cnt).conn) ∧
    ∀ k < (s.flushTempEntries ip true false).app.maxEntries,
      ((s.flushTempEntries ip true false).app.cache k).conn ≠ (s.app.temp cnt).conn := by
  refine ⟨_, (twoSlots []).callAll [.addTable 1, .addTempEntry { tcpRule 10 20 with publicIp := 2 }],
    _, 10, 0, twoSlots_init [], NatSys.run_callAll _ _, by decide, Or.inl rfl, ?_, ?_, ?_⟩ <;>
  decide +kernel

end Ipacm
