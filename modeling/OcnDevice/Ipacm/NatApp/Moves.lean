import OcnDevice.Ipacm.NatApp.Model

/-!
# What a call can do

Every member function of `NatApp` is a sequence of a few moves: a slot is filled, forgotten, given
a rule or robbed of it, a table comes or goes, a client goes into power save or leaves it.
`NatOp.moves` says so once for all the functions, with everything that the code has checked before
it makes a move; what a claim needs is then a lemma about each move.
-/

namespace Ipacm

open IpaNat (IpaNatIpv4Rule)

/-- The slots that a call may clear. -/
def NatOp.Forgets (op : NatOp) (s : NatSys) (k : ℕ) : Prop :=
  match op with
  | .deleteEntry rule => (s.app.cache k).conn = rule.conn
  | .delEntriesOnSTAClntDiscon ip => ip ≠ 0 ∧ (s.app.cache k).targetIp = ip
  | .addTable pubIp => pubIp = s.app.pubIpAddrPre ∧ (s.app.cache k).privateIp ≠ 0
  | .resetPwrSaveIf ip =>
      ip ≠ 0 ∧ (s.app.cache k).privateIp = ip ∧ (s.app.cache k).enabled = false
  | _ => False

/-- The slots whose rule a call may give to the driver once more. -/
def NatOp.Reinstalls (op : NatOp) (s : NatSys) (k : ℕ) : Prop :=
  match op with
  | .addTable pubIp => pubIp = s.app.pubIpAddrPre ∧ (s.app.cache k).privateIp ≠ 0
  | .resetPwrSaveIf ip =>
      ip ≠ 0 ∧ (s.app.cache k).privateIp = ip ∧ (s.app.cache k).enabled = false
  | _ => False

/-- The slots whose rule a call may take out of the table while the connection stays. -/
def NatOp.Disables (op : NatOp) (s : NatSys) (k : ℕ) : Prop :=
  match op with
  | .updatePwrSaveIf ip | .delEntriesOnClntDiscon ip => ip ≠ 0 ∧ (s.app.cache k).privateIp = ip
  | _ => False

/-- The calls that may fill a slot, and whether with a rule. -/
def NatOp.Fills : NatOp → Bool → Prop
  | .addEntry _, _ => True
  | .flushTempEntries _ isAdd _, _ => isAdd = true
  | .cacheEntry _, enabled => enabled = false
  | _, _ => False

/-- The calls that may clear a slot whose rule stays in the table. -/
def NatOp.Leaks : NatOp → Prop
  | .deleteEntry _ | .addTable _ => True
  | _ => False

/-- **A move of a call.** -/
inductive NatMove (op : NatOp) : NatSys → NatSys → Prop
  | quiet (s : NatSys) (temp : ℕ → NatTableEntry) (replies : ℕ → Reply) :
      NatMove op s { app := { s.app with temp }, ipa := { s.ipa with replies } }
  | save {s : NatSys} {ip : UInt32} {k : ℕ} (hop : op = .updatePwrSaveIf ip) (hip : ip ≠ 0)
      (hk : k < ipaMaxNumWifiClients) (h0 : s.app.pwrSaveIfs k = 0) :
      NatMove op s { s with app := s.app.setPwrSaveIf k ip }
  | unsave {s : NatSys} {ip : UInt32} {k : ℕ}
      (hop : op = .resetPwrSaveIf ip ∨ op = .delEntriesOnClntDiscon ip) (hip : ip ≠ 0)
      (h : s.app.pwrSaveIfs k = ip) :
      NatMove op s { s with app := s.app.setPwrSaveIf k 0 }
  | fill {s : NatSys} {k : ℕ} {e : NatTableEntry} (hop : op.Fills false)
      (hk : k < s.app.maxEntries) (hfree : (s.app.cache k).conn = {}) (hfull : e.conn.Full)
      (hdup : ∀ j < s.app.maxEntries, (s.app.cache j).conn ≠ e.conn) (hoff : e.enabled = false) :
      NatMove op s { s with app := s.app.fill k e }
  | install {s : NatSys} {k : ℕ} {e : NatTableEntry} (hop : op.Fills true)
      (hk : k < s.app.maxEntries) (hfree : (s.app.cache k).conn = {}) (hfull : e.conn.Full)
      (hdup : ∀ j < s.app.maxEntries, (s.app.cache j).conn ≠ e.conn) (hon : e.enabled = true)
      (htbl : s.app.natTableHdl ≠ 0) (heq : s.app.natTableHdl = s.ipa.tblHdl)
      (hhdl : e.ruleHdl ≠ 0) (hfresh : e.ruleHdl ∉ s.ipa.hdls)
      (hsave : s.app.isPwrSaveIf e.privateIp = false) :
      NatMove op s
        { app := s.app.fill k e
          ipa := { s.ipa with rules := (e.ruleHdl, e.natRule) :: s.ipa.rules } }
  | forget {s : NatSys} {k : ℕ} (hop : op.Forgets s k) (hk : k < s.app.maxEntries)
      (hoff : (s.app.cache k).enabled = false) :
      NatMove op s { s with app := s.app.wipe k }
  | remove {s : NatSys} {k : ℕ} (hop : op.Forgets s k) (hk : k < s.app.maxEntries)
      (hon : (s.app.cache k).enabled = true) (hin : (s.app.cache k).ruleHdl ∈ s.ipa.hdls) :
      NatMove op s
        { app := s.app.wipe k
          ipa := { s.ipa with
            rules := s.ipa.rules.filter fun r => r.1 ≠ (s.app.cache k).ruleHdl } }
  | leak {s : NatSys} {k : ℕ} (hop : op.Forgets s k) (hleak : op.Leaks)
      (hk : k < s.app.maxEntries) (hon : (s.app.cache k).enabled = true) :
      NatMove op s { s with app := s.app.wipe k }
  | enable {s : NatSys} {k hdl : ℕ} (hop : op.Reinstalls s k) (hk : k < s.app.maxEntries)
      (htbl : s.app.natTableHdl ≠ 0) (heq : s.app.natTableHdl = s.ipa.tblHdl)
      (hhdl : hdl ≠ 0) (hfresh : hdl ∉ s.ipa.hdls) :
      NatMove op s
        { app := s.app.setSlot k { s.app.cache k with ruleHdl := hdl, enabled := true }
          ipa := { s.ipa with rules := (hdl, (s.app.cache k).natRule) :: s.ipa.rules } }
  | disable {s : NatSys} {k hdl : ℕ} (hop : op.Disables s k) (hk : k < s.app.maxEntries)
      (hon : (s.app.cache k).enabled = true) (hin : (s.app.cache k).ruleHdl ∈ s.ipa.hdls) :
      NatMove op s
        { app := s.app.setSlot k { s.app.cache k with enabled := false, ruleHdl := hdl }
          ipa := { s.ipa with
            rules := s.ipa.rules.filter fun r => r.1 ≠ (s.app.cache k).ruleHdl } }
  | stamp {s : NatSys} {k : ℕ} {ts : UInt32} (hk : k < s.app.maxEntries)
      (hon : (s.app.cache k).enabled = true) :
      NatMove op s
        { s with app := s.app.setSlot k { s.app.cache k with timestamp := ts } }
  | openTbl {s : NatSys} {pubIp : UInt32} {hdl : ℕ} (hop : op = .addTable pubIp) (h0 : hdl ≠ 0) :
      NatMove op s
        { app := { s.app with natTableHdl := hdl }
          ipa := { s.ipa with tblHdl := hdl, publicIp := pubIp, rules := [] } }
  | openFail {s : NatSys} {pubIp : UInt32} (hop : op = .addTable pubIp) :
      NatMove op s { s with app := { s.app with natTableHdl := 0 } }
  | name {s : NatSys} {pubIp : UInt32} (hop : op = .addTable pubIp) (h0 : s.app.natTableHdl ≠ 0) :
      NatMove op s { s with app := { s.app with pubIpAddr := pubIp } }
  | close {s : NatSys} {pubIp : UInt32} (hop : op = .deleteTable pubIp)
      (h0 : s.app.natTableHdl ≠ 0) (heq : s.app.natTableHdl = s.ipa.tblHdl)
      (hip : s.app.pubIpAddr = pubIp) :
      NatMove op s
        { app := NatApp.reset { s.app with pubIpAddrPre := s.app.pubIpAddr }
          ipa := { s.ipa with tblHdl := 0, rules := [] } }

/-- Moves one after another. -/
abbrev NatMoves (op : NatOp) : NatSys → NatSys → Prop := Relation.ReflTransGen (NatMove op)

section Moves

variable {op : NatOp} {s t : NatSys}

open Relation

/-- A move, behind which only the replies change. -/
lemma NatMove.andReplies (h : NatMove op s t) (replies : ℕ → Reply) :
    NatMoves op s { t with ipa := { t.ipa with replies } } :=
  (ReflTransGen.single h).tail (.quiet t t.app.temp replies)

lemma NatMoves.replies (s : NatSys) (replies : ℕ → Reply) :
    NatMoves op s { s with ipa := { s.ipa with replies } } :=
  .single (.quiet s s.app.temp replies)

lemma NatMoves.setTemp (s : NatSys) (k : ℕ) (e : NatTableEntry) :
    NatMoves op s { s with app := s.app.setTemp k e } :=
  .single (.quiet s _ s.ipa.replies)

/-- A loop whose passes are moves. -/
lemma NatMoves.loop {n : ℕ} {body : ℕ → NatSys → NatSys}
    (h : ∀ i t, i < n → NatMoves op t (body i t)) : NatMoves op s (forUpTo n body s) :=
  forUpTo_rel (fun _ => .refl) (fun _ _ _ => .trans) h

/-- The size of the cache and the ports never change. -/
lemma NatMove.maxEntries (h : NatMove op s t) : t.app.maxEntries = s.app.maxEntries := by
  cases h <;> rfl

lemma NatMoves.maxEntries (h : NatMoves op s t) : t.app.maxEntries = s.app.maxEntries := by
  induction h with
  | refl => rfl
  | tail _ h ih => exact h.maxEntries.trans ih

/-- A loop over the slots whose passes are moves. -/
lemma NatMoves.slots {body : ℕ → NatSys → NatSys}
    (h : ∀ i t, i < t.app.maxEntries → NatMoves op t (body i t)) :
    NatMoves op s (forUpTo s.app.maxEntries body s) := by
  refine (forUpTo_preserves (P := fun t => NatMoves op s t ∧ t.app.maxEntries = s.app.maxEntries)
    ⟨.refl, rfl⟩ fun i t hi ht => ?_).1
  have hb := h i t (ht.2 ▸ hi)
  exact ⟨ht.1.trans hb, hb.maxEntries.trans ht.2⟩

/-! ## The functions -/

namespace NatSys

lemma chkForDup_eq_false {a : NatApp} {rule : NatTableEntry} (h : a.chkForDup rule = false) :
    ∀ j < a.maxEntries, (a.cache j).conn ≠ rule.conn := by
  unfold NatApp.chkForDup at h
  simpa using h

lemma freeSlot_eq_some {a : NatApp} {k : ℕ} (h : a.freeSlot = some k) :
    k < a.maxEntries ∧ (a.cache k).conn = {} := by
  obtain ⟨h1, h2, -⟩ := firstIdx_eq_some.mp h
  exact ⟨h1, by simpa using h2⟩

/-- Reinstalling an entry changes its slot, the count and the driver only. -/
lemma reinstall_frame (s : NatSys) (k : ℕ) :
    (s.reinstall k).app.maxEntries = s.app.maxEntries ∧
      (s.reinstall k).app.natTableHdl = s.app.natTableHdl ∧
      (s.reinstall k).app.pubIpAddrPre = s.app.pubIpAddrPre ∧
      (∀ j, j ≠ k → (s.reinstall k).app.cache j = s.app.cache j) := by
  unfold reinstall
  rcases s.ipa.ipaNatAddIpv4Rule_cases s.app.natTableHdl (s.app.cache k).natRule with
    ⟨rep, h⟩ | ⟨-, -, hdl, rep, -, -, h⟩
  · rw [h]
    exact ⟨rfl, rfl, rfl, fun j hj => Function.update_of_ne hj _ _⟩
  · rw [h]
    exact ⟨rfl, rfl, rfl, fun j hj => Function.update_of_ne hj _ _⟩

lemma reinstall_moves {k : ℕ} (hf : op.Forgets s k) (hr : op.Reinstalls s k)
    (hleak : (s.app.cache k).enabled = true → op.Leaks) (hk : k < s.app.maxEntries) : NatMoves op s (s.reinstall k) := by
  unfold reinstall
  rcases s.ipa.ipaNatAddIpv4Rule_cases s.app.natTableHdl (s.app.cache k).natRule with
    ⟨rep, h⟩ | ⟨h0, heq, hdl, rep, hne, hfresh, h⟩
  · rw [h]
    by_cases hon : (s.app.cache k).enabled = true
    · exact (NatMove.leak hf (hleak hon) hk hon).andReplies rep
    · exact (NatMove.forget hf hk (by simpa using hon)).andReplies rep
  · rw [h]
    exact (NatMove.enable hr hk h0 heq hne hfresh).andReplies rep

/-- What `AddEntry` has checked when it has picked a slot. -/
lemma addEntry_cases (s : NatSys) (rule : NatTableEntry) :
    s.addEntry rule = (-1, s) ∨ (¬ rule.conn.Full ∧ s.addEntry rule = (0, s)) ∨
      (s.app.natTableHdl ≠ 0 ∧ rule.conn.Full ∧
        (∀ j < s.app.maxEntries, (s.app.cache j).conn ≠ rule.conn) ∧
        ∃ k < s.app.maxEntries, (s.app.cache k).conn = {} ∧
          s.addEntry rule =
            if s.app.isPwrSaveIf rule.privateIp ∨ s.app.isPwrSaveIf rule.targetIp then
              (0, { s with app := s.app.fill k (entryOf rule (s.app.cache k) false 0) })
            else
              match s.ipa.ipaNatAddIpv4Rule s.app.natTableHdl rule.natRule with
              | (none, ipa) => (-1, { s with ipa })
              | (some hdl, ipa) =>
                  (0, { app := s.app.fill k (entryOf rule (s.app.cache k) true hdl), ipa })) := by
  unfold addEntry
  by_cases h0 : s.app.natTableHdl = 0
  · exact Or.inl (if_pos h0)
  rw [if_neg h0]
  by_cases halg : s.app.isAlgPort rule.protocol rule.privatePort ∨
      s.app.isAlgPort rule.protocol rule.targetPort
  · exact Or.inl (if_pos halg)
  rw [if_neg halg]
  by_cases hfull : rule.conn.Full
  · rw [if_neg (not_not.mpr hfull)]
    by_cases hdup : s.app.chkForDup rule = true
    · exact Or.inl (if_pos hdup)
    · rw [if_neg hdup]
      cases hslot : s.app.freeSlot with
      | none => exact Or.inl rfl
      | some k =>
          obtain ⟨hk, hfree⟩ := freeSlot_eq_some hslot
          exact Or.inr (Or.inr ⟨h0, hfull, chkForDup_eq_false (by simpa using hdup), k, hk, hfree,
            rfl⟩)
  · exact Or.inr (Or.inl ⟨hfull, if_pos hfull⟩)

lemma addEntry_moves (op : NatOp) (hfill : ∀ b, op.Fills b) (s : NatSys) (rule : NatTableEntry) :
    NatMoves op s (s.addEntry rule).2 := by
  rcases s.addEntry_cases rule with h | ⟨-, h⟩ | ⟨h0, hfull, hdup, k, hk, hfree, h⟩
  · rw [h]
  · rw [h]
  · rw [h]
    by_cases hsave : s.app.isPwrSaveIf rule.privateIp ∨ s.app.isPwrSaveIf rule.targetIp
    · rw [if_pos hsave]
      exact .single (.fill (hfill false) hk hfree hfull hdup rfl)
    · rw [if_neg hsave]
      rcases s.ipa.ipaNatAddIpv4Rule_cases s.app.natTableHdl rule.natRule with
        ⟨rep, h⟩ | ⟨-, heq, hdl, rep, hne, hfresh, h⟩
      · rw [h]
        exact .replies s rep
      · rw [h]
        have hnot : s.app.isPwrSaveIf rule.privateIp = false := by simpa using (not_or.mp hsave).1
        exact (NatMove.install (e := entryOf rule (s.app.cache k) true hdl) (hfill true) hk hfree
          hfull hdup rfl h0 heq hne hfresh hnot).andReplies rep

/-- What `CacheEntry` has checked when it has picked a slot. -/
lemma cacheEntry_cases (s : NatSys) (rule : NatTableEntry) :
    s.cacheEntry rule = s ∨
      (rule.conn.Full ∧ (∀ j < s.app.maxEntries, (s.app.cache j).conn ≠ rule.conn) ∧
        ∃ k < s.app.maxEntries, (s.app.cache k).conn = {} ∧ ∃ e : NatTableEntry,
          e.conn = rule.conn ∧ e.natRule = rule.natRule ∧ e.publicIp = rule.publicIp ∧
          e.enabled = false ∧ s.cacheEntry rule = { s with app := s.app.fill k e }) := by
  unfold cacheEntry
  by_cases hfull : rule.conn.Full
  · rw [if_neg (not_not.mpr hfull)]
    by_cases hdup : s.app.chkForDup rule = true
    · exact Or.inl (if_pos hdup)
    · rw [if_neg hdup]
      cases hslot : s.app.freeSlot with
      | none => exact Or.inl rfl
      | some k =>
          obtain ⟨hk, hfree⟩ := freeSlot_eq_some hslot
          exact Or.inr ⟨hfull, chkForDup_eq_false (by simpa using hdup), k, hk, hfree,
            { entryOf rule (s.app.cache k) false 0 with publicIp := rule.publicIp }, rfl, rfl, rfl,
            rfl, rfl⟩
  · exact Or.inl (if_pos hfull)

lemma cacheEntry_moves (s : NatSys) (rule : NatTableEntry) :
    NatMoves (.cacheEntry rule) s (s.cacheEntry rule) := by
  rcases s.cacheEntry_cases rule with h | ⟨hfull, hdup, k, hk, hfree, e, hconn, -, -, hoff, h⟩
  · rw [h]
  · rw [h]
    rw [← hconn] at hfull hdup
    exact .single (.fill rfl hk hfree hfull hdup hoff)

lemma deleteEntry_moves (s : NatSys) (rule : NatTableEntry) :
    NatMoves (.deleteEntry rule) s (s.deleteEntry rule).2 := by
  unfold deleteEntry
  cases hidx : firstIdx s.app.maxEntries fun cnt => (s.app.cache cnt).conn = rule.conn with
  | none => exact .refl
  | some k =>
      obtain ⟨hk, hc, -⟩ := firstIdx_eq_some.mp hidx
      have hconn : (s.app.cache k).conn = rule.conn := of_decide_eq_true hc
      have hop : NatOp.Forgets (.deleteEntry rule) s k := hconn
      by_cases hon : (s.app.cache k).enabled = true
      · simp only [hon, if_true]
        rcases s.ipa.ipaNatDelIpv4Rule_cases s.app.natTableHdl (s.app.cache k).ruleHdl with
          ⟨rep, h⟩ | ⟨-, -, hin, rep, h⟩
        · rw [h]
          exact (NatMove.leak hop trivial hk hon).andReplies rep
        · rw [h]
          exact (NatMove.remove hop hk hon hin).andReplies rep
      · simp only [hon]
        exact .single (.forget hop hk (by simpa using hon))

lemma disableEntry_moves {k hdl : ℕ} (hop : op.Disables s k) (hk : k < s.app.maxEntries)
    (hon : (s.app.cache k).enabled = true) : NatMoves op s (s.disableEntry k hdl) := by
  unfold disableEntry
  rcases s.ipa.ipaNatDelIpv4Rule_cases s.app.natTableHdl (s.app.cache k).ruleHdl with
    ⟨rep, h⟩ | ⟨-, -, hin, rep, h⟩
  · rw [h]
    exact .replies s rep
  · rw [h]
    exact (NatMove.disable hop hk hon hin).andReplies rep

lemma clearPwrSaveIf_moves {ip : UInt32}
    (hop : op = .resetPwrSaveIf ip ∨ op = .delEntriesOnClntDiscon ip) (hip : ip ≠ 0)
    (s : NatSys) : NatMoves op s (s.clearPwrSaveIf ip) := by
  unfold clearPwrSaveIf
  cases hidx : s.app.pwrSaveIdx ip with
  | none => exact .refl
  | some k =>
      obtain ⟨-, hc, -⟩ := firstIdx_eq_some.mp hidx
      exact .single (.unsave hop hip (by simpa using hc))

/-- The state behind a table creation that succeeds, before the cache is restored. -/
def opened (s : NatSys) (pubIp : UInt32) : NatSys where
  app := { s.app with natTableHdl := (s.ipa.replies 0).pick + 1 }
  ipa := { s.ipa.pop with
    tblHdl := (s.ipa.replies 0).pick + 1
    publicIp := pubIp
    rules := [] }

/-- **`AddTable`** fails and leaves the cache alone, or the driver has a new table, to which the
cache is restored if the address is the one before. -/
lemma addTable_cases (s : NatSys) (pubIp : UInt32) :
    (∃ ret hdl replies, ret ≠ 0 ∧ (hdl = 0 ∨ hdl = s.app.natTableHdl) ∧ s.addTable pubIp =
        (ret, { app := { s.app with natTableHdl := hdl }, ipa := { s.ipa with replies } })) ∨
      ((s.ipa.replies 0).ok = true ∧ ∃ t, s.addTable pubIp =
          (0, { t with app := { t.app with pubIpAddr := pubIp } }) ∧
        t = if pubIp = s.app.pubIpAddrPre then forUpTo s.app.maxEntries restoreEntry
          (s.opened pubIp) else s.opened pubIp) := by
  unfold addTable IpaDrv.ipaNatAddIpv4Tbl
  by_cases hn : s.app.maxEntries % 2 ^ 16 = 0
  · rw [if_pos hn]
    exact Or.inl ⟨_, _, s.ipa.replies, by decide, Or.inr rfl, rfl⟩
  rw [if_neg hn]
  by_cases hok : (s.ipa.replies 0).ok = true
  · rw [if_pos hok]
    exact Or.inr ⟨hok, _, rfl, rfl⟩
  · rw [if_neg hok]
    exact Or.inl ⟨_, _, _, by decide, Or.inl rfl, rfl⟩

lemma addTable_moves (s : NatSys) (pubIp : UInt32) :
    NatMoves (.addTable pubIp) s (s.addTable pubIp).2 := by
  rcases s.addTable_cases pubIp with ⟨ret, hdl, rep, -, hhdl, h⟩ | ⟨hok, t, h, ht⟩
  · rw [h]
    rcases hhdl with rfl | rfl
    · exact (NatMove.openFail rfl).andReplies rep
    · exact .replies s rep
  · rw [h]
    have h1 : NatMoves (.addTable pubIp) s (s.opened pubIp) :=
      (NatMove.openTbl rfl (Nat.succ_ne_zero _)).andReplies s.ipa.pop.replies
    by_cases hpre : pubIp = s.app.pubIpAddrPre
    · -- the table and the address before stay as they are while the cache is restored
      have hloop := forUpTo_preserves (n := s.app.maxEntries) (f := restoreEntry)
        (P := fun t => NatMoves (.addTable pubIp) s t ∧ t.app.maxEntries = s.app.maxEntries ∧
          t.app.natTableHdl ≠ 0 ∧ t.app.pubIpAddrPre = s.app.pubIpAddrPre)
        ⟨h1, rfl, Nat.succ_ne_zero _, rfl⟩ fun k t hk ht => by
          obtain ⟨hmoves, hmax, h0, hpre'⟩ := ht
          unfold restoreEntry
          by_cases hip : (t.app.cache k).privateIp ≠ 0
          · rw [if_pos hip]
            have hg : pubIp = t.app.pubIpAddrPre ∧ (t.app.cache k).privateIp ≠ 0 :=
              ⟨hpre.trans hpre'.symm, hip⟩
            obtain ⟨f1, f2, f3, -⟩ := t.reinstall_frame k
            exact ⟨hmoves.trans (reinstall_moves hg hg (fun _ => trivial) (hmax ▸ hk)),
              f1.trans hmax, by rw [f2]; exact h0, f3.trans hpre'⟩
          · rw [if_neg hip]
            exact ⟨hmoves, hmax, h0, hpre'⟩
      rw [if_pos hpre] at ht
      subst ht
      exact hloop.1.tail (.name rfl hloop.2.2.1)
    · rw [if_neg hpre] at ht
      subst ht
      exact h1.tail (.name rfl (Nat.succ_ne_zero _))

lemma deleteTable_moves (s : NatSys) (pubIp : UInt32) :
    NatMoves (.deleteTable pubIp) s (s.deleteTable pubIp).2 := by
  unfold deleteTable IpaDrv.ipaNatDelIpv4Tbl
  by_cases h0 : s.app.natTableHdl = 0
  · rw [if_pos h0]
  rw [if_neg h0]
  by_cases hip : s.app.pubIpAddr = pubIp
  · rw [if_neg (not_not.mpr hip)]
    by_cases htbl : s.app.natTableHdl = 0 ∨ s.app.natTableHdl ≠ s.ipa.tblHdl
    · rw [if_pos htbl]
      exact .replies s _
    rw [if_neg htbl]
    by_cases hok : (s.ipa.replies 0).ok = true
    · rw [if_pos hok]
      exact (NatMove.close rfl h0 (not_not.mp (not_or.mp htbl).2) hip).andReplies _
    · rw [if_neg hok]
      exact .replies s _
  · rw [if_pos hip]

lemma updateUDPTimeStamp_moves (s : NatSys) (touInstance : Bool) :
    NatMoves op s (s.updateUDPTimeStamp touInstance) := by
  refine NatMoves.slots fun k t hk => ?_
  unfold updateTimeStamp
  by_cases hon : (t.app.cache k).enabled ∧ (t.app.cache k).privateIp ≠ (t.app.cache k).publicIp
  · rw [if_pos hon]
    obtain ⟨rep, hrep⟩ := t.ipa.ipaNatQueryTimestamp_snd t.app.natTableHdl (t.app.cache k).ruleHdl
    cases hq : t.ipa.ipaNatQueryTimestamp t.app.natTableHdl (t.app.cache k).ruleHdl with
    | mk o ipa =>
        rw [hq] at hrep
        obtain rfl : ipa = _ := hrep
        cases o with
        | none => exact .replies t rep
        | some ts =>
            simp only
            split_ifs
            · exact .replies t rep
            · exact (NatMove.stamp hk hon.1).andReplies rep
            · exact .replies t rep
  · rw [if_neg hon]

lemma updatePwrSaveIf_moves (s : NatSys) (ip : UInt32) :
    NatMoves (.updatePwrSaveIf ip) s (s.updatePwrSaveIf ip).2 := by
  unfold updatePwrSaveIf
  by_cases hip : ip = 0
  · rw [if_pos hip]
  rw [if_neg hip]
  by_cases hdup : (s.app.pwrSaveIdx ip).isSome = true
  · rw [if_pos hdup]
  rw [if_neg hdup]
  have hloop : ∀ t : NatSys, NatMoves (.updatePwrSaveIf ip) t
      (forUpTo t.app.maxEntries (pwrSaveEntry ip) t) := fun t => NatMoves.slots fun k u hk => by
    unfold pwrSaveEntry
    by_cases hon : (u.app.cache k).privateIp = ip ∧ (u.app.cache k).enabled
    · rw [if_pos hon]
      exact disableEntry_moves ⟨hip, hon.1⟩ hk hon.2
    · rw [if_neg hon]
  cases hidx : s.app.pwrSaveIdx 0 with
  | none => exact hloop s
  | some k =>
      obtain ⟨hk, hc, -⟩ := firstIdx_eq_some.mp hidx
      exact .head (.save rfl hip hk (by simpa using hc)) (hloop _)

lemma resetPwrSaveIf_moves (s : NatSys) (ip : UInt32) :
    NatMoves (.resetPwrSaveIf ip) s (s.resetPwrSaveIf ip).2 := by
  unfold resetPwrSaveIf
  by_cases hip : ip = 0
  · rw [if_pos hip]
  rw [if_neg hip]
  refine (clearPwrSaveIf_moves (Or.inl rfl) hip s).trans (NatMoves.slots fun k t hk => ?_)
  unfold pwrResetEntry
  by_cases hoff : (t.app.cache k).privateIp = ip ∧ (t.app.cache k).enabled = false
  · rw [if_pos hoff]
    exact reinstall_moves ⟨hip, hoff.1, hoff.2⟩ ⟨hip, hoff.1, hoff.2⟩
      (fun hon => by rw [hoff.2] at hon; simp at hon) hk
  · rw [if_neg hoff]

lemma delEntriesOnClntDiscon_moves (s : NatSys) (ip : UInt32) :
    NatMoves (.delEntriesOnClntDiscon ip) s (s.delEntriesOnClntDiscon ip).2 := by
  unfold delEntriesOnClntDiscon
  by_cases hip : ip = 0
  · rw [if_pos hip]
  rw [if_neg hip]
  refine (clearPwrSaveIf_moves (Or.inr rfl) hip s).trans (NatMoves.slots fun k t hk => ?_)
  unfold clntDisconEntry
  by_cases hon : (t.app.cache k).privateIp = ip ∧ (t.app.cache k).enabled
  · rw [if_pos hon]
    exact disableEntry_moves ⟨hip, hon.1⟩ hk hon.2
  · rw [if_neg hon]

lemma delEntriesOnSTAClntDiscon_moves (s : NatSys) (ip : UInt32) :
    NatMoves (.delEntriesOnSTAClntDiscon ip) s (s.delEntriesOnSTAClntDiscon ip).2 := by
  unfold delEntriesOnSTAClntDiscon
  by_cases hip : ip = 0
  · rw [if_pos hip]
  rw [if_neg hip]
  refine NatMoves.slots fun k t hk => ?_
  unfold staDisconEntry
  by_cases htgt : (t.app.cache k).targetIp = ip
  · rw [if_pos htgt]
    by_cases hon : (t.app.cache k).enabled = true
    · rw [if_pos hon]
      rcases t.ipa.ipaNatDelIpv4Rule_cases t.app.natTableHdl (t.app.cache k).ruleHdl with
        ⟨rep, h⟩ | ⟨-, -, hin, rep, h⟩
      · rw [h]
        exact .replies t rep
      · rw [h]
        have hforget : (NatOp.delEntriesOnSTAClntDiscon ip).Forgets t k := ⟨hip, htgt⟩
        exact (NatMove.remove hforget hk hon hin).andReplies rep
    · rw [if_neg hon]
      exact .single (.forget ⟨hip, htgt⟩ hk (by simpa using hon))
  · rw [if_neg htgt]

lemma addTempEntry_moves (s : NatSys) (newEntry : NatTableEntry) :
    NatMoves op s (s.addTempEntry newEntry) := by
  unfold addTempEntry
  split_ifs
  · exact .refl
  · exact .refl
  · exact .refl
  · split
    · exact .refl
    · exact .setTemp s _ _

lemma deleteTempEntry_moves (s : NatSys) (entry : NatTableEntry) :
    NatMoves op s (s.deleteTempEntry entry) := by
  unfold deleteTempEntry
  split
  · exact .refl
  · exact .setTemp s _ _

lemma flushEntry_moves (s : NatSys) (ip : UInt32) (isAdd isDummy : Bool) (k : ℕ) :
    NatMoves (.flushTempEntries ip isAdd isDummy) s (s.flushEntry ip isAdd isDummy k) := by
  unfold flushEntry
  by_cases htouch : (s.app.temp k).privateIp = ip ∨ (s.app.temp k).targetIp = ip
  · rw [if_pos htouch]
    by_cases hadd : isAdd = true ∧ (s.app.temp k).publicIp = s.app.pubIpAddr
    · rw [if_pos hadd]
      have hflush : ∀ u : NatSys, NatMoves (.flushTempEntries ip isAdd isDummy) s u →
          NatMoves (.flushTempEntries ip isAdd isDummy) s
            (if (u.addEntry (u.app.temp k)).1 ≠ 0 then (u.addEntry (u.app.temp k)).2
            else { (u.addEntry (u.app.temp k)).2 with
              app := (u.addEntry (u.app.temp k)).2.app.setTemp k {} }) :=
        fun u hu => by
          have hadd' := addEntry_moves (.flushTempEntries ip isAdd isDummy)
            (fun _ => hadd.1) u (u.app.temp k)
          split_ifs
          · exact hu.trans hadd'
          · exact (hu.trans hadd').trans (NatMoves.setTemp _ _ _)
      cases isDummy with
      | false => exact hflush s .refl
      | true => exact hflush _ (.setTemp s _ _)
    · rw [if_neg hadd]
      exact .setTemp s _ _
  · rw [if_neg htouch]

lemma flushTempEntries_moves (s : NatSys) (ip : UInt32) (isAdd isDummy : Bool) :
    NatMoves (.flushTempEntries ip isAdd isDummy) s (s.flushTempEntries ip isAdd isDummy) :=
  NatMoves.loop fun k t _ => t.flushEntry_moves ip isAdd isDummy k

end NatSys

/-- **A call is a sequence of moves.** -/
theorem NatOp.moves (s : NatSys) (op : NatOp) : NatMoves op s (op.call s).2 := by
  cases op <;> simp only [NatOp.call]
  case addTable pubIp => exact s.addTable_moves pubIp
  case deleteTable pubIp => exact s.deleteTable_moves pubIp
  case addEntry rule => exact NatSys.addEntry_moves (.addEntry rule) (fun _ => trivial) s rule
  case deleteEntry rule => exact s.deleteEntry_moves rule
  case cacheEntry rule => exact s.cacheEntry_moves rule
  case updateUDPTimeStamp touInstance => exact s.updateUDPTimeStamp_moves touInstance
  case updatePwrSaveIf ip => exact s.updatePwrSaveIf_moves ip
  case resetPwrSaveIf ip => exact s.resetPwrSaveIf_moves ip
  case delEntriesOnClntDiscon ip => exact s.delEntriesOnClntDiscon_moves ip
  case delEntriesOnSTAClntDiscon ip => exact s.delEntriesOnSTAClntDiscon_moves ip
  case addTempEntry rule => exact s.addTempEntry_moves rule
  case deleteTempEntry rule => exact s.deleteTempEntry_moves rule
  case flushTempEntries ip isAdd isDummy => exact s.flushTempEntries_moves ip isAdd isDummy

/-- What every move keeps is kept by moves one after another. -/
theorem NatMoves.preserves {P : NatSys → Prop} (hm : NatMoves op s t) (h0 : P s)
    (h : ∀ t u, P t → NatMove op t u → P u) : P t := by
  induction hm with
  | refl => exact h0
  | tail _ hmove ih => exact h _ _ ih hmove

/-- **The rule of calls**: what every move of a call keeps is kept by the call. -/
theorem NatOp.preserves {P : NatSys → Prop} (h0 : P s)
    (h : ∀ t u, P t → NatMove op t u → P u) : P (op.call s).2 :=
  (NatOp.moves s op).preserves h0 h

lemma NatOp.step_maxEntries (h : op.Step s t) : t.app.maxEntries = s.app.maxEntries := by
  obtain rfl := h
  exact (NatOp.moves s op).maxEntries

end Moves

end Ipacm
