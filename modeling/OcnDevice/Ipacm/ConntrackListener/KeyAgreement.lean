import OcnDevice.Ipacm.ConntrackListener.Model
import OcnDevice.Ipacm.NatApp.CacheSet

/-!
# The key of a deletion

The rule that a message deletes is not remembered but made from the message again, with the tables
and the WAN address of the time.  So it may have another key than the one that an earlier message of
the connection added, and then the entry stays.

To say which entries a connection has, a run keeps with each connection the rules of its entries
(`CtOp.MadeStep`).  A rule is either the one that `PopulateTCPorUDPEntry` makes or its dummy
(`NfConntrack.Origin`), and the deletion has the same key when the message is still handled, for the
same kind of NAT, and a dummy rule is made of it just if the entry is one (`CtMsg.Agrees`).
-/

namespace Ipacm

/-! ## The entries of a connection -/

/-- There is an entry with the five fields of the rule, in the cache or among the temporary ones. -/
def NatSys.Present (s : NatSys) (rule : NatTableEntry) : Prop :=
  (∃ k < s.app.maxEntries, (s.app.cache k).conn = rule.conn) ∨
    ∃ k < maxTempEntries, (s.app.temp k).conn = rule.conn

/-- The message reports a new TCP or UDP connection. -/
def CtMsg.Adds (msg : CtMsg) : Prop :=
  (msg.ct.origL4proto = ipprotoUdp ∨ msg.ct.origL4proto = ipprotoTcp) ∧
    ((msg.ct.replL4proto = ipprotoTcp ∧ msg.tcpState = tcpConntrackEstablished) ∨
      (msg.ct.replL4proto = ipprotoUdp ∧ msg.type = .new))

/-- The message reports the end of a connection. -/
def CtMsg.Deletes (msg : CtMsg) : Prop :=
  msg.type = .destroy ∨ (msg.ct.replL4proto = ipprotoTcp ∧ msg.tcpState = tcpConntrackFinWait)

/-- The call is a message of the connection that adds the rule. -/
def CtOp.Makes (s : CtSys) (ct : NfConntrack) (rule : NatTableEntry) : CtOp → Prop
  | .ctMessage env msg =>
      msg.ct = ct ∧ msg.Adds ∧ ∃ isTempEntry, s.ruleOfMsg env ct = some (rule, isTempEntry)
  | _ => False

/-- The call makes a dummy rule of a temporary entry. -/
def CtOp.Rewrites (s : CtSys) (old rule : NatTableEntry) : CtOp → Prop
  | .nonNatIPAddr env data true =>
      s.list.isStaMode = false ∧ (CtSys.checkNatIface env data).2 = false ∧
        (CtSys.checkNatIface env data).1 = 0 ∧
        (∃ cnt < maxIfaceAddress, s.list.nonnatIfaceIpv4Addr cnt = 0) ∧
        (old.privateIp = data.ipv4Addr ∨ old.targetIp = data.ipv4Addr) ∧
        (∃ k < maxTempEntries, s.nat.app.temp k = old) ∧ rule = NatSys.dummyOf old
  | _ => False

/-- The state behind a call, with the rules of the entries that each connection has. -/
def CtOp.made (x : CtSys × (NfConntrack → Set NatTableEntry)) (op : CtOp) :
    CtSys × (NfConntrack → Set NatTableEntry) :=
  (op.call x.1, fun ct => {rule | (op.call x.1).nat.Present rule ∧
    (rule ∈ x.2 ct ∨ op.Makes x.1 ct rule ∨ ∃ old ∈ x.2 ct, op.Rewrites x.1 old rule)})

/-- **A call, with the rules of the entries that each connection has.** -/
def CtOp.MadeStep (x : CtSys × (NfConntrack → Set NatTableEntry)) (op : CtOp)
    (y : CtSys × (NfConntrack → Set NatTableEntry)) : Prop :=
  op.made x = y

/-! ## The rules of a connection -/

/-- The rule of a connection, for one kind of NAT, before `AddIface` has looked at it. -/
def NfConntrack.rule (ct : NfConntrack) (dstNat : Bool) (wanIpaddr : UInt32) : NatTableEntry :=
  { CtSys.populateTCPorUDPEntry ct dstNat { protocol := ct.replL4proto } with
    publicIp := wanIpaddr }

/-- **Where the rule of an entry comes from.** -/
structure NfConntrack.Origin (ct : NfConntrack) (rule : NatTableEntry) : Prop where
  shape : ∃ dstNat wan, rule = NatSys.dummyOf (ct.rule dstNat wan) ∨
    rule = ct.rule dstNat wan ∧ rule.privateIp ≠ rule.publicIp
  orig : ct.origL4proto = ipprotoUdp ∨ ct.origL4proto = ipprotoTcp
  repl : ct.replL4proto = ipprotoTcp ∨ ct.replL4proto = ipprotoUdp

/-- `AddIface` lets the rule pass because of the passthrough mode. -/
def CtEnv.Passes (env : CtEnv) (rule : NatTableEntry) : Prop :=
  env.ipPassthroughMode = true ∧ rule.privateIp = env.wanIp

/-- **The connection is handled**: it is one of the device itself, outside STA mode, or `AddIface`
accepts it. -/
def CtSys.Handles (env : CtEnv) (s : CtSys) (rule : NatTableEntry) : Prop :=
  if rule.privateIp = s.list.wanIpaddr then s.list.isStaMode = false
  else env.Passes rule ∨ s.matchesNat rule = true ∨
    (s.list.isStaMode = false ∧ s.matchesNonnat rule = true) ∨
    env.isPrivateSubnet rule.privateIp = true ∨ env.isPrivateSubnet rule.targetIp = true

/-- **A dummy rule is made**: the connection is one of the device itself, or only the table of the
interfaces without NAT matches. -/
def CtSys.Dummies (env : CtEnv) (s : CtSys) (rule : NatTableEntry) : Prop :=
  rule.privateIp = s.list.wanIpaddr ∨
    (¬ env.Passes rule ∧ s.matchesNat rule = false ∧ s.list.isStaMode = false ∧
      s.matchesNonnat rule = true)

instance (env : CtEnv) (rule : NatTableEntry) : Decidable (env.Passes rule) := by
  unfold CtEnv.Passes
  infer_instance

instance (env : CtEnv) (s : CtSys) (rule : NatTableEntry) : Decidable (s.Handles env rule) := by
  unfold CtSys.Handles
  infer_instance

instance (env : CtEnv) (s : CtSys) (rule : NatTableEntry) : Decidable (s.Dummies env rule) := by
  unfold CtSys.Dummies
  infer_instance

/-- **The message is treated as the entry was**: it is not a message of an established TCP
connection, it is still taken for the same kind of NAT, it is handled, a dummy rule is made of it just
if the entry is one, which is one of the same WAN address, and there is no second temporary entry with
the five fields. -/
structure CtMsg.Agrees (env : CtEnv) (s : CtSys) (msg : CtMsg) (entry : NatTableEntry) : Prop where
  state : ¬ (msg.ct.replL4proto = ipprotoTcp ∧ msg.tcpState = tcpConntrackEstablished)
  status : s.natStatus msg.ct = some entry.dstNat
  handled : s.Handles env (msg.ct.rule entry.dstNat s.list.wanIpaddr)
  dummy : s.Dummies env (msg.ct.rule entry.dstNat s.list.wanIpaddr) →
    entry.privateIp = entry.publicIp ∧ entry.publicIp = s.list.wanIpaddr
  plain : ¬ s.Dummies env (msg.ct.rule entry.dstNat s.list.wanIpaddr) →
    entry.privateIp ≠ entry.publicIp
  once : ∀ j < maxTempEntries, ∀ k < maxTempEntries, (s.nat.app.temp j).conn = entry.conn →
    (s.nat.app.temp k).conn = entry.conn → j = k

section Lemmas

variable {s s' : CtSys} {env : CtEnv} {msg : CtMsg} {ct : NfConntrack} {rule : NatTableEntry}
  {d t : Bool} {w : UInt32} {op : CtOp} {x y : CtSys × (NfConntrack → Set NatTableEntry)}
  {u : NatSys}

/-! ### The rule of a message -/

lemma CtSys.ruleOfMsg_eq (hd : s.natStatus ct = some d) :
    s.ruleOfMsg env ct =
      (if (ct.rule d s.list.wanIpaddr).privateIp ≠ s.list.wanIpaddr then
        s.addIface env (ct.rule d s.list.wanIpaddr)
      else if s.list.isStaMode then none
      else some ({ ct.rule d s.list.wanIpaddr with
        privatePort := (ct.rule d s.list.wanIpaddr).publicPort }, false)).map
        fun r => (r.1, s.checkSTAClient r.1 r.2) := by
  unfold CtSys.ruleOfMsg
  rw [hd]
  rfl

/-- A connection of the device itself gets its dummy rule. -/
lemma NatSys.dummyOf_embedded {e : NatTableEntry} (h : e.privateIp = e.publicIp) :
    { e with privatePort := e.publicPort } = NatSys.dummyOf e := by
  cases e
  simp only at h
  simp [NatSys.dummyOf, h]

/-- **The rule of a message is the one of the connection or its dummy.** -/
lemma CtSys.ruleOfMsg_origin (h : s.ruleOfMsg env ct = some (rule, t)) :
    ∃ dstNat wan, rule = NatSys.dummyOf (ct.rule dstNat wan) ∨
      rule = ct.rule dstNat wan ∧ rule.privateIp ≠ rule.publicIp := by
  cases hd : s.natStatus ct with
  | none =>
      unfold CtSys.ruleOfMsg at h
      rw [hd] at h
      simp at h
  | some d =>
      rw [CtSys.ruleOfMsg_eq hd] at h
      obtain ⟨⟨rule', t'⟩, hres, heq⟩ := Option.map_eq_some_iff.mp h
      obtain ⟨rfl, -⟩ := Prod.ext_iff.mp heq
      refine ⟨d, s.list.wanIpaddr, ?_⟩
      by_cases hpriv : (ct.rule d s.list.wanIpaddr).privateIp ≠ s.list.wanIpaddr
      · rw [if_pos hpriv] at hres
        unfold CtSys.addIface at hres
        split_ifs at hres
        all_goals obtain ⟨rfl, -⟩ := Prod.ext_iff.mp (Option.some.inj hres)
        · exact Or.inr ⟨rfl, hpriv⟩
        · exact Or.inr ⟨rfl, hpriv⟩
        · exact Or.inl rfl
        · exact Or.inr ⟨rfl, hpriv⟩
      · rw [if_neg hpriv] at hres
        split_ifs at hres
        obtain ⟨rfl, -⟩ := Prod.ext_iff.mp (Option.some.inj hres)
        exact Or.inl (NatSys.dummyOf_embedded (not_not.mp hpriv))

/-- A dummy rule is made of a message that is handled. -/
lemma CtSys.ruleOfMsg_dummy (hd : s.natStatus ct = some d)
    (hh : s.Handles env (ct.rule d s.list.wanIpaddr))
    (hdummy : s.Dummies env (ct.rule d s.list.wanIpaddr)) :
    ∃ t, s.ruleOfMsg env ct = some (NatSys.dummyOf (ct.rule d s.list.wanIpaddr), t) := by
  rw [CtSys.ruleOfMsg_eq hd]
  by_cases hpriv : (ct.rule d s.list.wanIpaddr).privateIp = s.list.wanIpaddr
  · rw [CtSys.Handles, if_pos hpriv] at hh
    rw [if_neg (not_not.mpr hpriv), hh, NatSys.dummyOf_embedded hpriv]
    exact ⟨_, rfl⟩
  · obtain ⟨hpass, hnat, hsta, hnonnat⟩ := hdummy.resolve_left hpriv
    have hpass' : ¬ (env.ipPassthroughMode = true ∧
        (ct.rule d s.list.wanIpaddr).privateIp = env.wanIp) := hpass
    rw [if_pos hpriv, CtSys.addIface, if_neg hpass', if_neg (by simp [hnat]),
      if_pos ⟨hsta, hnonnat⟩]
    exact ⟨_, rfl⟩

/-- The rule of the connection is kept of a message that is handled. -/
lemma CtSys.ruleOfMsg_plain (hd : s.natStatus ct = some d)
    (hh : s.Handles env (ct.rule d s.list.wanIpaddr))
    (hplain : ¬ s.Dummies env (ct.rule d s.list.wanIpaddr)) :
    ∃ t, s.ruleOfMsg env ct = some (ct.rule d s.list.wanIpaddr, t) := by
  rw [CtSys.ruleOfMsg_eq hd]
  obtain ⟨hpriv, hno⟩ := not_or.mp hplain
  rw [CtSys.Handles, if_neg hpriv] at hh
  rw [if_pos hpriv, CtSys.addIface]
  by_cases hpass : env.ipPassthroughMode = true ∧
      (ct.rule d s.list.wanIpaddr).privateIp = env.wanIp
  · rw [if_pos hpass]
    exact ⟨_, rfl⟩
  rw [if_neg hpass]
  by_cases hnat : s.matchesNat (ct.rule d s.list.wanIpaddr) = true
  · rw [if_pos hnat]
    exact ⟨_, rfl⟩
  rw [if_neg hnat]
  have hnonnat : ¬ (s.list.isStaMode = false ∧
      s.matchesNonnat (ct.rule d s.list.wanIpaddr) = true) := fun h =>
    hno ⟨hpass, by simpa using hnat, h⟩
  rw [if_neg hnonnat, if_pos ((((hh.resolve_left hpass).resolve_left hnat).resolve_left hnonnat))]
  exact ⟨_, rfl⟩

/-! ### The entries of a run -/

/-- **The entries of a connection** all come from its rule. -/
lemma CtOp.MadeStep.origin (H : ∀ ct, ∀ r ∈ x.2 ct, ct.Origin r) (hst : CtOp.MadeStep x op y) :
    ∀ ct, ∀ r ∈ y.2 ct, ct.Origin r := by
  obtain rfl := hst
  rintro ct r ⟨-, hold | hmake | ⟨old, hmem, hrew⟩⟩
  · exact H ct r hold
  · cases op with
    | ctMessage env msg =>
        obtain ⟨rfl, ⟨horig, hkind⟩, t, hrule⟩ := hmake
        exact ⟨CtSys.ruleOfMsg_origin hrule, horig, hkind.imp And.left And.left⟩
    | _ => exact hmake.elim
  · cases op with
    | nonNatIPAddr env data addOp =>
        cases addOp with
        | false => exact hrew.elim
        | true =>
            obtain ⟨-, -, -, -, -, -, rfl⟩ := hrew
            obtain ⟨⟨d, w, hshape⟩, horig, hrepl⟩ := H ct old hmem
            refine ⟨⟨d, w, Or.inl ?_⟩, horig, hrepl⟩
            rcases hshape with rfl | ⟨rfl, -⟩ <;> rfl
    | _ => exact hrew.elim

/-- A call of the listener is made of calls of NatApp. -/
lemma CtOp.preserves {P : NatSys → Prop} (hP : ∀ u o, P u → P (NatOp.call u o).2) (h : P s.nat)
    (op : CtOp) : P (op.call s).nat := by
  have hflush : ∀ u ip isAdd isDummy, P u → P (u.flushTempEntries ip isAdd isDummy) :=
    fun u ip isAdd isDummy hu => by
      simpa only [NatOp.call] using hP u (.flushTempEntries ip isAdd isDummy) hu
  have hdown : ∀ {u : CtSys} {w : UInt32}, P u.nat → P (u.triggerWANDown w).nat := by
    intro u w hu
    have := hP u.nat (.deleteTable w) hu
    unfold CtSys.triggerWANDown
    simp only
    split_ifs <;> exact this
  have hadd : ∀ {rule : NatTableEntry} {t : Bool}, P (s.addNatEntry rule t).nat := by
    intro rule t
    unfold CtSys.addNatEntry
    split_ifs
    · exact hP _ (.cacheEntry rule) h
    · exact hP _ (.addTempEntry rule) h
    · exact hP _ (.addEntry rule) h
  have hdelete : ∀ {rule : NatTableEntry}, P (s.deleteNatEntry rule).nat := fun {rule} =>
    hP _ (.deleteTempEntry rule) (hP _ (.deleteEntry rule) h)
  cases op with
  | ctMessage env msg =>
      change P (s.processCTMessage env msg).nat
      unfold CtSys.processCTMessage
      split_ifs
      · exact h
      · unfold CtSys.processTCPorUDPMsg
        cases s.ruleOfMsg env msg.ct with
        | none => exact h
        | some r =>
            change P (s.addORDeleteNatEntry msg r.1 r.2).nat
            unfold CtSys.addORDeleteNatEntry
            split_ifs
            · exact hadd
            · exact hdelete
            · exact h
            · cases msg.type with
              | new => exact hadd
              | destroy => exact hdelete
              | update => exact h
            · exact h
  | neighIpAddrAdd env data =>
      change P (s.handleNeighIpAddrAddEvt env data).nat
      unfold CtSys.handleNeighIpAddrAddEvt
      split_ifs
      · split
        · exact h
        · dsimp only
          exact hflush _ _ _ _ (hP _ (.resetPwrSaveIf _) h)
      · exact h
  | neighIpAddrDel ipv4Addr =>
      change P (s.handleNeighIpAddrDelEvt ipv4Addr).nat
      unfold CtSys.handleNeighIpAddrDelEvt
      split_ifs
      · exact h
      · refine forUpTo_preserves (P := fun t : CtSys => P t.nat) h fun i t _ ht => ?_
        unfold CtSys.neighDelEntry
        split_ifs
        · exact hP _ (.delEntriesOnClntDiscon _) (hflush _ _ _ _ ht)
        · exact ht
  | nonNatIPAddr env data addOp =>
      change P (s.handleNonNatIPAddr env data addOp).nat
      unfold CtSys.handleNonNatIPAddr
      split_ifs
      · exact h
      · split
        · exact h
        · dsimp only
          exact hflush _ _ _ _ h
      · exact h
      · split
        · exact h
        · exact hP _ (.delEntriesOnClntDiscon _) (hflush _ _ _ _ h)
  | staClientAdd clntIpAddr =>
      change P (s.handleSTAClientAddEvt clntIpAddr).nat
      unfold CtSys.handleSTAClientAddEvt
      split_ifs
      · exact h
      · dsimp only
        exact hflush _ _ _ _ h
  | staClientDel clntIpAddr =>
      change P (s.handleSTAClientDelEvt clntIpAddr).nat
      unfold CtSys.handleSTAClientDelEvt
      split
      · dsimp only
        exact hflush _ _ _ _ h
      · dsimp only
        exact hflush _ _ _ _ (hP _ (.delEntriesOnSTAClntDiscon _) h)
  | wanUp ipv4Addr isSta =>
      change P (s.triggerWANUp ipv4Addr isSta).nat
      unfold CtSys.triggerWANUp
      split_ifs
      · exact h
      · exact h
      · exact hP _ (.addTable ipv4Addr) (hdown h)
      · exact hP _ (.addTable ipv4Addr) h
  | wanDown ipv4Addr =>
      change P (if s.list.wanUp then s.triggerWANDown ipv4Addr else s).nat
      split_ifs
      · exact hdown h
      · exact h

/-! ### The deletion -/

/-- **`DeleteEntry` leaves no slot** with the five fields, and the temporary entries as they are. -/
lemma NatSys.deleteEntry_absent (H : SlotsOk u.app) (hne : rule.conn ≠ {}) :
    (∀ k < (u.deleteEntry rule).2.app.maxEntries,
        ((u.deleteEntry rule).2.app.cache k).conn ≠ rule.conn) ∧
      (u.deleteEntry rule).2.app.temp = u.app.temp := by
  unfold NatSys.deleteEntry
  cases hidx : firstIdx u.app.maxEntries fun cnt => (u.app.cache cnt).conn = rule.conn with
  | none =>
      refine ⟨fun k hk hconn => ?_, rfl⟩
      have := firstIdx_eq_none.mp hidx k hk
      simp only [decide_eq_false_iff_not] at this
      exact this hconn
  | some cnt =>
      obtain ⟨hcnt, hconn, -⟩ := firstIdx_eq_some.mp hidx
      simp only [decide_eq_true_eq] at hconn
      have hwipe : ∀ k < u.app.maxEntries, ((u.app.wipe cnt).cache k).conn ≠ rule.conn := by
        intro k hk heq
        by_cases hkc : k = cnt
        · rw [hkc, NatApp.wipe_cache_self] at heq
          exact hne heq.symm
        · rw [NatApp.wipe_cache_of_ne hkc] at heq
          exact hkc (H.distinct k hk cnt hcnt (heq ▸ hne) (heq.trans hconn.symm))
      simp only
      split_ifs <;> exact ⟨hwipe, rfl⟩

/-- **`DeleteTempEntry` leaves no temporary entry** with the five fields, if there was at most one,
and the cache as it is. -/
lemma NatSys.deleteTempEntry_absent (hne : rule.conn ≠ {})
    (honce : ∀ j < maxTempEntries, ∀ k < maxTempEntries, (u.app.temp j).conn = rule.conn →
      (u.app.temp k).conn = rule.conn → j = k) :
    (∀ k < maxTempEntries, ((u.deleteTempEntry rule).app.temp k).conn ≠ rule.conn) ∧
      (u.deleteTempEntry rule).app.cache = u.app.cache ∧
      (u.deleteTempEntry rule).app.maxEntries = u.app.maxEntries := by
  unfold NatSys.deleteTempEntry
  cases hidx : firstIdx maxTempEntries fun cnt => (u.app.temp cnt).conn = rule.conn with
  | none =>
      refine ⟨fun k hk hconn => ?_, rfl, rfl⟩
      have := firstIdx_eq_none.mp hidx k hk
      simp only [decide_eq_false_iff_not] at this
      exact this hconn
  | some cnt =>
      obtain ⟨hcnt, hconn, -⟩ := firstIdx_eq_some.mp hidx
      simp only [decide_eq_true_eq] at hconn
      refine ⟨fun k hk heq => ?_, rfl, rfl⟩
      change (Function.update u.app.temp cnt {} k).conn = rule.conn at heq
      by_cases hkc : k = cnt
      · rw [hkc, Function.update_self] at heq
        exact hne heq.symm
      · rw [Function.update_of_ne hkc] at heq
        exact hkc (honce k hk cnt hcnt heq hconn)

/-- Behind the deletion of a rule there is no entry with its five fields. -/
lemma CtSys.deleteNatEntry_absent (H : SlotsOk s.nat.app) (hne : rule.conn ≠ {})
    (honce : ∀ j < maxTempEntries, ∀ k < maxTempEntries, (s.nat.app.temp j).conn = rule.conn →
      (s.nat.app.temp k).conn = rule.conn → j = k) :
    ¬ (s.deleteNatEntry rule).nat.Present rule := by
  obtain ⟨hcache, htemp⟩ := NatSys.deleteEntry_absent H hne
  rw [← htemp] at honce
  obtain ⟨htemp', hcache', hmax⟩ := NatSys.deleteTempEntry_absent hne honce
  rintro (⟨k, hk, hconn⟩ | ⟨k, hk, hconn⟩)
  · change k < ((s.nat.deleteEntry rule).2.deleteTempEntry rule).app.maxEntries at hk
    change (((s.nat.deleteEntry rule).2.deleteTempEntry rule).app.cache k).conn = _ at hconn
    rw [hmax] at hk
    rw [hcache'] at hconn
    exact hcache k hk hconn
  · exact htemp' k hk hconn

/-- **The key agrees**: the rule of the message has the five fields of the entry. -/
lemma CtMsg.Agrees.conn_eq {entry : NatTableEntry} (h : msg.Agrees env s entry)
    (ho : msg.ct.Origin entry) :
    ∃ rule t, s.ruleOfMsg env msg.ct = some (rule, t) ∧ rule.conn = entry.conn ∧
      rule.protocol = msg.ct.replL4proto := by
  obtain ⟨d, w, hshape⟩ := ho.shape
  have hdst : entry.dstNat = d := by
    rcases hshape with rfl | ⟨rfl, -⟩ <;> cases d <;> rfl
  have hst := h.status
  have hh := h.handled
  have hdummy := h.dummy
  have hplain := h.plain
  rw [hdst] at hst hh hdummy hplain
  by_cases hd : s.Dummies env (msg.ct.rule d s.list.wanIpaddr)
  · obtain ⟨t, hrule⟩ := CtSys.ruleOfMsg_dummy hst hh hd
    obtain ⟨hpriv, hpub⟩ := hdummy hd
    refine ⟨_, t, hrule, ?_, by cases d <;> rfl⟩
    rcases hshape with rfl | ⟨-, hne⟩
    · have hw : w = s.list.wanIpaddr := hpub
      rw [hw]
    · exact absurd hpriv hne
  · obtain ⟨t, hrule⟩ := CtSys.ruleOfMsg_plain hst hh hd
    refine ⟨_, t, hrule, ?_, by cases d <;> rfl⟩
    rcases hshape with rfl | ⟨rfl, -⟩
    · exact absurd rfl (hplain hd)
    · rfl

/-- **A deletion that agrees with an entry deletes it.** -/
lemma CtMsg.Agrees.absent {entry : NatTableEntry} (h : msg.Agrees env s entry)
    (ho : msg.ct.Origin entry) (hdel : msg.Deletes) (H : SlotsOk s.nat.app) :
    ¬ (s.processCTMessage env msg).nat.Present entry := by
  obtain ⟨rule, t, hrule, hconn, hproto⟩ := h.conn_eq ho
  have hne : rule.conn ≠ {} := by
    intro hempty
    have hzero : rule.protocol = 0 := congrArg Conn.protocol hempty
    rw [hproto] at hzero
    rcases ho.repl with hp | hp <;> rw [hp] at hzero <;> exact absurd hzero (by decide)
  have hproc : s.processCTMessage env msg = s.deleteNatEntry rule := by
    have hno : ¬ (msg.ct.origL4proto ≠ ipprotoUdp ∧ msg.ct.origL4proto ≠ ipprotoTcp) := fun hc =>
      ho.orig.elim hc.1 hc.2
    unfold CtSys.processCTMessage CtSys.processTCPorUDPMsg
    rw [if_neg hno, hrule]
    simp only
    unfold CtSys.addORDeleteNatEntry
    rw [hproto]
    rcases ho.repl with hp | hp
    · have hstate : msg.tcpState ≠ tcpConntrackEstablished := fun he => h.state ⟨hp, he⟩
      rw [if_pos hp, if_neg hstate, if_pos (hdel.symm.imp And.right id)]
    · have htcp : msg.ct.replL4proto ≠ ipprotoTcp := by
        rw [hp]
        decide
      have htype : msg.type = .destroy := hdel.resolve_right fun hc => htcp hc.1
      rw [if_neg htcp, if_pos hp, htype]
  rw [hproc]
  have honce := h.once
  rw [← hconn] at honce
  have := CtSys.deleteNatEntry_absent H hne honce
  unfold NatSys.Present at this ⊢
  rwa [hconn] at this

end Lemmas

end Ipacm
