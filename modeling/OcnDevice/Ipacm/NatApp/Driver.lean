import OcnDevice.IpaNat.AddRule

/-!
# The NAT driver as NatApp sees it

NatApp calls the NAT driver and looks at nothing but the results.  What it relies on is little: a
table has a handle that is not zero, a rule that is added gets a handle that is not zero and that no
other rule of the table has, a delete that succeeds removes the rule of its handle, and a call that
fails changes nothing.  Which calls fail, and which handle an add picks, is up to the driver: it is
the list of replies of a state, of which each call uses up one.
-/

namespace Ipacm

open IpaNat (IpaNatIpv4Rule einval)

/-- What the driver decides about one call: whether it succeeds, and the handle it would give. -/
structure Reply where
  ok : Bool
  pick : ℕ
  deriving DecidableEq, Repr

/-- The NAT driver: the handle of its table, with zero for no table, the public address that the
table was created for, the rules of the table with their handles, and the replies to the calls to
come. -/
structure IpaDrv where
  tblHdl : ℕ
  publicIp : UInt32
  rules : List (ℕ × IpaNatIpv4Rule)
  replies : ℕ → Reply

namespace IpaDrv

variable (d : IpaDrv)

/-- Use up a reply. -/
def pop : IpaDrv := { d with replies := fun n => d.replies (n + 1) }

/-- The handles of the rules. -/
def hdls : List ℕ := d.rules.map Prod.fst

/-- A handle for a new rule: the one that the driver picks, if it is not in use. -/
def freshHdl : ℕ :=
  if (d.replies 0).pick + 1 ∈ d.hdls then d.hdls.foldr max 0 + 1 else (d.replies 0).pick + 1

/-- `ipa_nat_add_ipv4_tbl`, which returns its result and what it writes to `tbl_hdl`, if anything.
A new table takes the place of the one before. -/
def ipaNatAddIpv4Tbl (publicIp : UInt32) (numberOfEntries : ℕ) : ℤ × Option ℕ × IpaDrv :=
  if numberOfEntries % 2 ^ 16 = 0 then (einval, none, d)
  else if (d.replies 0).ok then
    (0, some ((d.replies 0).pick + 1),
      { d.pop with tblHdl := (d.replies 0).pick + 1, publicIp, rules := [] })
  else (einval, some 0, d.pop)

/-- `ipa_nat_del_ipv4_tbl`. -/
def ipaNatDelIpv4Tbl (tblHdl : ℕ) : ℤ × IpaDrv :=
  if tblHdl = 0 ∨ tblHdl ≠ d.tblHdl then (einval, d)
  else if (d.replies 0).ok then (0, { d.pop with tblHdl := 0, rules := [] })
  else (einval, d.pop)

/-- `ipa_nat_add_ipv4_rule`, which returns the handle that it writes to `rule_hdl`, or nothing if it
fails. -/
def ipaNatAddIpv4Rule (tblHdl : ℕ) (rule : IpaNatIpv4Rule) : Option ℕ × IpaDrv :=
  if tblHdl = 0 ∨ tblHdl ≠ d.tblHdl then (none, d)
  else if (d.replies 0).ok then
    (some d.freshHdl, { d.pop with rules := (d.freshHdl, rule) :: d.rules })
  else (none, d.pop)

/-- `ipa_nat_del_ipv4_rule`, which returns whether it succeeds. -/
def ipaNatDelIpv4Rule (tblHdl ruleHdl : ℕ) : Bool × IpaDrv :=
  if tblHdl = 0 ∨ tblHdl ≠ d.tblHdl ∨ ruleHdl ∉ d.hdls then (false, d)
  else if (d.replies 0).ok then
    (true, { d.pop with rules := d.rules.filter fun r => r.1 ≠ ruleHdl })
  else (false, d.pop)

/-- `ipa_nat_query_timestamp`. -/
def ipaNatQueryTimestamp (tblHdl ruleHdl : ℕ) : Option UInt32 × IpaDrv :=
  if tblHdl = 0 ∨ tblHdl ≠ d.tblHdl ∨ ruleHdl ∉ d.hdls then (none, d)
  else if (d.replies 0).ok then (some (UInt32.ofNat (d.replies 0).pick), d.pop)
  else (none, d.pop)

variable {d}

/-- The handle of a new rule is not zero and not in use. -/
lemma freshHdl_spec : d.freshHdl ≠ 0 ∧ d.freshHdl ∉ d.hdls := by
  have hle : ∀ l : List ℕ, ∀ h ∈ l, h ≤ l.foldr max 0 := fun l => by
    induction l with
    | nil => simp
    | cons a l ih =>
        intro h hh
        rcases List.mem_cons.mp hh with rfl | hh
        · exact le_max_left _ _
        · exact (ih h hh).trans (le_max_right _ _)
  unfold freshHdl
  split_ifs with hin
  · exact ⟨Nat.succ_ne_zero _, fun h => absurd (hle _ _ h) (by simp)⟩
  · exact ⟨Nat.succ_ne_zero _, hin⟩

/-- **An add** fails and changes nothing, or the rule gets a fresh handle of the table. -/
lemma ipaNatAddIpv4Rule_cases (tblHdl : ℕ) (rule : IpaNatIpv4Rule) :
    (∃ replies, d.ipaNatAddIpv4Rule tblHdl rule = (none, { d with replies })) ∨
      (tblHdl ≠ 0 ∧ tblHdl = d.tblHdl ∧ ∃ hdl replies, hdl ≠ 0 ∧ hdl ∉ d.hdls ∧
        d.ipaNatAddIpv4Rule tblHdl rule =
          (some hdl, { d with rules := (hdl, rule) :: d.rules, replies })) := by
  unfold ipaNatAddIpv4Rule
  split_ifs with htbl hok
  · exact Or.inl ⟨_, rfl⟩
  · obtain ⟨h0, h1⟩ := not_or.mp htbl
    exact Or.inr ⟨h0, not_not.mp h1, _, _, freshHdl_spec.1, freshHdl_spec.2, rfl⟩
  · exact Or.inl ⟨_, rfl⟩

/-- **A delete** fails and changes nothing, or removes the rule of its handle. -/
lemma ipaNatDelIpv4Rule_cases (tblHdl ruleHdl : ℕ) :
    (∃ replies, d.ipaNatDelIpv4Rule tblHdl ruleHdl = (false, { d with replies })) ∨
      (tblHdl ≠ 0 ∧ tblHdl = d.tblHdl ∧ ruleHdl ∈ d.hdls ∧ ∃ replies,
        d.ipaNatDelIpv4Rule tblHdl ruleHdl =
          (true, { d with rules := d.rules.filter fun r => r.1 ≠ ruleHdl, replies })) := by
  unfold ipaNatDelIpv4Rule
  split_ifs with htbl hok
  · exact Or.inl ⟨_, rfl⟩
  · obtain ⟨h0, h1, h2⟩ : tblHdl ≠ 0 ∧ tblHdl = d.tblHdl ∧ ruleHdl ∈ d.hdls := by tauto
    exact Or.inr ⟨h0, h1, h2, _, rfl⟩
  · exact Or.inl ⟨_, rfl⟩

/-- A delete of a rule of the table succeeds if the driver says so. -/
lemma ipaNatDelIpv4Rule_of_ok {tblHdl ruleHdl : ℕ} (h0 : tblHdl ≠ 0) (htbl : tblHdl = d.tblHdl)
    (hin : ruleHdl ∈ d.hdls) (hok : (d.replies 0).ok = true) :
    d.ipaNatDelIpv4Rule tblHdl ruleHdl =
      (true, { d.pop with rules := d.rules.filter fun r => r.1 ≠ ruleHdl }) := by
  unfold ipaNatDelIpv4Rule
  rw [if_neg (by tauto), if_pos hok]

/-- A query changes nothing. -/
lemma ipaNatQueryTimestamp_snd (tblHdl ruleHdl : ℕ) :
    ∃ replies, (d.ipaNatQueryTimestamp tblHdl ruleHdl).2 = { d with replies } := by
  unfold ipaNatQueryTimestamp
  split_ifs <;> exact ⟨_, rfl⟩

end IpaDrv

end Ipacm
