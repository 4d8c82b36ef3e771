import OcnDevice.Ipacm.LanToLan.Model

/-!
# What the records hold

The handles in a record name rules in the driver.  `FltRuleInfo.held`, `PeerIfaceInfo.held` and
`ClientInfo.held` are those rules with their handles, and every operation on one record comes with what
it does to them, for whatever the bank of the driver holds for others.

Which handles a record has is said by a predicate: `FltOk D l` for a list of filter rules that has a
rule for the client `c` and the family `ip` exactly when `D c ip`, and `RtOk T I x` for a client that has
routing rules for the L2 type `t` exactly when `T t`, and rules within its interface when `I`.
-/

namespace Ipacm

lemma sum_ipType {M : Type*} [AddCommMonoid M] (g : IpType → M) : ∑ ip, g ip = g .v4 + g .v6 := by
  show ∑ ip ∈ ({.v4, .v6} : Finset IpType), g ip = _
  rw [Finset.sum_pair (by decide)]

section DeleteHdl

variable {α : Type*} {b : Bank α} {F : Multiset (ℕ × α)} {h : ℕ} {a : α} {hs : List ℕ} {rule : ℕ → α}

lemma deleteHdl_of_ne (hh : h ≠ 0) : deleteHdl b h = b.remove h := if_neg hh

/-- A handle that may be zero is deleted. -/
lemma deleteHdl_holds (hb : b.Holds (F + if h = 0 then 0 else {(h, a)})) :
    (deleteHdl b h).Holds F := by
  rw [deleteHdl]
  split_ifs at hb ⊢ with hz
  · rwa [add_zero] at hb
  · exact hb.remove

/-- The handles of an array are deleted. -/
lemma foldl_deleteHdl_holds (hb : b.Holds (F + Bank.held rule hs)) :
    (hs.foldl deleteHdl b).Holds F := by
  have heq : ∀ c : Bank α, (∀ h ∈ hs, h ≠ 0) → hs.foldl deleteHdl c = hs.foldl Bank.remove c := by
    clear hb
    induction hs with
    | nil => exact fun _ _ => rfl
    | cons h hs ih =>
        intro c hne
        rw [List.foldl_cons, List.foldl_cons, deleteHdl_of_ne (hne h List.mem_cons_self)]
        exact ih _ fun k hk => hne k (List.mem_cons_of_mem _ hk)
  rw [heq b hb.ne_zero_of_held]
  exact hb.removeAll

end DeleteHdl

/-! ## Filter rules -/

namespace FltRuleInfo

variable {rule : IpType → EthFltRule} {f : FltRuleInfo} {ip : IpType} {h : ℕ}
  {assigned : IpType → Bool} {b : Bank EthFltRule} {F : Multiset (ℕ × EthFltRule)}

/-- The rules of an entry. -/
def held (rule : IpType → EthFltRule) (f : FltRuleInfo) : Multiset (ℕ × EthFltRule) :=
  ∑ ip, if f.fltRuleHdl ip = 0 then 0 else {(f.fltRuleHdl ip, rule ip)}

variable (rule ip) in
lemma held_update (hz : f.fltRuleHdl ip = 0) (hh : h ≠ 0) :
    held rule { f with fltRuleHdl := Function.update f.fltRuleHdl ip h } =
      held rule f + {(h, rule ip)} := by
  rw [held, held, sum_ipType, sum_ipType]
  cases ip with
  | v4 => simp [hz, hh, add_comm]
  | v6 => simp [hz, hh]

lemma held_new (hh : h ≠ 0) {c : ℕ} :
    held rule ⟨c, Function.update (fun _ => 0) ip h⟩ = {(h, rule ip)} := by
  have hupd := held_update (f := ⟨c, fun _ => 0⟩) rule ip rfl hh
  have hzero : held rule ⟨c, fun _ => 0⟩ = 0 := by simp [held]
  rw [hzero, zero_add] at hupd
  exact hupd

variable (rule) in
/-- **The rules of an entry are deleted** when its handles are those of the assigned families. -/
lemma del_holds (hass : ∀ ip, f.fltRuleHdl ip ≠ 0 ↔ assigned ip = true)
    (hb : b.Holds (F + f.held rule)) : (delFltRuleInfo assigned f b).Holds F := by
  have hif : ∀ (ip : IpType) (c : Bank EthFltRule),
      (if assigned ip then deleteHdl c (f.fltRuleHdl ip) else c) =
        deleteHdl c (f.fltRuleHdl ip) := by
    intro ip c
    cases hip : assigned ip with
    | true => rfl
    | false =>
        have hz : f.fltRuleHdl ip = 0 := by
          by_contra hne
          exact absurd ((hass ip).mp hne) (by simp [hip])
        simp [deleteHdl, hz]
  rw [held, sum_ipType, add_comm (ite _ _ _), ← add_assoc] at hb
  rw [delFltRuleInfo, hif, hif]
  exact deleteHdl_holds (deleteHdl_holds hb)

end FltRuleInfo

/-- The list has rules for exactly the clients and families of `D`. -/
structure FltOk (D : ℕ → IpType → Prop) (l : List FltRuleInfo) : Prop where
  nodup : (l.map (·.pClient)).Nodup
  hdl : ∀ f ∈ l, ∀ ip, f.fltRuleHdl ip ≠ 0 ↔ D f.pClient ip
  used : ∀ f ∈ l, ∃ ip, D f.pClient ip
  mem : ∀ c ip, D c ip → ∃ f ∈ l, f.pClient = c

namespace FltOk

variable {D D' : ℕ → IpType → Prop} {l l₁ l₂ : List FltRuleInfo} {f : FltRuleInfo} {c h : ℕ}
  {ip : IpType}

lemma nil (hD : ∀ c ip, ¬ D c ip) : FltOk D [] where
  nodup := List.nodup_nil
  hdl := by simp
  used := by simp
  mem c ip h := absurd h (hD c ip)

lemma congr (H : FltOk D l) (hD : ∀ c ip, D c ip ↔ D' c ip) : FltOk D' l where
  nodup := H.nodup
  hdl f hf ip := (H.hdl f hf ip).trans (hD _ _)
  used f hf := (H.used f hf).imp fun ip => (hD _ ip).mp
  mem c ip h := H.mem c ip ((hD c ip).mpr h)

/-- The entry of a client stands alone. -/
lemma others (H : FltOk D (l₁ ++ f :: l₂)) : ∀ g, g ∈ l₁ ∨ g ∈ l₂ → g.pClient ≠ f.pClient := by
  intro g hg heq
  have hn := H.nodup
  rw [List.map_append, List.map_cons, List.nodup_middle, List.nodup_cons] at hn
  refine hn.1 (List.mem_append.mpr ?_)
  rcases hg with hg | hg
  · exact Or.inl (heq ▸ List.mem_map_of_mem hg)
  · exact Or.inr (heq ▸ List.mem_map_of_mem hg)

/-- A client that has an entry. -/
lemma split_mem (H : FltOk D l) (hc : hasFltRule c l = true) :
    ∃ l₁ f l₂, l = l₁ ++ f :: l₂ ∧ f.pClient = c ∧ ∀ g, g ∈ l₁ ∨ g ∈ l₂ → g.pClient ≠ c := by
  obtain ⟨f, hf, hfc⟩ := List.any_eq_true.mp hc
  obtain ⟨l₁, l₂, rfl⟩ := List.append_of_mem hf
  have hfc' : f.pClient = c := of_decide_eq_true hfc
  exact ⟨l₁, f, l₂, rfl, hfc', hfc' ▸ H.others⟩

/-- A client that has none. -/
lemma not_mem (hc : ¬ hasFltRule c l = true) : ∀ g ∈ l, g.pClient ≠ c := by
  intro g hg heq
  exact hc (List.any_eq_true.mpr ⟨g, hg, decide_eq_true heq⟩)

/-- **A rule is put into the entry of its client.** -/
lemma update (H : FltOk D (l₁ ++ f :: l₂)) (hh : h ≠ 0) :
    FltOk (fun c' ip' => D c' ip' ∨ (c' = f.pClient ∧ ip' = ip))
      (l₁ ++ { f with fltRuleHdl := Function.update f.fltRuleHdl ip h } :: l₂) where
  nodup := by simpa using H.nodup
  hdl g hg ip' := by
    rw [List.mem_append, List.mem_cons] at hg
    have hold : ∀ g, g ∈ l₁ ∨ g ∈ l₂ →
        (g.fltRuleHdl ip' ≠ 0 ↔ D g.pClient ip' ∨ (g.pClient = f.pClient ∧ ip' = ip)) := by
      intro g hg
      have hmem : g ∈ l₁ ++ f :: l₂ := by
        rcases hg with hg | hg <;> simp [hg]
      rw [H.hdl g hmem ip']
      simp [H.others g hg]
    rcases hg with hg | rfl | hg
    · exact hold g (Or.inl hg)
    · have hf := H.hdl f (by simp) ip'
      rcases eq_or_ne ip' ip with rfl | hne
      · simpa using hh
      · simpa [Function.update_of_ne hne, hne] using hf
    · exact hold g (Or.inr hg)
  used g hg := by
    rw [List.mem_append, List.mem_cons] at hg
    rcases hg with hg | rfl | hg
    · exact (H.used g (by simp [hg])).imp fun _ => Or.inl
    · exact ⟨ip, Or.inr ⟨rfl, rfl⟩⟩
    · exact (H.used g (by simp [hg])).imp fun _ => Or.inl
  mem c' ip' h' := by
    rcases h' with h' | ⟨rfl, -⟩
    · obtain ⟨g, hg, rfl⟩ := H.mem c' ip' h'
      rw [List.mem_append, List.mem_cons] at hg
      rcases hg with hg | rfl | hg
      · exact ⟨g, by simp [hg], rfl⟩
      · exact ⟨_, List.mem_append_right _ List.mem_cons_self, rfl⟩
      · exact ⟨g, by simp [hg], rfl⟩
    · exact ⟨_, List.mem_append_right _ List.mem_cons_self, rfl⟩

/-- **A rule gets an entry of its own.** -/
lemma push (H : FltOk D l) (hc : ∀ g ∈ l, g.pClient ≠ c) (hh : h ≠ 0) :
    FltOk (fun c' ip' => D c' ip' ∨ (c' = c ∧ ip' = ip))
      (⟨c, Function.update (fun _ => 0) ip h⟩ :: l) where
  nodup := by
    rw [List.map_cons, List.nodup_cons]
    refine ⟨fun hmem => ?_, H.nodup⟩
    obtain ⟨g, hg, hgc⟩ := List.mem_map.mp hmem
    exact hc g hg hgc
  hdl g hg ip' := by
    rcases List.mem_cons.mp hg with rfl | hg
    · have hD : ¬ D c ip' := by
        intro hD
        obtain ⟨g, hg, hgc⟩ := H.mem c ip' hD
        exact hc g hg hgc
      rcases eq_or_ne ip' ip with rfl | hne
      · simpa using hh
      · simp [hne, hD]
    · rw [H.hdl g hg ip']
      simp [hc g hg]
  used g hg := by
    rcases List.mem_cons.mp hg with rfl | hg
    · exact ⟨ip, Or.inr ⟨rfl, rfl⟩⟩
    · exact (H.used g hg).imp fun _ => Or.inl
  mem c' ip' h' := by
    rcases h' with h' | ⟨rfl, -⟩
    · obtain ⟨g, hg, rfl⟩ := H.mem c' ip' h'
      exact ⟨g, List.mem_cons_of_mem _ hg, rfl⟩
    · exact ⟨_, List.mem_cons_self, rfl⟩

/-- **The entry of a client is erased.** -/
lemma erase (H : FltOk D (l₁ ++ f :: l₂)) :
    FltOk (fun c' ip' => D c' ip' ∧ c' ≠ f.pClient) (l₁ ++ l₂) where
  nodup := by
    have hn := H.nodup
    rw [List.map_append, List.map_cons, List.nodup_middle, List.nodup_cons] at hn
    rw [List.map_append]
    exact hn.2
  hdl g hg ip' := by
    have hg' := List.mem_append.mp hg
    rw [H.hdl g (by rcases hg' with hg' | hg' <;> simp [hg']) ip']
    simp [H.others g hg']
  used g hg := by
    have hg' := List.mem_append.mp hg
    exact (H.used g (by rcases hg' with hg' | hg' <;> simp [hg'])).imp fun _ h =>
      ⟨h, H.others g hg'⟩
  mem c' ip' h' := by
    obtain ⟨g, hg, rfl⟩ := H.mem c' ip' h'.1
    rw [List.mem_append, List.mem_cons] at hg
    rcases hg with hg | rfl | hg
    · exact ⟨g, by simp [hg], rfl⟩
    · exact absurd rfl h'.2
    · exact ⟨g, by simp [hg], rfl⟩

end FltOk

lemma setFltRule_split {c h : ℕ} {ip : IpType} {l₁ l₂ : List FltRuleInfo} {f : FltRuleInfo}
    (h₁ : ∀ g ∈ l₁, g.pClient ≠ c) (hf : f.pClient = c) :
    setFltRule c ip h (l₁ ++ f :: l₂) =
      l₁ ++ { f with fltRuleHdl := Function.update f.fltRuleHdl ip h } :: l₂ := by
  induction l₁ with
  | nil => simp [setFltRule, hf]
  | cons g l₁ ih =>
      have hg := h₁ g List.mem_cons_self
      simp [setFltRule, hg, ih fun g hg => h₁ g (List.mem_cons_of_mem _ hg)]

namespace PeerIfaceInfo

variable {p : ℕ} {mac : ℕ → Mac} {peer : PeerIfaceInfo} {D : ℕ → IpType → Prop} {c : ℕ} {ip : IpType}
  {b : Bank EthFltRule} {F : Multiset (ℕ × EthFltRule)} {assigned : IpType → Bool}
  {l : List FltRuleInfo}

/-- The rule for a client of the peer. -/
def rule (p : ℕ) (mac : ℕ → Mac) (peer : PeerIfaceInfo) (c : ℕ) (ip : IpType) : EthFltRule :=
  ⟨p, mac c, peer.rtTblNameForFlt ip, ip⟩

/-- The rules of a list of entries. -/
def heldBy (p : ℕ) (mac : ℕ → Mac) (peer : PeerIfaceInfo) (l : List FltRuleInfo) :
    Multiset (ℕ × EthFltRule) :=
  (l.map fun f => f.held (peer.rule p mac f.pClient)).sum

/-- The filter rules for the clients of the peer. -/
def held (p : ℕ) (mac : ℕ → Mac) (peer : PeerIfaceInfo) : Multiset (ℕ × EthFltRule) :=
  peer.heldBy p mac peer.fltRule

lemma heldBy_cons {f : FltRuleInfo} : peer.heldBy p mac (f :: l) =
    peer.heldBy p mac l + f.held (peer.rule p mac f.pClient) := by
  rw [heldBy, heldBy, List.map_cons, List.sum_cons, add_comm]

lemma heldBy_split {l₁ l₂ : List FltRuleInfo} {f : FltRuleInfo} :
    peer.heldBy p mac (l₁ ++ f :: l₂) =
      peer.heldBy p mac (l₁ ++ l₂) + f.held (peer.rule p mac f.pClient) := by
  simp only [heldBy, List.map_append, List.map_cons, List.sum_append, List.sum_cons]
  rw [add_comm (f.held _), add_assoc]

/-- The information about a peer changes in its filter rules only. -/
def SameBut (peer peer' : PeerIfaceInfo) : Prop := peer' = { peer with fltRule := peer'.fltRule }

lemma SameBut.trans {q r : PeerIfaceInfo} (h : peer.SameBut q) (h' : q.SameBut r) :
    peer.SameBut r := by
  rw [SameBut, h', h]

/-- A step on the filter rules for one peer: what the bank holds, and which rules there are. -/
structure Turns (p : ℕ) (mac : ℕ → Mac) (peer : PeerIfaceInfo)
    (r : PeerIfaceInfo × Bank EthFltRule) (F : Multiset (ℕ × EthFltRule))
    (D : ℕ → IpType → Prop) : Prop where
  holds : r.2.Holds (F + r.1.held p mac)
  ok : FltOk D r.1.fltRule
  same : peer.SameBut r.1

variable (ip) in
/-- **A filter rule is added.** -/
lemma add_turns (hb : b.Holds (F + peer.held p mac)) (H : FltOk D peer.fltRule) (hD : ¬ D c ip) :
    Turns p mac peer (addClientFltRule p peer c (mac c) ip b) F
      (fun c' ip' => D c' ip' ∨ (c' = c ∧ ip' = ip)) := by
  set r := b.install (peer.rule p mac c ip) with hr
  have hne : r.1 ≠ 0 := Bank.install_ne_zero
  have hholds : r.2.Holds (F + peer.held p mac + {(r.1, peer.rule p mac c ip)}) := hb.install
  by_cases hc : hasFltRule c peer.fltRule = true
  · obtain ⟨l₁, f, l₂, hl, hf, hother⟩ := H.split_mem hc
    have hadd : addClientFltRule p peer c (mac c) ip b =
        ({ peer with fltRule :=
            l₁ ++ { f with fltRuleHdl := Function.update f.fltRuleHdl ip r.1 } :: l₂ }, r.2) := by
      rw [addClientFltRule, if_pos hc]
      conv_lhs => rw [hl]
      rw [setFltRule_split (fun g hg => hother g (Or.inl hg)) hf]
      rfl
    rw [hadd]
    rw [hl] at H
    have hz : f.fltRuleHdl ip = 0 := by
      by_contra hz
      exact hD (hf ▸ (H.hdl f (by simp) ip).mp hz)
    refine ⟨hholds.of_eq ?_, ?_, rfl⟩
    · show _ = F + peer.heldBy p mac _
      rw [held, hl, heldBy_split, heldBy_split, FltRuleInfo.held_update _ _ hz hne, hf]
      simp only [add_assoc]
    · subst hf
      exact H.update hne
  · have hadd : addClientFltRule p peer c (mac c) ip b =
        ({ peer with fltRule := ⟨c, Function.update (fun _ => 0) ip r.1⟩ :: peer.fltRule },
          r.2) := by
      rw [addClientFltRule, if_neg hc]
      rfl
    rw [hadd]
    refine ⟨hholds.of_eq ?_, H.push (FltOk.not_mem hc) hne, rfl⟩
    show _ = F + peer.heldBy p mac _
    rw [heldBy_cons, FltRuleInfo.held_new hne, ← add_assoc]
    rfl

/-- **The filter rules of a client are deleted** when there is one for each assigned family or none. -/
lemma del_turns (hb : b.Holds (F + peer.held p mac)) (H : FltOk D peer.fltRule)
    (hD : (∃ ip, D c ip) → ∀ ip, D c ip ↔ assigned ip = true) :
    Turns p mac peer (delClientFltRule assigned c peer b) F
      (fun c' ip' => D c' ip' ∧ c' ≠ c) := by
  by_cases hc : hasFltRule c peer.fltRule = true
  · obtain ⟨l₁, f, l₂, hl, hf, hother⟩ := H.split_mem hc
    have hdel : delClientFltRule assigned c peer b =
        ({ peer with fltRule := l₁ ++ l₂ }, delFltRuleInfo assigned f b) := by
      have hl₁ : ∀ g ∈ l₁, ¬ (decide (g.pClient = c)) = true := by
        intro g hg
        simpa using hother g (Or.inl hg)
      have hfind : (peer.fltRule.find? fun f => f.pClient = c) = some f := by
        rw [hl, List.find?_append, List.find?_eq_none.mpr hl₁]
        simp [hf]
      have herase : (peer.fltRule.eraseP fun f => f.pClient = c) = l₁ ++ l₂ := by
        rw [hl, List.eraseP_append_right _ hl₁]
        simp [hf]
      rw [delClientFltRule, hfind]
      simp only [herase]
    rw [hdel]
    rw [hl] at H
    have hass : ∀ ip, f.fltRuleHdl ip ≠ 0 ↔ assigned ip = true := by
      intro ip
      rw [H.hdl f (by simp) ip, hf]
      exact hD (hf ▸ H.used f (by simp)) ip
    refine ⟨?_, ?_, rfl⟩
    · refine FltRuleInfo.del_holds (peer.rule p mac f.pClient) hass (hb.of_eq ?_)
      show _ = F + peer.heldBy p mac _ + _
      rw [held, hl, heldBy_split, ← add_assoc]
    · subst hf
      exact H.erase
  · have hnone : (peer.fltRule.find? fun f => f.pClient = c) = none := by
      rw [List.find?_eq_none]
      intro g hg
      simpa using FltOk.not_mem hc g hg
    rw [delClientFltRule, hnone]
    refine ⟨hb, H.congr fun c' ip' => ⟨fun h => ⟨h, ?_⟩, And.left⟩, rfl⟩
    rintro rfl
    obtain ⟨g, hg, hgc⟩ := H.mem c' ip' h
    exact FltOk.not_mem hc g hg hgc

/-- **All filter rules for a peer are deleted** when each client has one for each assigned family. -/
lemma clear_turns (hb : b.Holds (F + peer.held p mac)) (H : FltOk D peer.fltRule)
    (hD : ∀ c, (∃ ip, D c ip) → ∀ ip, D c ip ↔ assigned ip = true) :
    Turns p mac peer (clearAllFltRuleForOnePeerIface assigned peer b) F (fun _ _ => False) := by
  refine ⟨?_, .nil fun _ _ => id, rfl⟩
  have hass : ∀ f ∈ peer.fltRule, ∀ ip, f.fltRuleHdl ip ≠ 0 ↔ assigned ip = true := by
    intro f hf ip
    rw [H.hdl f hf ip]
    exact hD _ (H.used f hf) ip
  have hgo : ∀ (l : List FltRuleInfo) (b : Bank EthFltRule), (∀ f ∈ l, f ∈ peer.fltRule) →
      b.Holds (F + peer.heldBy p mac l) →
      (l.foldl (fun b f => delFltRuleInfo assigned f b) b).Holds F := by
    intro l
    induction l with
    | nil => exact fun b _ hb => hb.of_eq (by simp [heldBy])
    | cons f l ih =>
        intro b hl hb
        refine ih _ (fun g hg => hl g (List.mem_cons_of_mem _ hg)) ?_
        refine FltRuleInfo.del_holds (peer.rule p mac f.pClient)
          (hass f (hl f List.mem_cons_self)) (hb.of_eq ?_)
        rw [heldBy_cons, ← add_assoc]
  exact (hgo _ b (fun _ => id) hb).of_eq (by simp [clearAllFltRuleForOnePeerIface, held, heldBy])

/-- **Filter rules for several clients are added.** -/
lemma addFltRules_turns {s : LanToLan} {cs : List ℕ} (hcs : cs.Nodup)
    (hb : b.Holds (F + peer.held p fun c => (s.client c).macAddr)) (H : FltOk D peer.fltRule)
    (hD : ∀ c ∈ cs, ¬ D c ip) :
    Turns p (fun c => (s.client c).macAddr) peer (s.addFltRules p ip cs peer b) F
      (fun c' ip' => D c' ip' ∨ (c' ∈ cs ∧ ip' = ip)) := by
  induction cs generalizing peer b D with
  | nil => exact ⟨hb, H.congr fun c ip => by simp, rfl⟩
  | cons c cs ih =>
      have hadd := add_turns _ hb H (hD c List.mem_cons_self)
      have hrest := ih (List.nodup_cons.mp hcs).2 hadd.holds hadd.ok fun c' hc' => by
        rintro (h | ⟨rfl, -⟩)
        · exact hD c' (List.mem_cons_of_mem _ hc') h
        · exact (List.nodup_cons.mp hcs).1 hc'
      refine ⟨hrest.holds, hrest.ok.congr fun c' ip' => ?_, hadd.same.trans hrest.same⟩
      rw [List.mem_cons]
      tauto

/-- **Filter rules for a client are added** for the assigned families. -/
lemma addAssigned_turns {n : LanToLanIface} (hp : n.pIface = p)
    (hb : b.Holds (F + peer.held p mac)) (H : FltOk D peer.fltRule) (hD : ∀ ip, ¬ D c ip) :
    Turns p mac peer (LanToLan.addAssignedFltRule n c (mac c) peer b) F
      (fun c' ip' => D c' ip' ∨ (c' = c ∧ n.isIpAddrAssigned ip' = true)) := by
  subst hp
  have h4 : Turns n.pIface mac peer
      (if n.isIpAddrAssigned .v4 then addClientFltRule n.pIface peer c (mac c) .v4 b
        else (peer, b)) F
      (fun c' ip' => D c' ip' ∨ (c' = c ∧ ip' = .v4 ∧ n.isIpAddrAssigned ip' = true)) := by
    split_ifs with hv4
    · have hadd := add_turns _ hb H (hD .v4)
      refine ⟨hadd.holds, hadd.ok.congr fun c' ip' => ?_, hadd.same⟩
      constructor
      · rintro (h | ⟨rfl, rfl⟩)
        · exact Or.inl h
        · exact Or.inr ⟨rfl, rfl, hv4⟩
      · rintro (h | ⟨rfl, rfl, -⟩)
        · exact Or.inl h
        · exact Or.inr ⟨rfl, rfl⟩
    · refine ⟨hb, H.congr fun c' ip' => ⟨Or.inl, ?_⟩, rfl⟩
      rintro (h | ⟨-, rfl, h⟩)
      · exact h
      · exact absurd h hv4
  rw [LanToLan.addAssignedFltRule]
  set r := (if n.isIpAddrAssigned .v4 then addClientFltRule n.pIface peer c (mac c) .v4 b
    else (peer, b)) with hr
  by_cases hv6 : n.isIpAddrAssigned .v6 = true
  · rw [if_pos hv6]
    have hadd := add_turns .v6 h4.holds h4.ok (c := c) (by
      rintro (h | ⟨-, h, -⟩)
      · exact hD .v6 h
      · exact absurd h (by decide))
    refine ⟨hadd.holds, hadd.ok.congr fun c' ip' => ?_, h4.same.trans hadd.same⟩
    cases ip' <;> simp [hv6]
  · rw [if_neg hv6]
    refine ⟨h4.holds, h4.ok.congr fun c' ip' => ?_, h4.same⟩
    cases ip' <;> simp [hv6]

end PeerIfaceInfo

/-! ## Routing rules -/

namespace LanToLanIface

variable (lan : ℕ → LanProps) (n : LanToLanIface)

/-- The routing rule of a client for one L2 type, family and tx property. -/
def interRtRule (mac : Mac) (t : IpaHdrL2Type) (ip : IpType) (i : ℕ) : EthRtRule :=
  ⟨n.pIface, mac, LanToLan.rtTblName t (lan n.pIface).hdrL2Type ip,
    n.hdrProcCtxForInterInterface t, t, ip, i⟩

/-- The routing rule of a client for traffic within the interface. -/
def intraRtRule (mac : Mac) (ip : IpType) (i : ℕ) : EthRtRule :=
  ⟨n.pIface, mac, LanToLan.intraTblName ip, n.hdrProcCtxForIntraInterface,
    (lan n.pIface).hdrL2Type, ip, i⟩

end LanToLanIface

/-- The client has routing rules for exactly the L2 types of `T`, and within its interface when `I`. -/
structure RtOk (cnt : IpType → ℕ) (T : IpaHdrL2Type → Prop) (I : Prop) (x : ClientInfo) : Prop where
  inter : ∀ t, T t → ∀ ip, (x.interIfaceRtRuleHdl t ip).length = cnt ip
  noInter : ∀ t, ¬ T t → ∀ ip, x.interIfaceRtRuleHdl t ip = []
  intra : I → ∀ ip, (x.intraIfaceRtRuleHdl ip).length = cnt ip
  noIntra : ¬ I → ∀ ip, x.intraIfaceRtRuleHdl ip = []

namespace ClientInfo

open Finset

variable {lan : ℕ → LanProps} {n : LanToLanIface} {x : ClientInfo} {t : IpaHdrL2Type}
  {F : Multiset (ℕ × EthRtRule)} {b : Bank EthRtRule} {T : IpaHdrL2Type → Prop} {I : Prop}
  {cnt : IpType → ℕ}

/-- The rules of a client for one L2 type. -/
def heldInter (lan : ℕ → LanProps) (n : LanToLanIface) (mac : Mac) (t : IpaHdrL2Type)
    (hdl : IpType → List ℕ) : Multiset (ℕ × EthRtRule) :=
  ∑ ip, Bank.held (n.interRtRule lan mac t ip) (hdl ip)

/-- The rules of a client within its interface. -/
def heldIntra (lan : ℕ → LanProps) (n : LanToLanIface) (mac : Mac) (hdl : IpType → List ℕ) :
    Multiset (ℕ × EthRtRule) :=
  ∑ ip, Bank.held (n.intraRtRule lan mac ip) (hdl ip)

/-- The routing rules of a client. -/
def held (lan : ℕ → LanProps) (n : LanToLanIface) (x : ClientInfo) : Multiset (ℕ × EthRtRule) :=
  ∑ t, heldInter lan n x.macAddr t (x.interIfaceRtRuleHdl t) +
    heldIntra lan n x.macAddr x.intraIfaceRtRuleHdl

variable (lan n x) in
/-- The rules of one L2 type, and the others. -/
lemma exists_frame_inter (t : IpaHdrL2Type) : ∃ G, ∀ v,
    held lan n { x with interIfaceRtRuleHdl := Function.update x.interIfaceRtRuleHdl t v } =
      G + heldInter lan n x.macAddr t v := by
  refine ⟨∑ t' ∈ univ.erase t, heldInter lan n x.macAddr t' (x.interIfaceRtRuleHdl t') +
    heldIntra lan n x.macAddr x.intraIfaceRtRuleHdl, fun v => ?_⟩
  have hsum : ∑ t', heldInter lan n x.macAddr t' (Function.update x.interIfaceRtRuleHdl t v t') =
      ∑ t' ∈ univ.erase t, heldInter lan n x.macAddr t' (x.interIfaceRtRuleHdl t') +
        heldInter lan n x.macAddr t v := by
    rw [← sum_erase_add _ _ (mem_univ t), Function.update_self]
    congr 1
    refine sum_congr rfl fun t' ht' => ?_
    rw [Function.update_of_ne (ne_of_mem_erase ht')]
  show ∑ t', heldInter lan n x.macAddr t' _ + heldIntra lan n x.macAddr _ = _
  rw [hsum, add_right_comm]

variable (cnt) in
/-- Two families of rules are installed one after the other. -/
lemma install_both (rule : IpType → ℕ → EthRtRule) (hb : b.Holds F) :
    ((b.installAll (rule .v4) (cnt .v4)).2.installAll (rule .v6) (cnt .v6)).2.Holds
      (F + ∑ ip, Bank.held (rule ip) (match ip with
        | .v4 => (b.installAll (rule .v4) (cnt .v4)).1
        | .v6 => ((b.installAll (rule .v4) (cnt .v4)).2.installAll (rule .v6) (cnt .v6)).1)) := by
  rw [sum_ipType, ← add_assoc]
  exact hb.installAll.installAll

/-- Two families of rules are deleted one after the other. -/
lemma delete_both (rule : IpType → ℕ → EthRtRule) {hdl : IpType → List ℕ}
    (hb : b.Holds (F + ∑ ip, Bank.held (rule ip) (hdl ip))) :
    ((hdl .v6).foldl deleteHdl ((hdl .v4).foldl deleteHdl b)).Holds F := by
  rw [sum_ipType, add_comm (Bank.held _ _), ← add_assoc] at hb
  exact foldl_deleteHdl_holds (foldl_deleteHdl_holds hb)

variable (lan n) in
lemma held_noInter (H : RtOk cnt T I x) (ht : ¬ T t) :
    ∃ G, held lan n x = G ∧ ∀ v,
      held lan n { x with interIfaceRtRuleHdl := Function.update x.interIfaceRtRuleHdl t v } =
        G + heldInter lan n x.macAddr t v := by
  obtain ⟨G, hG⟩ := exists_frame_inter lan n x t
  refine ⟨G, ?_, hG⟩
  have hself := hG (x.interIfaceRtRuleHdl t)
  rw [Function.update_eq_self] at hself
  exact hself.trans (by simp [heldInter, H.noInter t ht])

end ClientInfo

namespace LanToLan

variable {lan : ℕ → LanProps} {s : LanToLan} {a c : ℕ} {peer : PeerIfaceInfo}
  {F : Multiset (ℕ × EthRtRule)} {T : IpaHdrL2Type → Prop} {I : Prop}

/-- The routing rules of the client at `c` change to those of the record `x`. -/
structure RtTurns (lan : ℕ → LanProps) (s : LanToLan) (a c : ℕ) (t : LanToLan) (x : ClientInfo)
    (F : Multiset (ℕ × EthRtRule)) (T : IpaHdrL2Type → Prop) (I : Prop) : Prop where
  eq : t = { s with rt := t.rt, client := Function.update s.client c x }
  mac : x.macAddr = (s.client c).macAddr
  holds : t.rt.Holds (F + x.held lan (s.node a))
  ok : RtOk (lan (s.node a).pIface).eachClientRtRuleCount T I x

variable (hb : s.rt.Holds (F + (s.client c).held lan (s.node a)))
  (H : RtOk (lan (s.node a).pIface).eachClientRtRuleCount T I (s.client c))
include hb H

/-- **Routing rules for the L2 type of a peer are added.** -/
lemma addClientRtRule_inter (hpeer : peer.peer ≠ a)
    (hname : peer.rtTblNameForRt = rtTblName (s.l2 lan peer.peer) (s.l2 lan a))
    (hT : ¬ T (s.l2 lan peer.peer)) :
    ∃ x, RtTurns lan s a c (s.addClientRtRule lan a peer c) x F
      (fun t => T t ∨ t = s.l2 lan peer.peer) I := by
  set t := s.l2 lan peer.peer with ht
  set cnt := (lan (s.node a).pIface).eachClientRtRuleCount with hcnt
  set rule := (s.node a).interRtRule lan (s.client c).macAddr t with hrule
  set r4 := s.rt.installAll (rule .v4) (cnt .v4) with hr4
  set r6 := r4.2.installAll (rule .v6) (cnt .v6) with hr6
  set hdl : IpType → List ℕ := fun | .v4 => r4.1 | .v6 => r6.1 with hhdl
  have hrun : s.addClientRtRule lan a peer c =
      { s with rt := r6.2 }.modClient c fun x =>
        { x with interIfaceRtRuleHdl := Function.update x.interIfaceRtRuleHdl t hdl } := by
    rw [addClientRtRule, if_pos hpeer, hname]
    rfl
  obtain ⟨G, hG, hset⟩ := ClientInfo.held_noInter lan (s.node a) H hT
  rw [hG] at hb
  have hlen : ∀ ip, (hdl ip).length = cnt ip := by
    intro ip
    cases ip <;> exact Bank.length_installAll
  set inter := Function.update (s.client c).interIfaceRtRuleHdl t hdl with hinter
  refine ⟨{ s.client c with interIfaceRtRuleHdl := inter }, by rw [hrun]; rfl, rfl, ?_, ?_⟩
  · rw [hrun, hset hdl, ← add_assoc, ClientInfo.heldInter]
    exact (ClientInfo.install_both cnt rule hb).of_eq
      (by rw [sum_ipType])
  · refine ⟨fun t' ht' ip => ?_, fun t' ht' ip => ?_, H.intra, H.noIntra⟩
    · rcases eq_or_ne t' t with rfl | hne
      · simpa [hinter] using hlen ip
      · simpa [hinter, Function.update_of_ne hne] using H.inter t' (ht'.resolve_right hne) ip
    · have hne : t' ≠ t := fun h => ht' (Or.inr h)
      simpa [hinter, Function.update_of_ne hne] using H.noInter t' (fun h => ht' (Or.inl h)) ip

/-- **Routing rules for the L2 type of a peer are deleted**, if there are any. -/
lemma delClientRtRule_inter (hpeer : peer.peer ≠ a) :
    ∃ x, RtTurns lan s a c (s.delClientRtRule lan a peer c) x F
      (fun t => T t ∧ t ≠ s.l2 lan peer.peer) I := by
  set t := s.l2 lan peer.peer with ht
  set hdl := (s.client c).interIfaceRtRuleHdl t with hhdl
  set rt := (hdl .v6).foldl deleteHdl ((hdl .v4).foldl deleteHdl s.rt) with hrt
  set inter := Function.update (s.client c).interIfaceRtRuleHdl t fun _ => [] with hinter
  have hrun : s.delClientRtRule lan a peer c =
      { s with rt := rt }.modClient c fun x => { x with interIfaceRtRuleHdl := inter } := by
    rw [delClientRtRule, if_pos hpeer]
    rfl
  obtain ⟨G, hset⟩ := ClientInfo.exists_frame_inter lan (s.node a) (s.client c) t
  have hself := hset ((s.client c).interIfaceRtRuleHdl t)
  rw [Function.update_eq_self] at hself
  have hempty : ClientInfo.heldInter lan (s.node a) (s.client c).macAddr t (fun _ => []) = 0 := by
    simp [ClientInfo.heldInter]
  refine ⟨{ s.client c with interIfaceRtRuleHdl := inter }, by rw [hrun]; rfl, rfl, ?_, ?_⟩
  · rw [hrun, hset, hempty, add_zero]
    refine ClientInfo.delete_both
      ((s.node a).interRtRule lan (s.client c).macAddr t) (hb.of_eq ?_)
    rw [add_assoc]
    exact congrArg (F + ·) hself
  · refine ⟨fun t' ht' ip => ?_, fun t' ht' ip => ?_, H.intra, H.noIntra⟩
    · simpa [hinter, Function.update_of_ne ht'.2] using H.inter t' ht'.1 ip
    · rcases eq_or_ne t' t with rfl | hne
      · simp [hinter]
      · simpa [hinter, Function.update_of_ne hne] using H.noInter t' (fun h => ht' ⟨h, hne⟩) ip

/-- **Routing rules within the interface are added.** -/
lemma addClientRtRule_intra (hpeer : peer.peer = a) (hname : peer.rtTblNameForRt = intraTblName)
    (hI : ¬ I) : ∃ x, RtTurns lan s a c (s.addClientRtRule lan a peer c) x F T True := by
  set cnt := (lan (s.node a).pIface).eachClientRtRuleCount with hcnt
  set rule := (s.node a).intraRtRule lan (s.client c).macAddr with hrule
  set r4 := s.rt.installAll (rule .v4) (cnt .v4) with hr4
  set r6 := r4.2.installAll (rule .v6) (cnt .v6) with hr6
  set hdl : IpType → List ℕ := fun | .v4 => r4.1 | .v6 => r6.1 with hhdl
  have hrun : s.addClientRtRule lan a peer c =
      { s with rt := r6.2 }.modClient c fun x => { x with intraIfaceRtRuleHdl := hdl } := by
    rw [addClientRtRule, if_neg (not_not.mpr hpeer), hname, hpeer]
    rfl
  have hheld : (s.client c).held lan (s.node a) =
      ∑ t, ClientInfo.heldInter lan (s.node a) (s.client c).macAddr t
        ((s.client c).interIfaceRtRuleHdl t) := by
    rw [ClientInfo.held]
    simp [ClientInfo.heldIntra, H.noIntra hI]
  rw [hheld] at hb
  have hlen : ∀ ip, (hdl ip).length = cnt ip := by
    intro ip
    cases ip <;> exact Bank.length_installAll
  refine ⟨{ s.client c with intraIfaceRtRuleHdl := hdl }, by rw [hrun]; rfl, rfl, ?_, ?_⟩
  · rw [hrun, ClientInfo.held, ← add_assoc, ClientInfo.heldIntra]
    exact (ClientInfo.install_both cnt rule hb).of_eq
      (by rw [sum_ipType])
  · exact ⟨H.inter, H.noInter, fun _ => hlen, fun h => absurd trivial h⟩

/-- **Routing rules within the interface are deleted**, if there are any. -/
lemma delClientRtRule_intra (hpeer : peer.peer = a) :
    ∃ x, RtTurns lan s a c (s.delClientRtRule lan a peer c) x F T False := by
  set hdl := (s.client c).intraIfaceRtRuleHdl with hhdl
  set rt := (hdl .v6).foldl deleteHdl ((hdl .v4).foldl deleteHdl s.rt) with hrt
  have hrun : s.delClientRtRule lan a peer c =
      { s with rt := rt }.modClient c fun x => { x with intraIfaceRtRuleHdl := fun _ => [] } := by
    rw [delClientRtRule, if_neg (not_not.mpr hpeer)]
  refine ⟨{ s.client c with intraIfaceRtRuleHdl := fun _ => [] }, by rw [hrun]; rfl, rfl, ?_, ?_⟩
  · rw [hrun]
    have hempty : ClientInfo.heldIntra lan (s.node a) (s.client c).macAddr (fun _ => []) = 0 := by
      simp [ClientInfo.heldIntra]
    rw [ClientInfo.held, hempty, add_zero]
    refine ClientInfo.delete_both
      ((s.node a).intraRtRule lan (s.client c).macAddr) (hb.of_eq ?_)
    rw [ClientInfo.held, ← add_assoc]
    rfl
  · exact ⟨H.inter, H.noInter, False.elim, fun _ _ => rfl⟩

end LanToLan

end Ipacm
