import OcnDevice.Ipacm.WanRoutes.Upstream

/-!
# The upstream over a run

The framework says which interface has the default route, and whatever else happens, `wan_up`, the
events to the rest of IPACM and the `active` members should agree on it.  They get apart when

* the interface that had the route is called behind the one that gets it, so that its
  `IPA_HANDLE_WAN_DOWN` comes last,
* a route that waits for a header is added after the default route went elsewhere, since
  `header_partial_default_wan` is never reset,
* the modem's interface goes with `is_default_gateway` reset by the other family, or goes with the
  member set and takes `wan_up` from another interface, or
* the driver fails to delete the routes of an interface that stops being the upstream.

`WanOp.Clean` says that an event does none of this, and then, and only then, each family has the
right upstream in every state of a run (`wan_up_follows`).
-/

namespace Ipacm.WanRoutes

open WlanRules

/-! ## Statement -/

/-- The interface that has the default route of a family, by what the framework said. -/
def WanOp.route (r : IpType → Option ℕ) : WanOp → IpType → Option ℕ
  | .upstreamAdd n gw _, h => if h = famOf gw then some n else r h
  | .upstreamDel n fam _, h => if h = fam ∧ r h = some n then none else r h
  | .linkDown n _, h => if r h = some n then none else r h
  | _, h => r h

/-- `create_iface_instance` makes no second instance for an interface. -/
def WanOp.Fresh (s : WanSys) : WanOp → Prop
  | .create n _ _ _ _ _ => ∀ x ∈ s.ifaces, x.ipaIfNum ≠ n
  | _ => True

/-- An event, with the interfaces that have the default routes. -/
def WanOp.Step (x : WanSys × (IpType → Option ℕ)) (op : WanOp)
    (y : WanSys × (IpType → Option ℕ)) : Prop :=
  op.Fresh x.1 ∧ y = (op.handle x.1, op.route x.2)

/-- **Each family has the right upstream.** -/
def AllRight (x : WanSys × (IpType → Option ℕ)) : Prop := ∀ h, (x.1.upstream h).Right (x.2 h)

/-- An interface goes down cleanly: if it is active its routes are deleted, and if it is not,
`wan_up` is not taken from another. -/
def LinkDownOk (g : WanShared) (x : WanIface) (h : IpType) (ans : RtAns) : Prop :=
  if x.active h then (x.isSta = true ∨ x.isDefaultGateway = true) ∧ DelOk x h ans
  else x.isSta = false → x.isDefaultGateway = true → hasIp x.ipType h = true → g.wanUp h = false

/-- **An event that does not get the upstreams apart.** -/
def WanOp.Clean (s : WanSys) (r : IpType → Option ℕ) : WanOp → Prop
  | .upstreamAdd n gw ans =>
      (∀ y ∈ s.ifaces, y.ipaIfNum ≠ n → y.active (famOf gw) = true →
        DelOk y (famOf gw) (ans.old y.ipaIfNum)) ∧
      s.ifaces.Pairwise (fun x y => x.ipaIfNum = n → Gets x gw ans (famOf gw) →
        y.active (famOf gw) = false) ∧
      ∀ x ∈ s.ifaces, x.ipaIfNum = n → ∀ h, h ≠ famOf gw → Gets x gw ans h → r h = some n
  | .upstreamDel n fam ans =>
      ∀ x ∈ s.ifaces, x.ipaIfNum = n → x.active fam = true → DelOk x fam ans
  | .neighAdd n mac addr ok ans =>
      ∀ x ∈ s.ifaces, x.ipaIfNum = n → ∀ h, NeighGets x mac addr ok ans h → r h = some n
  | .linkDown n ans =>
      ∀ x ∈ s.ifaces, x.ipaIfNum = n → ∀ h, LinkDownOk s.shared x h (ans h)
  | _ => True

/-! ## What always holds -/

variable {s : WanSys} {x y : WanSys × (IpType → Option ℕ)} {op : WanOp} {n : ℕ} {h : IpType}
  {gw : DstAddr} {r : IpType → Option ℕ}

lemma upstreamAdd_keeps (ans : RouteAns) {z : WanIface} (hz : Sound z) (g : WanShared) :
    (upstreamAddEvent n gw ans (z, g)).1.ipaIfNum = z.ipaIfNum ∧
      Sound (upstreamAddEvent n gw ans (z, g)).1 := by
  rw [upstreamAddEvent]
  split_ifs
  · exact ⟨(upstreamAddOwn_grows gw ans (z, g)).num, Sound.upstreamAddOwn (a := (z, g)) hz gw ans⟩
  · exact ⟨(upstreamAddOther_grows (a := (z, g)) ans hz).num,
      Sound.upstreamAddOther (a := (z, g)) hz ans⟩

/-- An instance goes, and what it left is not looked at. -/
lemma linkDown_ifaces (H : Kept s) (ans : IpType → RtAns) :
    ((WanOp.linkDown n ans).handle s).ifaces = s.ifaces.filter fun x => x.ipaIfNum ≠ n := by
  by_cases hx : ∃ x ∈ s.ifaces, x.ipaIfNum = n
  · obtain ⟨x, hx, rfl⟩ := hx
    obtain ⟨l, l', e, hne⟩ := H.split hx
    obtain ⟨ifaces, g⟩ := s
    obtain rfl : ifaces = l ++ x :: l' := e
    have hnum := (linkDown_spec (a := (x, g)) (h := .v4) ans (H.sound x hx)).2.2
    rw [WanOp.handle]
    dsimp only
    rw [processFor_split hne]
    simp [show (linkDownEvent ans (x, g)).1.ipaIfNum = x.ipaIfNum from hnum]
  · have hx' : ∀ x ∈ s.ifaces, x.ipaIfNum ≠ n := fun x h e => hx ⟨x, h, e⟩
    rw [WanOp.handle]
    dsimp only
    rw [processFor_absent hx']

lemma Kept.step (H : Kept x.1) (h : op.Step x y) : Kept y.1 := by
  obtain ⟨hf, rfl⟩ := h
  cases op with
  | create n type bridge txProp hasRxProp extProp =>
      refine ⟨?_, fun z hz => ?_⟩
      · have hf' : ∀ z ∈ x.1.ifaces, z.ipaIfNum ≠ n := hf
        simpa [WanOp.handle, List.nodup_append, H.nodup] using hf'
      · rcases List.mem_append.mp hz with hz | hz
        · exact H.sound z hz
        · obtain rfl := List.mem_singleton.mp hz
          exact ⟨nofun, nofun, nofun, nofun⟩
  | addrAdd n addr ok =>
      exact H.processFor fun z hz g =>
        ⟨(addrAdd_alike addr ok (z, g)).grows.num, (H.sound z hz).alike (addrAdd_alike addr ok (z, g))⟩
  | upstreamAdd n gw ans => exact H.process fun z hz g => upstreamAdd_keeps ans (H.sound z hz) g
  | upstreamDel n fam ans =>
      exact H.processFor fun z hz g => ⟨(upstreamDel_grows (a := (z, g)) ans (H.sound z hz)).num,
        Sound.upstreamDel (a := (z, g)) (H.sound z hz) ans⟩
  | neighAdd n mac addr ok ans =>
      exact H.processFor fun z hz g => ⟨(neighAdd_grows mac addr ok ans (z, g)).num,
        Sound.neighAdd (a := (z, g)) (H.sound z hz) mac addr ok ans⟩
  | xlatConnect n => exact H.processFor fun z hz g => ⟨rfl, (H.sound z hz).alike ⟨⟨rfl, rfl, rfl,
        fun _ h => h, fun _ h => h⟩, rfl, rfl, rfl⟩⟩
  | linkDown n ans =>
      have e := linkDown_ifaces (n := n) H ans
      refine ⟨?_, fun z hz => ?_⟩
      · rw [e]
        exact H.nodup.sublist (List.filter_sublist.map _)
      · rw [e] at hz
        exact H.sound z (List.mem_of_mem_filter hz)

/-! ## One event -/

/-- What an instance does when the default route goes to an interface. -/
def reactAdd (n : ℕ) (gw : DstAddr) (ans : RouteAns) (h : IpType) (y : WanIface) : React :=
  if y.ipaIfNum = n then if Gets y gw ans h then .up else .keep
  else if h = famOf gw ∧ y.active h = true ∧ DelOk y h (ans.old y.ipaIfNum) then .down
  else .keep

lemma upstream_upstreamAdd (H : Kept s) (ans : RouteAns) :
    (s.process (upstreamAddEvent n gw ans)).upstream h =
      reacts (reactAdd n gw ans h) s.ifaces (s.upstream h) := by
  refine upstream_process H fun z hz g => ⟨(upstreamAdd_keeps ans (H.sound z hz) g).1, ?_⟩
  rw [upstreamAddEvent, reactAdd]
  by_cases hn : z.ipaIfNum = n
  · rw [if_pos hn, if_pos hn, view_upstreamAddOwn]
    split_ifs <;> rfl
  · rw [if_neg hn, if_neg hn, view_upstreamAddOther (a := (z, g)) ans (H.sound z hz)]
    dsimp only
    by_cases hh : h = famOf gw
    · subst hh
      split_ifs <;> rfl
    · rw [if_neg fun h3 => hh h3.1, if_neg fun h3 => hh h3.1]
      rfl

/-- An event for one interface that may make it the upstream. -/
lemma right_up_iff {p : Prop} [Decidable p] {z : WanIface} {q : Option ℕ} (H : Kept s)
    (hz : z ∈ s.ifaces) (hP : (s.upstream h).Right q) (hno : p → z.active h = false) :
    ((if p then React.up else .keep).next z.ipaIfNum (s.upstream h)).Right q ↔
      (p → q = some z.ipaIfNum) := by
  split_ifs with hp
  · rw [hP.up_iff fun hm => ?_]
    · simp [hp]
    · rw [H.mem_actives hz, hno hp] at hm
      cases hm
  · exact iff_of_true hP fun h => absurd h hp

lemma Gets.not_active {z : WanIface} {ans : RouteAns} (hg : Gets z gw ans h) (hs : Sound z) :
    z.active h = false := by
  rcases hg.2 with hw | ⟨rfl, -⟩
  · have ha := hw.not_active (hs.setGateway gw)
    rwa [show (setGateway z gw).active = z.active by cases gw <;> rfl] at ha
  · exact hg.1.1

lemma NeighGets.not_active {z : WanIface} {mac : Mac} {addr : DstAddr} {ok : Bool}
    {ans : IpType → RtAns} (hg : NeighGets z mac addr ok ans h) (hs : Sound z) :
    z.active h = false := by
  have hr := neighRecord_alike z mac addr ok
  have ha := hg.2.not_active (hs.alike hr)
  rwa [hr.active] at ha

/-- All instances keep the upstream, or one makes itself the upstream. -/
lemma reacts_own {react : WanIface → React} {l : List WanIface} {u : Upstream}
    (hl : ∀ z ∈ l, react z = .keep ∨ react z = .up ∧ z.ipaIfNum = n)
    (hu : u = .nowhere ∨ u = .via n) :
    reacts react l u = .nowhere ∨ reacts react l u = .via n := by
  induction l generalizing u with
  | nil => exact hu
  | cons z l ih =>
      rw [reacts_cons]
      refine ih (fun z' hz' => hl z' (List.mem_cons_of_mem _ hz')) ?_
      rcases hl z (List.mem_cons_self ..) with hk | ⟨hk, rfl⟩
      · rwa [hk]
      · rw [hk]
        refine Or.inr ?_
        rcases hu with rfl | rfl
        · exact Upstream.next_up_nowhere
        · simp [React.next, Upstream.via]

/-- An interface stays active if its instance does not go down. -/
lemma mem_reacts {react : WanIface → React} {l : List WanIface} {u : Upstream} {m : ℕ}
    (hm : m ∈ u.actives) (hl : ∀ z ∈ l, z.ipaIfNum = m → react z ≠ .down) :
    m ∈ (reacts react l u).actives := by
  induction l generalizing u with
  | nil => exact hm
  | cons z l ih =>
      rw [reacts_cons]
      refine ih ?_ fun z' hz' => hl z' (List.mem_cons_of_mem _ hz')
      cases hr : react z with
      | keep => exact hm
      | up => exact Set.mem_insert_of_mem _ hm
      | down =>
          refine ⟨hm, ?_⟩
          rintro rfl
          exact hl z (List.mem_cons_self ..) rfl hr

lemma right_of_own {u : Upstream} (hu : u = .nowhere ∨ u = .via n) : u.Right (some n) := by
  rcases hu with rfl | rfl
  · exact Upstream.nowhere_right _
  · exact Upstream.via_right.mpr rfl

/-- **A default route, as another family sees it.** -/
lemma right_upstreamAdd_other (H : Kept s) (ans : RouteAns) (hh : h ≠ famOf gw)
    (hP : (s.upstream h).Right (r h)) :
    ((s.process (upstreamAddEvent n gw ans)).upstream h).Right (r h) ↔
      ∀ z ∈ s.ifaces, z.ipaIfNum = n → Gets z gw ans h → r h = some n := by
  have hkeep : ∀ y, y.ipaIfNum ≠ n → reactAdd n gw ans h y = .keep := fun y hy => by
    rw [reactAdd, if_neg hy, if_neg fun h3 => hh h3.1]
  rw [upstream_upstreamAdd H]
  by_cases hz : ∃ z ∈ s.ifaces, z.ipaIfNum = n
  · obtain ⟨z, hz, rfl⟩ := hz
    obtain ⟨l, l', e, hne⟩ := H.split hz
    have hone : reacts (reactAdd z.ipaIfNum gw ans h) s.ifaces (s.upstream h) =
        (if Gets z gw ans h then React.up else .keep).next z.ipaIfNum (s.upstream h) := by
      rw [e, reacts_one (fun y hy => hkeep y (hne y (List.mem_append_left _ hy)))
        fun y hy => hkeep y (hne y (List.mem_append_right _ hy)), reactAdd, if_pos rfl]
    rw [hone, right_up_iff H hz hP fun hg => hg.not_active (H.sound z hz)]
    constructor
    · intro hg y hy hyz
      rwa [eq_of_num H.nodup hy hz hyz]
    · exact fun hg => hg z hz rfl
  · have hz' : ∀ z ∈ s.ifaces, z.ipaIfNum ≠ n := fun z h e => hz ⟨z, h, e⟩
    rw [reacts_keep fun y hy => hkeep y (hz' y hy)]
    exact iff_of_true hP fun z hz e => absurd e (hz' z hz)

/-- A default route while no other interface has it. -/
lemma right_upstreamAdd_free (ans : RouteAns)
    (hP : (s.upstream (famOf gw)).Right (r (famOf gw)))
    (hq : ∀ y ∈ s.ifaces, y.ipaIfNum ≠ n → y.active (famOf gw) = false) :
    (reacts (reactAdd n gw ans (famOf gw)) s.ifaces (s.upstream (famOf gw))).Right (some n) := by
  refine right_of_own (reacts_own (fun z hz => ?_) ?_)
  · rw [reactAdd]
    split_ifs with hn hg hd
    · exact Or.inr ⟨rfl, hn⟩
    · exact Or.inl rfl
    · rw [hq z hz hn] at hd
      exact absurd hd.2.1 (by decide)
    · exact Or.inl rfl
  · rcases hP.cases with hu | ⟨m, -, hu⟩
    · exact Or.inl hu
    · have hm : m ∈ (s.upstream (famOf gw)).actives := hu ▸ Set.mem_singleton m
      obtain ⟨y, hy, rfl, ha⟩ := hm
      by_cases hn : y.ipaIfNum = n
      · exact Or.inr (hn ▸ hu)
      · rw [hq y hy hn] at ha
        cases ha

/-- **A default route that another interface had**, whose routes are deleted: it has to be called
before the one that gets it. -/
lemma right_upstreamAdd_moved {l l' : List WanIface} {p : WanIface} (ans : RouteAns)
    (hnum : ((l ++ p :: l').map WanIface.ipaIfNum).Nodup) (hp : p.ipaIfNum ≠ n)
    (hpa : p.active (famOf gw) = true)
    (hd : DelOk p (famOf gw) (ans.old p.ipaIfNum))
    (hq : ∀ y ∈ l ++ l', y.active (famOf gw) = false) :
    (reacts (reactAdd n gw ans (famOf gw)) (l ++ p :: l') (.via p.ipaIfNum)).Right (some n) ↔
      ∀ z ∈ l, z.ipaIfNum = n → ¬ Gets z gw ans (famOf gw) := by
  have hown : ∀ y ∈ l ++ l', reactAdd n gw ans (famOf gw) y = .keep ∨
      reactAdd n gw ans (famOf gw) y = .up ∧ y.ipaIfNum = n ∧ Gets y gw ans (famOf gw) := by
    intro y hy
    rw [reactAdd, hq y hy]
    split_ifs with hn hg hno
    · exact Or.inr ⟨rfl, hn, hg⟩
    · exact Or.inl rfl
    · exact absurd hno.2.1 (by decide)
    · exact Or.inl rfl
  have hdown : reactAdd n gw ans (famOf gw) p = .down := by
    rw [reactAdd, if_neg hp, if_pos ⟨rfl, hpa, hd⟩]
  rw [reacts_append, reacts_cons, hdown]
  by_cases hz : ∃ z ∈ l, z.ipaIfNum = n ∧ Gets z gw ans (famOf gw)
  · refine iff_of_false (fun hR => ?_) fun hno => ?_
    · obtain ⟨z, hz, hn, hg⟩ := hz
      have hkeep : ∀ y ∈ l', reactAdd n gw ans (famOf gw) y = .keep := fun y hy => by
        rcases hown y (List.mem_append_right _ hy) with hk | ⟨-, hyn, -⟩
        · exact hk
        · obtain ⟨-, -, hdis⟩ := List.nodup_append.mp (List.map_append ▸ hnum)
          exact absurd (hn.trans hyn.symm) (hdis _ (List.mem_map_of_mem hz) _
            (List.mem_map_of_mem (List.mem_cons_of_mem _ hy)))
      rw [reacts_keep hkeep] at hR
      -- the one that got the route is active, but the last report is that none is
      have hact : n ∈ (reacts (reactAdd n gw ans (famOf gw)) l (.via p.ipaIfNum)).actives := by
        obtain ⟨la, lb, rfl⟩ := List.append_of_mem hz
        have hup : reactAdd n gw ans (famOf gw) z = .up := by rw [reactAdd, if_pos hn, if_pos hg]
        rw [reacts_append, reacts_cons, hup]
        refine mem_reacts (hn ▸ Set.mem_insert _ _) fun y hy _ => ?_
        rcases hown y (by simp [hy]) with hk | ⟨hk, -⟩ <;> simp [hk]
      have htold := (hR.told n).mpr ⟨hact, fun e => hp (Eq.symm e)⟩
      cases htold
    · obtain ⟨z, hz, hn, hg⟩ := hz
      exact hno z hz hn hg
  · have hkeep : ∀ y ∈ l, reactAdd n gw ans (famOf gw) y = .keep := fun y hy => by
      rcases hown y (List.mem_append_left _ hy) with hk | ⟨-, hn, hg⟩
      · exact hk
      · exact absurd ⟨y, hy, hn, hg⟩ hz
    rw [reacts_keep hkeep, Upstream.next_down_via]
    refine iff_of_true (right_of_own (reacts_own (fun y hy => ?_) (Or.inl rfl))) ?_
    · exact (hown y (List.mem_append_right _ hy)).imp_right fun h => ⟨h.1, h.2.1⟩
    · exact fun z hz' hn hg => hz ⟨z, hz', hn, hg⟩

/-- **A default route, as its own family sees it.** -/
lemma right_upstreamAdd_same (H : Kept s) (ans : RouteAns)
    (hP : (s.upstream (famOf gw)).Right (r (famOf gw))) :
    ((s.process (upstreamAddEvent n gw ans)).upstream (famOf gw)).Right (some n) ↔
      (∀ y ∈ s.ifaces, y.ipaIfNum ≠ n → y.active (famOf gw) = true →
        DelOk y (famOf gw) (ans.old y.ipaIfNum)) ∧
      s.ifaces.Pairwise (fun x y => x.ipaIfNum = n → Gets x gw ans (famOf gw) →
        y.active (famOf gw) = false) := by
  rw [upstream_upstreamAdd H]
  by_cases hq : ∃ p ∈ s.ifaces, p.ipaIfNum ≠ n ∧ p.active (famOf gw) = true
  · obtain ⟨p, hp, hpn, hpa⟩ := hq
    have hvia : s.upstream (famOf gw) = .via p.ipaIfNum := by
      have hm := (H.mem_actives hp).mpr hpa
      rcases hP.cases with hu | ⟨m, -, hu⟩
      · rw [hu] at hm
        exact hm.elim
      · rw [hu] at hm ⊢
        rw [Set.mem_singleton_iff.mp hm]
    have hother : ∀ y ∈ s.ifaces, y.active (famOf gw) = true → y.ipaIfNum = p.ipaIfNum :=
      fun y hy ha => by
        have hm := (H.mem_actives hy).mpr ha
        rw [hvia] at hm
        exact hm
    by_cases hd : DelOk p (famOf gw) (ans.old p.ipaIfNum)
    · obtain ⟨l, l', e, hne⟩ := H.split hp
      have hq : ∀ y ∈ l ++ l', y.active (famOf gw) = false := fun y hy => by
        by_contra ha
        refine hne y hy (hother y ?_ (by simpa using ha))
        rw [e]
        simp only [List.mem_append, List.mem_cons] at hy ⊢
        tauto
      rw [hvia, e, right_upstreamAdd_moved ans (e ▸ H.nodup) hpn hpa hd hq]
      constructor
      · intro hno
        refine ⟨fun y hy hyn ha => ?_, ?_⟩
        · rw [← e] at hy
          rwa [eq_of_num H.nodup hy hp (hother y hy ha)]
        · refine List.pairwise_append.mpr ⟨?_, List.pairwise_cons.mpr ⟨?_, ?_⟩, ?_⟩
          · exact List.pairwise_of_forall_mem_list fun x _ y hy _ _ =>
              hq y (List.mem_append_left _ hy)
          · exact fun y _ hpn' => absurd hpn' hpn
          · exact List.pairwise_of_forall_mem_list fun x _ y hy _ _ =>
              hq y (List.mem_append_right _ hy)
          · intro x hx y hy hxn hg
            exact absurd hg (hno x hx hxn)
      · rintro ⟨-, hpair⟩ z hz hzn hg
        have hpf := (List.pairwise_append.mp hpair).2.2 z hz p (List.mem_cons_self ..) hzn hg
        rw [hpa] at hpf
        cases hpf
    · refine iff_of_false (fun hR => hpn ?_) fun hC => hd (hC.1 p hp hpn hpa)
      refine (Option.some.inj (hR.only p.ipaIfNum (mem_reacts ?_ fun z hz e => ?_))).symm
      · rw [hvia]
        exact Set.mem_singleton _
      · obtain rfl := eq_of_num H.nodup hz hp e
        rw [reactAdd, if_neg hpn, if_neg fun h3 => hd h3.2.2]
        decide
  · have hq' : ∀ y ∈ s.ifaces, y.ipaIfNum ≠ n → y.active (famOf gw) = false := fun y hy hyn => by
      by_contra ha
      exact hq ⟨y, hy, hyn, by simpa using ha⟩
    refine iff_of_true (right_upstreamAdd_free ans hP hq') ⟨fun y hy hyn ha => ?_, ?_⟩
    · rw [hq' y hy hyn] at ha
      cases ha
    · refine List.pairwise_of_forall_mem_list fun x hx y hy hxn hg => ?_
      by_cases hyn : y.ipaIfNum = n
      · obtain rfl := eq_of_num H.nodup hx hy (hxn.trans hyn.symm)
        exact hg.not_active (H.sound x hx)
      · exact hq' y hy hyn

/-- **A default route keeps the upstreams right just if it is clean.** -/
lemma right_upstreamAdd (H : Kept s) (ans : RouteAns) (hP : AllRight (s, r)) :
    AllRight ((WanOp.upstreamAdd n gw ans).handle s, (WanOp.upstreamAdd n gw ans).route r) ↔
      (WanOp.upstreamAdd n gw ans).Clean s r := by
  have hsame := right_upstreamAdd_same (n := n) (r := r) H ans (hP (famOf gw))
  have hother := fun h (hh : h ≠ famOf gw) =>
    right_upstreamAdd_other (n := n) (r := r) H ans hh (hP h)
  constructor
  · intro hR
    have hf := hR (famOf gw)
    simp only [WanOp.route, if_pos] at hf
    obtain ⟨h1, h2⟩ := hsame.mp hf
    refine ⟨h1, h2, fun z hz hzn h hh hg => ?_⟩
    have hRh := hR h
    simp only [WanOp.route, if_neg hh] at hRh
    exact (hother h hh).mp hRh z hz hzn hg
  · rintro ⟨h1, h2, h3⟩ h
    by_cases hh : h = famOf gw
    · subst hh
      simp only [WanOp.route, if_pos]
      exact hsame.mpr ⟨h1, h2⟩
    · simp only [WanOp.route, if_neg hh]
      exact (hother h hh).mpr fun z hz hzn hg => h3 z hz hzn h hh hg

/-- The default route leaves an interface that is not the upstream. -/
lemma Upstream.Right.leave {u : Upstream} {q : Option ℕ} (hP : u.Right q) (hn : n ∉ u.actives) :
    u.Right (if q = some n then none else q) := by
  rcases hP.cases with rfl | ⟨m, rfl, rfl⟩
  · exact Upstream.nowhere_right _
  · rw [if_neg]
    · exact hP
    · intro e
      exact hn (Option.some.inj e ▸ Set.mem_singleton m)

lemma not_mem_actives (hz : ∀ z ∈ s.ifaces, z.ipaIfNum ≠ n) : n ∉ (s.upstream h).actives := by
  rintro ⟨z, hz', e, -⟩
  exact hz z hz' e

/-- What is said of the instance for an interface. -/
lemma forall_num (H : Kept s) {z : WanIface} (hz : z ∈ s.ifaces) {P : WanIface → Prop} :
    (∀ y ∈ s.ifaces, y.ipaIfNum = z.ipaIfNum → P y) ↔ P z := by
  constructor
  · exact fun hP => hP z hz rfl
  · intro hP y hy e
    rwa [eq_of_num H.nodup hy hz e]

/-- **The default route goes.** -/
lemma right_upstreamDel (H : Kept s) (fam : IpType) (ans : RtAns) (hP : AllRight (s, r)) :
    AllRight ((WanOp.upstreamDel n fam ans).handle s, (WanOp.upstreamDel n fam ans).route r) ↔
      (WanOp.upstreamDel n fam ans).Clean s r := by
  by_cases hz : ∃ z ∈ s.ifaces, z.ipaIfNum = n
  · obtain ⟨z, hz, rfl⟩ := hz
    have hs := H.sound z hz
    have hup : ∀ h, ((WanOp.upstreamDel z.ipaIfNum fam ans).handle s).upstream h =
        (if h = fam ∧ z.active fam = true ∧ DelOk z fam ans then React.down else .keep).next
          z.ipaIfNum (s.upstream h) := fun h => by
      refine upstream_processFor H hz fun g => ⟨(upstreamDel_grows (a := (z, g)) ans hs).num, ?_⟩
      rw [view_upstreamDel (a := (z, g)) ans hs]
      split_ifs <;> rfl
    simp only [WanOp.Clean, forall_num H hz (P := fun z => z.active fam = true → DelOk z fam ans)]
    constructor
    · intro hR ha
      by_contra hd
      have hRf := hR fam
      rw [hup, if_neg fun h3 => hd h3.2.2] at hRf
      have hm := (H.mem_actives hz).mpr ha
      have hr : r fam = some z.ipaIfNum := (hP fam).only _ hm
      have hnone := hRf.only _ hm
      simp [WanOp.route, hr] at hnone
    · intro hC h
      rw [hup]
      by_cases hh : h = fam
      · subst hh
        by_cases ha : z.active h = true
        · rw [if_pos ⟨rfl, ha, hC ha⟩]
          exact (hP h).down ((H.mem_actives hz).mpr ha) _
        · rw [if_neg fun h3 => ha h3.2.1]
          simpa [WanOp.route, React.next] using (hP h).leave fun hm => ha ((H.mem_actives hz).mp hm)
      · rw [if_neg fun h3 => hh h3.1]
        simpa [WanOp.route, hh, React.next] using hP h
  · have hz' : ∀ z ∈ s.ifaces, z.ipaIfNum ≠ n := fun z h e => hz ⟨z, h, e⟩
    refine iff_of_true (fun h => ?_) fun z hz e => absurd e (hz' z hz)
    rw [WanOp.handle, processFor_absent hz']
    by_cases hh : h = fam
    · simpa [WanOp.route, hh] using (hP fam).leave (not_mem_actives hz')
    · simpa [WanOp.route, hh] using hP h

/-- **A neighbour's address.** -/
lemma right_neighAdd (H : Kept s) (mac : Mac) (addr : DstAddr) (ok : Bool) (ans : IpType → RtAns)
    (hP : AllRight (s, r)) :
    AllRight ((WanOp.neighAdd n mac addr ok ans).handle s,
        (WanOp.neighAdd n mac addr ok ans).route r) ↔
      (WanOp.neighAdd n mac addr ok ans).Clean s r := by
  by_cases hz : ∃ z ∈ s.ifaces, z.ipaIfNum = n
  · obtain ⟨z, hz, rfl⟩ := hz
    have hs := H.sound z hz
    have hup : ∀ h, ((WanOp.neighAdd z.ipaIfNum mac addr ok ans).handle s).upstream h =
        (if NeighGets z mac addr ok ans h then React.up else .keep).next z.ipaIfNum
          (s.upstream h) := fun h => by
      refine upstream_processFor H hz fun g => ⟨(neighAdd_grows mac addr ok ans (z, g)).num, ?_⟩
      rw [view_neighAdd]
      split_ifs <;> rfl
    have hiff : ∀ h, (((WanOp.neighAdd z.ipaIfNum mac addr ok ans).handle s).upstream h).Right
        (r h) ↔ (NeighGets z mac addr ok ans h → r h = some z.ipaIfNum) := fun h => by
      rw [hup, right_up_iff H hz (hP h) fun hg => hg.not_active hs]
    refine (forall_congr' hiff).trans ?_
    exact (forall_num H hz
      (P := fun x => ∀ h, NeighGets x mac addr ok ans h → r h = some z.ipaIfNum)).symm
  · have hz' : ∀ z ∈ s.ifaces, z.ipaIfNum ≠ n := fun z h e => hz ⟨z, h, e⟩
    refine iff_of_true (fun h => ?_) fun z hz e => absurd e (hz' z hz)
    rw [WanOp.handle, processFor_absent hz']
    exact hP h

/-- **An interface goes, as a family sees it.** -/
lemma upstream_linkDown (H : Kept s) {z : WanIface} (hz : z ∈ s.ifaces) (ans : IpType → RtAns) :
    ((WanOp.linkDown z.ipaIfNum ans).handle s).upstream h =
      ⟨(s.upstream h).actives \ {z.ipaIfNum}, (linkDownEvent ans (z, s.shared)).2.wanUp h,
        told h (linkDownEvent ans (z, s.shared)).2.posted⟩ := by
  have hshared : ((WanOp.linkDown z.ipaIfNum ans).handle s).shared =
      (linkDownEvent ans (z, s.shared)).2 := by
    obtain ⟨l, l', e, hne⟩ := H.split hz
    obtain ⟨ifaces, g⟩ := s
    obtain rfl : ifaces = l ++ z :: l' := e
    rw [WanOp.handle]
    dsimp only
    rw [processFor_split hne]
  refine Upstream.ext (Set.ext fun m => ?_) (by rw [← hshared]; rfl) (by rw [← hshared]; rfl)
  simp only [WanSys.upstream, linkDown_ifaces H, Set.mem_ofPred_eq, Set.mem_sdiff,
    Set.mem_singleton_iff, List.mem_filter, decide_eq_true_eq]
  constructor
  · rintro ⟨y, ⟨hy, hne⟩, rfl, ha⟩
    exact ⟨⟨y, hy, rfl, ha⟩, hne⟩
  · rintro ⟨⟨y, hy, rfl, ha⟩, hne⟩
    exact ⟨y, ⟨hy, hne⟩, rfl, ha⟩

lemma right_linkDown_family (H : Kept s) {z : WanIface} (hz : z ∈ s.ifaces)
    (ans : IpType → RtAns) {q : Option ℕ} (hP : (s.upstream h).Right q) :
    (((WanOp.linkDown z.ipaIfNum ans).handle s).upstream h).Right
        (if q = some z.ipaIfNum then none else q) ↔ LinkDownOk s.shared z h (ans h) := by
  have hs := H.sound z hz
  have hmem := H.mem_actives (h := h) hz
  obtain ⟨hup, htold, -⟩ := linkDown_spec (a := (z, s.shared)) (h := h) ans hs
  have hu : s.shared.wanUp h = (s.upstream h).wanUp := rfl
  have ht : told h s.shared.posted = (s.upstream h).told := rfl
  rw [upstream_linkDown H hz, hup, htold, LinkDownOk, hu, ht]
  dsimp only
  rcases hP.cases with hn | ⟨m, rfl, hv⟩
  · have ha : z.active h ≠ true := fun ha => by
      rw [hn] at hmem
      exact (hmem.mpr ha).elim
    rw [hn, if_neg ha]
    refine iff_of_true ?_ fun _ _ _ => rfl
    simpa [ha, Upstream.nowhere] using Upstream.nowhere_right _
  · rw [hv] at hmem ⊢
    by_cases ha : z.active h = true
    · obtain rfl : z.ipaIfNum = m := hmem.mpr ha
      rw [if_pos ha, if_pos rfl]
      by_cases hd : (z.isSta = true ∨ z.isDefaultGateway = true) ∧ DelOk z h (ans h)
      · have hip := hs.ip h ha
        refine iff_of_true ?_ hd
        have hoff : (z.isSta = true ∧ z.active h = true ∧ DelOk z h (ans h)) ∨
            (z.isSta = false ∧ z.isDefaultGateway = true ∧ hasIp z.ipType h = true) := by
          cases hsta : z.isSta <;> simp_all
        rw [if_pos hoff, if_pos ⟨hd.1, ha, hd.2⟩]
        simpa [Upstream.via, Upstream.nowhere] using Upstream.nowhere_right none
      · refine iff_of_false (fun hR => ?_) hd
        have htold := (hR.told z.ipaIfNum).mp (if_neg fun h3 => hd ⟨h3.1, h3.2.2⟩)
        exact htold.2 rfl
    · have hne : m ≠ z.ipaIfNum := fun e => ha (hmem.mp e.symm)
      rw [if_neg ha, if_neg (by simpa using hne), if_neg (c := _ ∧ z.active h = true ∧ _)
        fun h3 => ha h3.2.1]
      have hact : (Upstream.via m).actives \ {z.ipaIfNum} = {m} := by
        ext k
        simp only [Upstream.via, Set.mem_sdiff, Set.mem_singleton_iff]
        constructor
        · exact fun h => h.1
        · rintro rfl
          exact ⟨rfl, hne⟩
      rw [hact]
      by_cases hoff : z.isSta = false ∧ z.isDefaultGateway = true ∧ hasIp z.ipType h = true
      · rw [if_pos (Or.inr hoff)]
        refine iff_of_false (fun hR => ?_) fun hC => ?_
        · exact absurd hR.flag (by simp [Upstream.via])
        · exact absurd (hC hoff.1 hoff.2.1 hoff.2.2) (by simp [Upstream.via])
      · rw [if_neg fun h3 => h3.elim (fun h3 => ha h3.2.1) hoff]
        refine iff_of_true (Upstream.via_right.mpr rfl) fun h1 h2 h3 => absurd ⟨h1, h2, h3⟩ hoff

lemma right_linkDown (H : Kept s) (ans : IpType → RtAns) (hP : AllRight (s, r)) :
    AllRight ((WanOp.linkDown n ans).handle s, (WanOp.linkDown n ans).route r) ↔
      (WanOp.linkDown n ans).Clean s r := by
  by_cases hz : ∃ z ∈ s.ifaces, z.ipaIfNum = n
  · obtain ⟨z, hz, rfl⟩ := hz
    refine (forall_congr' fun h => right_linkDown_family H hz ans (hP h)).trans ?_
    exact (forall_num H hz (P := fun x => ∀ h, LinkDownOk s.shared x h (ans h))).symm
  · have hz' : ∀ z ∈ s.ifaces, z.ipaIfNum ≠ n := fun z h e => hz ⟨z, h, e⟩
    refine iff_of_true (fun h => ?_) fun z hz e => absurd e (hz' z hz)
    have hsame : (WanOp.linkDown n ans).handle s = s := by
      have hall : s.ifaces.filter (fun x => x.ipaIfNum ≠ n) = s.ifaces :=
        List.filter_eq_self.mpr fun z hz => decide_eq_true (hz' z hz)
      rw [WanOp.handle, processFor_absent hz', hall]
    rw [hsame]
    exact (hP h).leave (not_mem_actives hz')

/-- Events that do not concern the routes. -/
lemma right_processFor_keep {visit : WanAt → WanAt} (H : Kept s)
    (hv : ∀ z g, (visit (z, g)).1.ipaIfNum = z.ipaIfNum ∧
      ∀ h, view h (visit (z, g)) = view h (z, g)) (hP : AllRight (s, r)) :
    AllRight (s.processFor n visit, r) := by
  intro h
  by_cases hz : ∃ z ∈ s.ifaces, z.ipaIfNum = n
  · obtain ⟨z, hz, rfl⟩ := hz
    rw [upstream_processFor (r := .keep) H hz fun g => ⟨(hv z g).1, (hv z g).2 h⟩]
    exact hP h
  · rw [processFor_absent fun z h e => hz ⟨z, h, e⟩]
    exact hP h

/-! ## Every run -/

/-- **An event keeps the upstreams right just if it is clean.** -/
lemma WanOp.Step.right_iff_clean (H : Kept x.1) (hP : AllRight x) (h : op.Step x y) :
    AllRight y ↔ op.Clean x.1 x.2 := by
  obtain ⟨-, rfl⟩ := h
  cases op with
  | create n type bridge txProp hasRxProp extProp =>
      refine iff_of_true (fun h => ?_) trivial
      have hact : ((WanOp.create n type bridge txProp hasRxProp extProp).handle x.1).upstream h =
          x.1.upstream h := by
        refine Upstream.ext (Set.ext fun m => ?_) rfl rfl
        simp [WanSys.upstream, WanOp.handle, or_and_right, exists_or]
      rw [hact]
      exact hP h
  | addrAdd n addr ok =>
      refine iff_of_true (right_processFor_keep H (fun z g => ?_) hP) trivial
      have ha := addrAdd_alike addr ok (z, g)
      obtain ⟨hup, hposted⟩ := addrAdd_shared addr ok (z, g)
      exact ⟨ha.grows.num, fun h => by simp only [view, ha.active, hup, hposted]⟩
  | upstreamAdd n gw ans => exact right_upstreamAdd H ans hP
  | upstreamDel n fam ans => exact right_upstreamDel H fam ans hP
  | neighAdd n mac addr ok ans => exact right_neighAdd H mac addr ok ans hP
  | xlatConnect n =>
      exact iff_of_true (right_processFor_keep H (fun _ _ => ⟨rfl, fun _ => rfl⟩) hP) trivial
  | linkDown n ans => exact right_linkDown H ans hP

/-- At the start there is no interface. -/
def wanStart : WanSys × (IpType → Option ℕ) := ({}, fun _ => none)

lemma wanStart_kept : Kept wanStart.1 := ⟨List.nodup_nil, fun x hx => by simp [wanStart] at hx⟩

lemma wanStart_right : AllRight wanStart :=
  fun h => ⟨rfl, fun n => by simp [WanSys.upstream, wanStart], fun n hn => by
    simp [WanSys.upstream, wanStart] at hn⟩

/-- **Each family has the right upstream all along a run** just if every event of it is clean. -/
theorem wan_up_follows {ops : List WanOp} (hr : Run WanOp.Step wanStart ops x) :
    (∀ pre y, pre <+: ops → Run WanOp.Step wanStart pre y → AllRight y) ↔
      Run (fun x op y => op.Clean x.1 x.2 ∧ op.Step x y) wanStart ops x :=
  Run.always_iff (I := fun x => Kept x.1) (P := AllRight) (fun _ _ _ _ h h' => h.2.trans h'.2.symm)
    (fun _ _ _ H h => H.step h) (fun _ _ _ H hP h => h.right_iff_clean H hP) wanStart_kept
    wanStart_right hr

/-! ## A run -/

instance {g : WanShared} {z : WanIface} {ans : RtAns} : Decidable (LinkDownOk g z h ans) := by
  unfold LinkDownOk
  infer_instance

instance : Decidable (op.Fresh s) := by cases op <;> unfold WanOp.Fresh <;> infer_instance

instance : Decidable (op.Clean s r) := by cases op <;> unfold WanOp.Clean <;> infer_instance

/-- The step of an event, if it is clean. -/
def cleanStep (x : WanSys × (IpType → Option ℕ)) (op : WanOp) :
    Option ((WanSys × (IpType → Option ℕ)) × WanOp) :=
  if op.Fresh x.1 ∧ op.Clean x.1 x.2 then some ((op.handle x.1, op.route x.2), op) else none

lemma cleanStep_run {ops ops' : List WanOp} (h : execBy cleanStep x ops = some (y, ops')) :
    Run (fun x op y => op.Clean x.1 x.2 ∧ op.Step x y) x ops' y := by
  refine Run.of_execBy (fun x op p hp => ?_) h
  rw [cleanStep] at hp
  split_ifs at hp with hc
  cases hp
  exact ⟨hc.2, hc.1, rfl⟩

/-- The driver does all that it is asked for. -/
def willing : RtAns := ⟨fun _ => true, fun _ => 0, true, fun _ => true⟩

/-- The modem has the default route until WLAN gets it, whose gateway is known by then. -/
def handover : List WanOp :=
  [.create 0 .q6 false (some [.v4, .v6]) true (some 1), .addrAdd 0 (.v4 7) true,
    .upstreamAdd 0 (.v4 1) ⟨fun _ => willing, willing, fun _ => willing⟩,
    .create 1 .wlan false (some [.v4, .v6]) true none, .addrAdd 1 (.v4 9) true,
    .neighAdd 1 5 (.v4 2) true fun _ => willing,
    .upstreamAdd 1 (.v4 2) ⟨fun _ => willing, willing, fun _ => willing⟩]

/-- The route goes from the modem to WLAN, and so does the upstream of IPv4. -/
theorem wan_up_follows_handover : ∃ ops x, Run WanOp.Step wanStart ops x ∧ AllRight x ∧
    x.1.upstream .v4 = .via 1 ∧ x.1.shared.posted.length = 5 := by
  have hexec : ((execBy cleanStep wanStart handover).map fun p =>
      (told .v4 p.1.1.shared.posted, p.1.1.shared.posted.length)) = some (some 1, 5) := by decide
  obtain ⟨⟨x, ops⟩, he, hp⟩ := Option.map_eq_some_iff.mp hexec
  obtain ⟨htold, hlen⟩ := Prod.mk.inj hp
  have hclean := cleanStep_run he
  have hr : Run WanOp.Step wanStart ops x := hclean.mono fun _ _ _ h => h.2
  have hright := (wan_up_follows hr).mpr hclean ops x List.prefix_rfl hr
  refine ⟨ops, x, hr, hright, ?_, hlen⟩
  rcases (hright .v4).cases with hu | ⟨m, -, hu⟩
  · have hnone : (x.1.upstream .v4).told = none := congrArg Upstream.told hu
    cases hnone.symm.trans htold
  · have hm : (x.1.upstream .v4).told = some m := congrArg Upstream.told hu
    rw [hu, Option.some.inj (hm.symm.trans htold)]

end Ipacm.WanRoutes
