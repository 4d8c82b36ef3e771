import OcnDevice.Ipacm.WanRoutes.Spec

/-!
# What the events do to one instance

Each event is seen by a family as what `Spec` has for the functions: it makes the interface the
upstream, or it ends with none, or nothing changes.  Which of them is said by the record of the
instance before the event (`Gets`, `NeighGets`, `DelOk`).

A record only ever gains families and headers (`Grows`), and an instance that is active has what a
route needs (`Sound`).
-/

namespace Ipacm.WanRoutes

open HandleTable WlanRules

variable {x y z : WanIface} {a b : WanAt} {f h : IpType}

/-! ## Records -/

/-- What never changes stays, and no family or header is lost. -/
structure Grows (x y : WanIface) : Prop where
  num : y.ipaIfNum = x.ipaIfNum
  mode : y.isStaMode = x.isStaMode
  tx : y.txProp = x.txProp
  ip : ∀ f, hasIp x.ipType f = true → hasIp y.ipType f = true
  header : ∀ f, x.headerSet f = true → y.headerSet f = true

lemma Grows.refl (x : WanIface) : Grows x x := ⟨rfl, rfl, rfl, fun _ h => h, fun _ h => h⟩

lemma Grows.trans (h : Grows x y) (h' : Grows y z) : Grows x z where
  num := h'.num.trans h.num
  mode := h'.mode.trans h.mode
  tx := h'.tx.trans h.tx
  ip := fun f hf => h'.ip f (h.ip f hf)
  header := fun f hf => h'.header f (h.header f hf)

lemma Grows.of_core (e : y.core = x.core) : Grows x y where
  num := core_num e
  mode := core_mode e
  tx := core_tx e
  ip := fun f hf => by rwa [core_ip e]
  header := fun f hf => by rwa [core_header e]

lemma Grows.sta (h : Grows x y) : y.isSta = x.isSta := by
  simp only [WanIface.isSta, h.mode]

/-- **What an instance has.**  An active interface has addresses and tx properties for the family,
and a header if it is a station; and only stations wait for headers. -/
structure Sound (x : WanIface) : Prop where
  ip : ∀ f, x.active f = true → hasIp x.ipType f = true
  tx : ∀ f, x.active f = true → x.txProp ≠ none
  header : x.isSta = true → ∀ f, x.active f = true → x.headerSet f = true
  wait : ∀ f, x.headerPartialDefaultWan f = true → x.isSta = true ∧ hasIp x.ipType f = true

/-- A sound record stays sound when what gets active has what it needs. -/
lemma Sound.next (hs : Sound x) (hg : Grows x y)
    (hact : ∀ f, y.active f = true → x.active f = true ∨ hasIp y.ipType f = true ∧
      y.txProp ≠ none ∧ (y.isSta = true → y.headerSet f = true))
    (hpart : ∀ f, y.headerPartialDefaultWan f = true → x.headerPartialDefaultWan f = true ∨
      y.isSta = true ∧ hasIp y.ipType f = true) : Sound y where
  ip := fun f hf => by
    rcases hact f hf with h | h
    · exact hg.ip f (hs.ip f h)
    · exact h.1
  tx := fun f hf => by
    rcases hact f hf with h | h
    · rw [hg.tx]
      exact hs.tx f h
    · exact h.2.1
  header := fun hsta f hf => by
    rcases hact f hf with h | h
    · exact hg.header f (hs.header (hg.sta ▸ hsta) f h)
    · exact h.2.2 hsta
  wait := fun f hf => by
    rcases hpart f hf with h | h
    · exact ⟨hg.sta.trans (hs.wait f h).1, hg.ip f (hs.wait f h).2⟩
    · exact h

section Parts

variable {v : Bool × Bool × Option ℕ}

lemma view_active (e : view h b = v) : b.1.active h = v.1 := congrArg Prod.fst e

lemma view_wanUp (e : view h b = v) : b.2.wanUp h = v.2.1 := congrArg (fun v => v.2.1) e

lemma view_told (e : view h b = v) : told h b.2.posted = v.2.2 := congrArg (fun v => v.2.2) e

end Parts

/-! ## Adding a route -/

lemma Sound.routeAdd (hs : Sound a.1) (hip : hasIp a.1.ipType f = true) (ans : RtAns) :
    Sound (handleRouteAddEvt a f ans).1 := by
  have hcore := core_routeAdd a f ans
  refine hs.next (.of_core hcore) (fun g hg => ?_) fun g hg => ?_
  · by_cases hok : g = f ∧ AddOk a.1 f ans
    · obtain ⟨rfl, hok⟩ := hok
      refine Or.inr ⟨by rwa [core_ip hcore], by rw [core_tx hcore]; exact hok.tx, fun hsta => ?_⟩
      rw [core_header hcore]
      exact hok.header (core_sta hcore ▸ hsta)
    · rw [view_active (view_routeAdd a f g ans), if_neg hok] at hg
      exact Or.inl hg
  · rcases handleRouteAddEvt_cases a f ans with ⟨-, b, -, -, hp, e⟩ | ⟨-, -, -, hp | ⟨hsta, hp⟩⟩
    · have hup : (routeUp b f).1.headerPartialDefaultWan = b.1.headerPartialDefaultWan := by
        cases f <;> rfl
      rw [e, hup, hp] at hg
      exact Or.inl hg
    · exact Or.inl (hp ▸ hg)
    · rcases eq_or_ne g f with rfl | hne
      · exact Or.inr ⟨(core_sta hcore).trans hsta, by rwa [core_ip hcore]⟩
      · rw [hp, Function.update_of_ne hne] at hg
        exact Or.inl hg

lemma Sound.addPartial (hs : Sound a.1) (f : IpType) (ans : RtAns) :
    Sound (addPartial f ans a).1 := by
  rw [WanRoutes.addPartial]
  split_ifs with hp
  · exact hs.routeAdd (hs.wait f hp).2 ans
  · exact hs

/-- The search for headers. -/
lemma findHeaders_grows (x : WanIface) : Grows x (findHeaders x).1 := by
  obtain ⟨⟨hs, e, hmono⟩, -⟩ := findHeaders_spec x
  rw [e]
  exact ⟨rfl, rfl, rfl, fun _ h => h, hmono⟩

lemma Sound.findHeaders (hs : Sound x) : Sound (findHeaders x).1 := by
  refine hs.next (findHeaders_grows x) (fun g hg => Or.inl ?_) fun g hg => Or.inl ?_
  all_goals
    obtain ⟨⟨hs, e, -⟩, -⟩ := findHeaders_spec x
    rw [e] at hg
    exact hg

lemma staHeaderAdd_grows (a : WanAt) (ans : IpType → RtAns) :
    Grows a.1 (handleStaHeaderAddEvt a ans).1 := by
  rw [handleStaHeaderAddEvt]
  split_ifs
  · exact findHeaders_grows a.1
  · refine (findHeaders_grows a.1).trans (.of_core ?_)
    rw [core_addPartial, core_addPartial]

lemma Sound.staHeaderAdd (hs : Sound a.1) (ans : IpType → RtAns) :
    Sound (handleStaHeaderAddEvt a ans).1 := by
  rw [handleStaHeaderAddEvt]
  split_ifs
  · exact hs.findHeaders
  · exact Sound.addPartial (Sound.addPartial hs.findHeaders .v4 _) .v6 _

/-- An active station finds no new headers, so that a family that gets its route was not active. -/
lemma WaitOk.not_active {ans : IpType → RtAns} (hw : WaitOk x h ans) (hs : Sound x) :
    x.active h = false := by
  by_contra ha
  have hheader := hs.header (hs.wait h hw.2.1).1 h (by simpa using ha)
  rw [(findHeaders_spec x).2 hw.1 h] at hheader
  exact absurd hheader (by decide)

/-! ## A route to the interface itself -/

/-- The event is for an interface that is not active and has addresses of the family. -/
def Ready (x : WanIface) (gw : DstAddr) : Prop :=
  x.active (famOf gw) = false ∧ hasIp x.ipType (famOf gw) = true ∧
    (famOf gw = .v6 → x.ipv6Prefix ≠ (0, 0))

/-- **A default route to the interface makes it the upstream of a family**: that of the route, or one
that waited for the headers. -/
def Gets (x : WanIface) (gw : DstAddr) (ans : RouteAns) (h : IpType) : Prop :=
  Ready x gw ∧ (WaitOk (setGateway x gw) h ans.waiting ∨
    h = famOf gw ∧ AddOk (findHeaders (setGateway x gw)).1 h ans.own)

instance {gw : DstAddr} : Decidable (Ready x gw) := by unfold Ready; infer_instance

instance {gw : DstAddr} {ans : RouteAns} : Decidable (Gets x gw ans h) := by
  unfold Gets; infer_instance

lemma view_tether (a : WanAt) (f h : IpType) : view h (postWanUpTetherEvt a f) = view h a := by
  simp [view, postWanUpTetherEvt, toldStep]

lemma setGateway_view (gw : DstAddr) (a : WanAt) :
    view h (setGateway a.1 gw, a.2) = view h a := by
  cases gw <;> rfl

lemma setGateway_grows (x : WanIface) (gw : DstAddr) : Grows x (setGateway x gw) := by
  cases gw <;> exact ⟨rfl, rfl, rfl, fun _ h => h, fun _ h => h⟩

lemma Sound.setGateway (hs : Sound x) (gw : DstAddr) : Sound (setGateway x gw) := by
  cases gw <;> exact ⟨hs.ip, hs.tx, hs.header, hs.wait⟩

lemma core_staHeaderAdd (a : WanAt) (ans : IpType → RtAns) :
    (handleStaHeaderAddEvt a ans).1.core = (findHeaders a.1).1.core := by
  rw [handleStaHeaderAddEvt]
  split_ifs
  · rfl
  · rw [core_addPartial, core_addPartial]

lemma view_takeRoute (gw : DstAddr) (ans : RouteAns) (a : WanAt)
    (ha : a.1.active (famOf gw) = false) :
    view h (takeRoute gw ans a) =
      if WaitOk (setGateway a.1 gw) h ans.waiting ∨
          h = famOf gw ∧ AddOk (findHeaders (setGateway a.1 gw)).1 h ans.own then upView a.1
      else view h a := by
  have hup : upView (setGateway a.1 gw) = upView a.1 := by cases gw <;> rfl
  have hb : ∀ h, view h (handleStaHeaderAddEvt (setGateway a.1 gw, a.2) ans.waiting) =
      if WaitOk (setGateway a.1 gw) h ans.waiting then upView a.1 else view h a := fun h => by
    rw [view_staHeaderAdd, hup, setGateway_view]
  rw [takeRoute]
  split_ifs with hact hg hg
  · rcases hg with hw | ⟨rfl, -⟩
    · rw [hb, if_pos hw]
    · -- the view says which of the two made it active
      rw [hb] at *
      by_cases hw : WaitOk (setGateway a.1 gw) (famOf gw) ans.waiting
      · rw [if_pos hw]
      · rw [view_active (hb _), if_neg hw] at hact
        exact absurd (ha.symm.trans hact) (by decide)
  · rw [hb, if_neg fun hw => hg (Or.inl hw)]
  all_goals
    have hcore := core_staHeaderAdd (setGateway a.1 gw, a.2) ans.waiting
    have hnum : upView (handleStaHeaderAddEvt (setGateway a.1 gw, a.2) ans.waiting).1 =
        upView a.1 := by
      rw [← hup, upView, upView, (staHeaderAdd_grows _ _).num]
    rw [view_routeAdd]
    simp only [addOk_congr hcore, hnum, hb]
  · rcases hg with hw | hr
    · rw [if_pos hw, ite_self]
    · rw [if_pos ⟨hr.1, hr.1 ▸ hr.2⟩]
  · have hno : ¬ (h = famOf gw ∧ AddOk (findHeaders (setGateway a.1 gw)).1 (famOf gw) ans.own) :=
      fun h3 => hg (Or.inr ⟨h3.1, h3.1 ▸ h3.2⟩)
    rw [if_neg hno, if_neg fun hw => hg (Or.inl hw)]

/-- **A route to the interface, as a family sees it.** -/
lemma view_upstreamAddOwn (gw : DstAddr) (ans : RouteAns) (a : WanAt) :
    view h (upstreamAddOwn gw ans a) = if Gets a.1 gw ans h then upView a.1 else view h a := by
  by_cases hr : Ready a.1 gw
  · have ⟨ha, hip, hpre⟩ := hr
    rw [upstreamAddOwn, if_neg (by simp [hip]), if_neg fun h => hpre h.1 h.2, if_neg (by simp [ha]),
      view_tether, view_takeRoute gw ans a ha]
    exact if_congr (and_iff_right hr).symm rfl rfl
  · rw [if_neg fun hg => hr hg.1, upstreamAddOwn]
    split_ifs with hip hpre ha
    · rfl
    · rfl
    · rw [view_tether]
    · exact absurd ⟨by simpa using ha, by simpa using hip, fun h6 h0 => hpre ⟨h6, h0⟩⟩ hr

lemma takeRoute_grows (gw : DstAddr) (ans : RouteAns) (a : WanAt) :
    Grows a.1 (takeRoute gw ans a).1 := by
  have hb := (setGateway_grows a.1 gw).trans
    (staHeaderAdd_grows (setGateway a.1 gw, a.2) ans.waiting)
  rw [takeRoute]
  split_ifs
  · exact hb
  · exact hb.trans (.of_core (core_routeAdd _ _ _))

lemma upstreamAddOwn_grows (gw : DstAddr) (ans : RouteAns) (a : WanAt) :
    Grows a.1 (upstreamAddOwn gw ans a).1 := by
  rw [upstreamAddOwn]
  split_ifs
  · exact .refl _
  · exact .refl _
  · exact .refl _
  · exact takeRoute_grows gw ans a

lemma Sound.upstreamAddOwn (hs : Sound a.1) (gw : DstAddr) (ans : RouteAns) :
    Sound (upstreamAddOwn gw ans a).1 := by
  rw [WanRoutes.upstreamAddOwn]
  split_ifs with hip
  · exact hs
  · exact hs
  · exact hs
  · have hb := Sound.staHeaderAdd (a := (WanRoutes.setGateway a.1 gw, a.2)) (hs.setGateway gw)
      ans.waiting
    change Sound (takeRoute gw ans a).1
    rw [takeRoute]
    split_ifs
    · exact hb
    · refine hb.routeAdd ?_ _
      refine (staHeaderAdd_grows _ _).ip _ ((setGateway_grows a.1 gw).ip _ ?_)
      simpa using hip

/-! ## A route that goes -/

lemma routeDel_grows (places : List WanRtHdl) (ans : RtAns) (hs : Sound a.1) :
    Grows a.1 (routeDel a f ans places).1 :=
  .of_core (routeDel_record a f ans places (hs.tx f)).1

lemma Sound.routeDel (hs : Sound a.1) (places : List WanRtHdl) (ans : RtAns) :
    Sound (routeDel a f ans places).1 := by
  refine hs.next (routeDel_grows places ans hs) (fun g hg => Or.inl ?_) fun g hg => Or.inl ?_
  · rw [view_active (view_routeDel a f g ans places (hs.tx f))] at hg
    split_ifs at hg
    · exact absurd hg (by decide)
    · exact hg
  · rwa [(routeDel_record a f ans places (hs.tx f)).2] at hg

lemma forgetGateway_grows (x : WanIface) (f : IpType) : Grows x (forgetGateway x f) := by
  cases f <;> exact ⟨rfl, rfl, rfl, fun _ h => h, fun _ h => h⟩

lemma Sound.forgetGateway (hs : Sound x) (f : IpType) : Sound (forgetGateway x f) := by
  cases f <;> exact ⟨hs.ip, hs.tx, hs.header, hs.wait⟩

lemma forgetGateway_view (f : IpType) (a : WanAt) : view h (forgetGateway a.1 f, a.2) = view h a := by
  cases f <;> rfl

lemma delOk_forgetGateway {ans : RtAns} : DelOk (forgetGateway x f) h ans ↔ DelOk x h ans := by
  cases f <;> exact Iff.rfl

/-- **A route to another interface, as a family sees it.** -/
lemma view_upstreamAddOther (ans : RouteAns) (hs : Sound a.1) :
    view h (upstreamAddOther f ans a) =
      if h = f ∧ a.1.active f = true ∧ DelOk a.1 f (ans.old a.1.ipaIfNum) then downView
      else view h a := by
  have hs' := hs.forgetGateway f
  have ha : (forgetGateway a.1 f).active = a.1.active := by cases f <;> rfl
  rw [upstreamAddOther]
  split_ifs with hact hd hd
  · rw [view_routeDelEvt _ _ _ _ (hs'.tx f), if_pos]
    exact ⟨hd.1, by rw [ha]; exact hact, delOk_forgetGateway.mpr hd.2.2⟩
  · rw [view_routeDelEvt _ _ _ _ (hs'.tx f), if_neg, forgetGateway_view]
    exact fun h3 => hd ⟨h3.1, hact, delOk_forgetGateway.mp h3.2.2⟩
  · exact absurd hd.2.1 hact
  · rfl

lemma upstreamAddOther_grows (ans : RouteAns) (hs : Sound a.1) :
    Grows a.1 (upstreamAddOther f ans a).1 := by
  rw [upstreamAddOther]
  split_ifs
  · rw [routeDelEvt_eq]
    exact (forgetGateway_grows a.1 f).trans
      (routeDel_grows (a := (forgetGateway a.1 f, a.2)) _ _ (hs.forgetGateway f))
  · exact .refl _

lemma Sound.upstreamAddOther (hs : Sound a.1) (ans : RouteAns) :
    Sound (upstreamAddOther f ans a).1 := by
  rw [WanRoutes.upstreamAddOther]
  split_ifs
  · rw [routeDelEvt_eq]
    exact Sound.routeDel (a := (WanRoutes.forgetGateway a.1 f, a.2)) (hs.forgetGateway f) _ _
  · exact hs

/-- `IPA_WAN_UPSTREAM_ROUTE_DEL_EVENT`, as a family sees it. -/
lemma view_upstreamDel (ans : RtAns) (hs : Sound a.1) :
    view h (upstreamDelEvent f ans a) =
      if h = f ∧ a.1.active f = true ∧ DelOk a.1 f ans then downView else view h a := by
  have hs' := hs.forgetGateway f
  have hpost : ∀ b : WanAt, view h (postWanDownTetherEvt b f) = view h b := fun b => by
    simp [view, postWanDownTetherEvt, toldStep]
  have ha : (forgetGateway a.1 f).active = a.1.active := by cases f <;> rfl
  rw [upstreamDelEvent]
  split_ifs with hact hd hd
  · rw [view_routeDelEvt _ _ _ _ (hs'.tx f), if_pos]
    exact ⟨hd.1, by rw [postWanDownTetherEvt, ha]; exact hact, delOk_forgetGateway.mpr hd.2.2⟩
  · rw [view_routeDelEvt _ _ _ _ (hs'.tx f), if_neg, hpost, forgetGateway_view]
    exact fun h3 => hd ⟨h3.1, hact, delOk_forgetGateway.mp h3.2.2⟩
  · exact absurd hd.2.1 hact
  · rfl

lemma upstreamDel_grows (ans : RtAns) (hs : Sound a.1) :
    Grows a.1 (upstreamDelEvent f ans a).1 := by
  rw [upstreamDelEvent]
  split_ifs
  · rw [routeDelEvt_eq]
    exact (forgetGateway_grows a.1 f).trans
      (routeDel_grows (a := postWanDownTetherEvt (forgetGateway a.1 f, a.2) f) _ _
        (hs.forgetGateway f))
  · exact .refl _

lemma Sound.upstreamDel (hs : Sound a.1) (ans : RtAns) :
    Sound (upstreamDelEvent f ans a).1 := by
  rw [upstreamDelEvent]
  split_ifs
  · rw [routeDelEvt_eq]
    exact Sound.routeDel (a := postWanDownTetherEvt (WanRoutes.forgetGateway a.1 f, a.2) f)
      (hs.forgetGateway f) _ _
  · exact hs

/-! ## Addresses, neighbours and gateways -/

/-- Two records that differ in nothing that concerns the routes, except that the second may have
families that the first has not. -/
structure Alike (x y : WanIface) : Prop where
  grows : Grows x y
  active : y.active = x.active
  header : y.headerSet = x.headerSet
  part : y.headerPartialDefaultWan = x.headerPartialDefaultWan

lemma Alike.refl (x : WanIface) : Alike x x := ⟨.refl x, rfl, rfl, rfl⟩

lemma Sound.alike (hs : Sound x) (h : Alike x y) : Sound y := by
  refine hs.next h.grows (fun f hf => Or.inl ?_) fun f hf => Or.inl ?_
  · rwa [h.active] at hf
  · rwa [h.part] at hf

lemma addrAdd_alike (addr : DstAddr) (ok : Bool) (a : WanAt) :
    Alike a.1 (addrAddEvent addr ok a).1 := by
  have hgrows : ∀ f {y : WanIface}, y.ipaIfNum = a.1.ipaIfNum → y.isStaMode = a.1.isStaMode →
      y.txProp = a.1.txProp → y.ipType = configIpType a.1.ipType f → y.headerSet = a.1.headerSet →
      Grows a.1 y := fun f y h1 h2 h3 h4 h5 =>
    ⟨h1, h2, h3, fun g hg => by rw [h4, hasIp_configIpType, hg, Bool.true_or],
      fun g hg => by rwa [h5]⟩
  cases addr with
  | v4 ip =>
      rw [addrAddEvent]
      dsimp only
      split_ifs
      · exact .refl _
      all_goals exact ⟨hgrows .v4 rfl rfl rfl rfl rfl, rfl, rfl, rfl⟩
  | v6 ip =>
      rw [addrAddEvent]
      dsimp only
      split_ifs
      · exact .refl _
      all_goals exact ⟨hgrows .v6 rfl rfl rfl rfl rfl, rfl, rfl, rfl⟩

lemma addrAdd_shared (addr : DstAddr) (ok : Bool) (a : WanAt) :
    (addrAddEvent addr ok a).2.wanUp = a.2.wanUp ∧
      (addrAddEvent addr ok a).2.posted = a.2.posted := by
  cases addr <;> rw [addrAddEvent] <;> dsimp only <;> split_ifs <;> exact ⟨rfl, rfl⟩

lemma neighRecord_alike (x : WanIface) (mac : Mac) (addr : DstAddr) (ok : Bool) :
    Alike x (neighRecord x mac addr ok).1 := by
  have hinit : Alike x (handleWanHdrInit x mac ok) := by
    rw [handleWanHdrInit]
    split_ifs
    · exact .refl _
    · exact ⟨⟨rfl, rfl, rfl, fun _ h => h, fun _ h => h⟩, rfl, rfl, rfl⟩
  rw [neighRecord]
  split_ifs
  · exact .refl _
  · dsimp only
    cases hy : handleWanClientIpaddr (handleWanHdrInit x mac ok) mac addr with
    | none => exact hinit
    | some z =>
        rw [handleWanClientIpaddr] at hy
        split at hy
        · cases hy
        · obtain ⟨c, -, rfl⟩ := Option.map_eq_some_iff.mp hy
          exact ⟨⟨hinit.grows.num, hinit.grows.mode, hinit.grows.tx, hinit.grows.ip,
            hinit.grows.header⟩, hinit.active, hinit.header, hinit.part⟩

/-- **A neighbour's address makes the interface the upstream of a family** whose route waited for
it. -/
def NeighGets (x : WanIface) (mac : Mac) (addr : DstAddr) (ok : Bool) (ans : IpType → RtAns)
    (h : IpType) : Prop :=
  (neighRecord x mac addr ok).2 = true ∧ WaitOk (neighRecord x mac addr ok).1 h ans

instance {mac : Mac} {addr : DstAddr} {ok : Bool} {ans : IpType → RtAns} :
    Decidable (NeighGets x mac addr ok ans h) := by unfold NeighGets; infer_instance

/-- **A neighbour's address, as a family sees it.** -/
lemma view_neighAdd (mac : Mac) (addr : DstAddr) (ok : Bool) (ans : IpType → RtAns) (a : WanAt) :
    view h (neighAddEvent mac addr ok ans a) =
      if NeighGets a.1 mac addr ok ans h then upView a.1 else view h a := by
  have hr := neighRecord_alike a.1 mac addr ok
  have hv : view h ((neighRecord a.1 mac addr ok).1, a.2) = view h a := by
    simp only [view, hr.active]
  have hup : upView (neighRecord a.1 mac addr ok).1 = upView a.1 := by
    simp only [upView, hr.grows.num]
  rw [neighAddEvent]
  split_ifs with h1 h2 h2
  · rw [view_staHeaderAdd, if_pos h2.2, hup]
  · rw [view_staHeaderAdd, if_neg fun h3 => h2 ⟨h1, h3⟩, hv]
  · exact absurd h2.1 h1
  · exact hv

lemma neighAdd_grows (mac : Mac) (addr : DstAddr) (ok : Bool) (ans : IpType → RtAns) (a : WanAt) :
    Grows a.1 (neighAddEvent mac addr ok ans a).1 := by
  have hr := (neighRecord_alike a.1 mac addr ok).grows
  rw [neighAddEvent]
  split_ifs
  · exact hr.trans (staHeaderAdd_grows ((neighRecord a.1 mac addr ok).1, a.2) ans)
  · exact hr

lemma Sound.neighAdd (hs : Sound a.1) (mac : Mac) (addr : DstAddr) (ok : Bool)
    (ans : IpType → RtAns) : Sound (neighAddEvent mac addr ok ans a).1 := by
  have hr := hs.alike (neighRecord_alike a.1 mac addr ok)
  rw [neighAddEvent]
  split_ifs
  · exact Sound.staHeaderAdd (a := ((neighRecord a.1 mac addr ok).1, a.2)) hr ans
  · exact hr

/-! ## The interface goes -/

lemma view_downTether (a : WanAt) (f h : IpType) :
    view h (postWanDownTetherEvt a f) = view h a := by
  simp [view, postWanDownTetherEvt, toldStep]

lemma view_downSta (ans : RtAns) (hs : Sound a.1) (hsta : a.1.isSta = true) :
    view h (downSta f ans a) =
      if h = f ∧ a.1.active f = true ∧ DelOk a.1 f ans then downView else view h a := by
  have hp : a.1.txPlaces f ++ a5Places f = a.1.places f := by rw [WanIface.places, if_pos hsta]
  rw [downSta]
  split_ifs with hact hd hd
  · rw [view_downTether, handleRouteDelEvt, hp, view_routeDel _ _ _ _ _ (hs.tx f)]
    exact if_pos hd
  · rw [view_downTether, handleRouteDelEvt, hp, view_routeDel _ _ _ _ _ (hs.tx f)]
    exact if_neg hd
  · exact absurd hd.2.1 hact
  · rfl

lemma downSta_record (ans : RtAns) (hs : Sound a.1) :
    (downSta f ans a).1.core = a.1.core ∧ Sound (downSta f ans a).1 := by
  rw [downSta]
  split_ifs
  · exact ⟨(routeDel_record a f ans _ (hs.tx f)).1, hs.routeDel _ ans⟩
  · exact ⟨rfl, hs⟩

lemma delOk_congr {ans : RtAns} (e : x.core = y.core) : DelOk x f ans ↔ DelOk y f ans := by
  simp only [DelOk, WanIface.places, core_sta e, core_txPlaces e]

/-- **A station goes, as a family sees it.** -/
lemma view_handleDownEvt (ans : IpType → RtAns) (hs : Sound a.1) (hsta : a.1.isSta = true) :
    view h (handleDownEvt ans a) =
      if a.1.active h = true ∧ DelOk a.1 h (ans h) then downView else view h a := by
  rw [handleDownEvt]
  split_ifs with hip hd hd
  · have hno := hs.ip h hd.1
    rw [hip] at hno
    cases h <;> simp [hasIp] at hno
  · rfl
  all_goals
    obtain ⟨hcore, hs4⟩ := downSta_record (f := .v4) (ans .v4) hs
    have hact := view_active (view_downSta (f := .v4) (h := .v6) (ans .v4) hs hsta)
    rw [if_neg (by simp)] at hact
    rw [view_downSta _ hs4 ((core_sta hcore).trans hsta), view_downSta _ hs hsta]
    simp only [delOk_congr hcore, hact, view]
    cases h <;> simp_all

lemma core_handleDownEvt (ans : IpType → RtAns) (hs : Sound a.1) :
    (handleDownEvt ans a).1.core = a.1.core := by
  rw [handleDownEvt]
  split_ifs
  · rfl
  · obtain ⟨hcore, hs4⟩ := downSta_record (f := .v4) (ans .v4) hs
    rw [(downSta_record (ans .v6) hs4).1, hcore]

/-- What `handle_down_evt_ex` does of a family to what is shared. -/
lemma downQ6_spec (ans : RtAns) (hs : Sound a.1) (hq : a.1.isSta = false) :
    ((downQ6 f ans a).2.wanUp h = if h = f then false else a.2.wanUp h) ∧
      (told h (downQ6 f ans a).2.posted =
        if h = f ∧ a.1.active f = true ∧ DelOk a.1 f ans then none else told h a.2.posted) ∧
      (h ≠ f → (downQ6 f ans a).1.active h = a.1.active h) := by
  have hp : a5Places f = a.1.places f := by rw [WanIface.places, if_neg (by simp [hq])]
  have hv : view h (downQ6 f ans a) =
      if h = f ∧ a.1.active f = true ∧ DelOk a.1 f ans then downView
      else view h (markDown f a) := by
    rw [downQ6, view_downTether, handleRouteDelEvtEx, hp]
    exact view_routeDel (markDown f a) f h ans _ (hs.tx f)
  refine ⟨?_, ?_, fun hne => ?_⟩
  · rw [view_wanUp hv]
    rcases eq_or_ne h f with rfl | hne
    · rw [if_pos rfl]
      split_ifs <;> simp [downView, view, markDown]
    · simp [hne, view, markDown]
  · rw [view_told hv]
    exact apply_ite (fun v : Bool × Bool × Option ℕ => v.2.2) _ _ _
  · rw [view_active hv, if_neg fun h3 => hne h3.1]
    rfl

lemma downQ6_record (ans : RtAns) (hs : Sound a.1) :
    (downQ6 f ans a).1.core = a.1.core ∧ Sound (downQ6 f ans a).1 :=
  ⟨(routeDel_record (markDown f a) f ans _ (hs.tx f)).1,
    Sound.routeDel (a := markDown f a) hs _ ans⟩

/-- **The modem's interface goes**: every family that it has addresses of is down from then on, but
only if `is_default_gateway` is set. -/
lemma handleDownEvtEx_spec (ans : IpType → RtAns) (hs : Sound a.1) (hq : a.1.isSta = false) :
    ((handleDownEvtEx ans a).2.wanUp h =
      if a.1.isDefaultGateway = true ∧ hasIp a.1.ipType h = true then false else a.2.wanUp h) ∧
      (told h (handleDownEvtEx ans a).2.posted =
        if a.1.isDefaultGateway = true ∧ a.1.active h = true ∧ DelOk a.1 h (ans h) then none
        else told h a.2.posted) ∧
      (handleDownEvtEx ans a).1.core = a.1.core := by
  have hno : a.1.active h = true → hasIp a.1.ipType h = true := hs.ip h
  by_cases hd : a.1.isDefaultGateway = false
  · rw [handleDownEvtEx, if_pos hd]
    simp [hd]
  · have hd' : a.1.isDefaultGateway = true := by simpa using hd
    have h4 := downQ6_spec (f := .v4) (h := h) (ans .v4) hs hq
    have h6 := downQ6_spec (f := .v6) (h := h) (ans .v6) hs hq
    obtain ⟨hcore, hs4⟩ := downQ6_record (f := .v4) (ans .v4) hs
    rw [handleDownEvtEx, if_neg hd]
    rcases hip : a.1.ipType with - | t
    · rw [hip] at hno
      cases h <;> simp_all [hasIp]
    · cases t with
      | v4 =>
          refine ⟨?_, ?_, hcore⟩
          · simp only [resetName, h4.1]
            cases h <;> simp [hd', hasIp]
          · simp only [resetName, h4.2.1]
            cases h <;> simp_all [hasIp]
      | v6 =>
          refine ⟨?_, ?_, (downQ6_record (ans .v6) hs).1⟩
          · simp only [resetName, h6.1]
            cases h <;> simp [hd', hasIp]
          · simp only [resetName, h6.2.1]
            cases h <;> simp_all [hasIp]
      | max =>
          have h46 := downQ6_spec (f := .v6) (h := h) (ans .v6) hs4 ((core_sta hcore).trans hq)
          have hact := (downQ6_spec (f := .v4) (h := .v6) (ans .v4) hs hq).2.2 (by decide)
          refine ⟨?_, ?_, (downQ6_record (ans .v6) hs4).1.trans hcore⟩
          · simp only [clearName, h46.1, h4.1]
            cases h <;> simp [hd', hasIp]
          · simp only [clearName, h46.2.1, h4.2.1, hact, delOk_congr hcore]
            cases h <;> simp [hd']

/-- **The interface goes, as a family sees it.** -/
lemma linkDown_spec (ans : IpType → RtAns) (hs : Sound a.1) :
    ((linkDownEvent ans a).2.wanUp h =
      if (a.1.isSta = true ∧ a.1.active h = true ∧ DelOk a.1 h (ans h)) ∨
        (a.1.isSta = false ∧ a.1.isDefaultGateway = true ∧ hasIp a.1.ipType h = true) then false
      else a.2.wanUp h) ∧
      (told h (linkDownEvent ans a).2.posted =
        if (a.1.isSta = true ∨ a.1.isDefaultGateway = true) ∧ a.1.active h = true ∧
          DelOk a.1 h (ans h) then none else told h a.2.posted) ∧
      (linkDownEvent ans a).1.ipaIfNum = a.1.ipaIfNum := by
  cases hsta : a.1.isSta with
  | true =>
      have hv := view_handleDownEvt (h := h) ans hs hsta
      rw [linkDownEvent, if_pos hsta]
      refine ⟨?_, ?_, core_num (core_handleDownEvt ans hs)⟩
      · rw [view_wanUp hv]
        by_cases hd : a.1.active h = true ∧ DelOk a.1 h (ans h) <;> simp [hd, downView, view]
      · rw [view_told hv]
        by_cases hd : a.1.active h = true ∧ DelOk a.1 h (ans h) <;> simp [hd, downView, view]
  | false =>
      obtain ⟨hup, htold, hcore⟩ := handleDownEvtEx_spec (h := h) ans hs hsta
      rw [linkDownEvent, if_neg (by simp [hsta])]
      refine ⟨?_, ?_, core_num hcore⟩
      · rw [hup]
        simp
      · rw [htold]
        simp

end Ipacm.WanRoutes
