import OcnDevice.Ipacm.WanRoutes.Model

/-!
# What the functions do to one family

Of a family there is little to know: whether the interface is active, whether `wan_up` is set, and
which interface was last reported to be up (`told`).  These are the `view` of an instance and what is
shared.  A function leaves the view as it was, or it makes it that of an upstream, or that of none;
which of them, is said by a condition on the record and the answers of the driver:

* `view_routeAdd`, `AddOk` -- `handle_route_add_evt` has all it needs;
* `view_staHeaderAdd`, `WaitOk` -- the headers are found for a route that waits;
* `view_routeDelEvt`, `DelOk` -- the routes are deleted.

Besides, they only change what `core` leaves out of a record.
-/

namespace Ipacm.WanRoutes

open HandleTable WlanRules

/-! ## Views -/

/-- What an event says of the upstream of a family. -/
def toldStep (fam : IpType) (cur : Option ℕ) : WanEvt → Option ℕ
  | .up f data => if f = fam then data.ifname else cur
  | .down f _ => if f = fam then none else cur
  | _ => cur

/-- The upstream of a family, by the events. -/
def told (fam : IpType) (posted : List WanEvt) : Option ℕ := posted.foldl (toldStep fam) none

@[simp] lemma told_nil (fam : IpType) : told fam [] = none := rfl

@[simp] lemma told_snoc (fam : IpType) (l : List WanEvt) (e : WanEvt) :
    told fam (l ++ [e]) = toldStep fam (told fam l) e := by
  simp [told]

/-- What there is to know of a family. -/
def view (h : IpType) (a : WanAt) : Bool × Bool × Option ℕ :=
  (a.1.active h, a.2.wanUp h, told h a.2.posted)

/-- The view of an upstream. -/
def upView (x : WanIface) : Bool × Bool × Option ℕ := (true, true, some x.ipaIfNum)

/-- The view where there is none. -/
def downView : Bool × Bool × Option ℕ := (false, false, none)

/-- A record without the members that the routes change. -/
def WanIface.core (x : WanIface) : WanIface :=
  { x with
    active := fun _ => false
    headerPartialDefaultWan := fun _ => false
    isDefaultGateway := false
    wanRouteRuleHdl := fun _ => 0 }

section Core

variable {x y : WanIface} {a b : WanAt} {f h : IpType} {ans : RtAns}

lemma core_num (e : x.core = y.core) : x.ipaIfNum = y.ipaIfNum := by
  simpa [WanIface.core] using congrArg WanIface.ipaIfNum e

lemma core_mode (e : x.core = y.core) : x.isStaMode = y.isStaMode := by
  simpa [WanIface.core] using congrArg WanIface.isStaMode e

lemma core_sta (e : x.core = y.core) : x.isSta = y.isSta := by
  simp only [WanIface.isSta, core_mode e]

lemma core_tx (e : x.core = y.core) : x.txProp = y.txProp := by
  simpa [WanIface.core] using congrArg WanIface.txProp e

lemma core_ext (e : x.core = y.core) : x.extProp = y.extProp := by
  simpa [WanIface.core] using congrArg WanIface.extProp e

lemma core_ip (e : x.core = y.core) : x.ipType = y.ipType := by
  simpa [WanIface.core] using congrArg WanIface.ipType e

lemma core_header (e : x.core = y.core) : x.headerSet = y.headerSet := by
  simpa [WanIface.core] using congrArg WanIface.headerSet e

lemma core_txPlaces (e : x.core = y.core) : x.txPlaces f = y.txPlaces f := by
  cases f <;> simp only [WanIface.txPlaces, core_tx e]

/-! ## Adding a route -/

/-- The driver adds the routes of a family. -/
def RoutesOk (x : WanIface) (f : IpType) (ans : RtAns) : Prop :=
  (x.isSta → ∀ k ∈ x.txPlaces f, ans.add k = true) ∧
    (f = .v6 → ans.hdr = true ∧ ans.add .v6A5 = true)

/-- `handle_route_add_evt` has all it needs. -/
structure AddOk (x : WanIface) (f : IpType) (ans : RtAns) : Prop where
  tx : x.txProp ≠ none
  header : x.isSta → x.headerSet f = true
  ext : x.isSta = false → x.extProp ≠ none
  routes : RoutesOk x f ans

instance : Decidable (RoutesOk x f ans) := by unfold RoutesOk; infer_instance

lemma addOk_iff : AddOk x f ans ↔ x.txProp ≠ none ∧ (x.isSta → x.headerSet f = true) ∧
    (x.isSta = false → x.extProp ≠ none) ∧ RoutesOk x f ans :=
  ⟨fun h => ⟨h.tx, h.header, h.ext, h.routes⟩, fun h => ⟨h.1, h.2.1, h.2.2.1, h.2.2.2⟩⟩

instance : Decidable (AddOk x f ans) := decidable_of_iff _ addOk_iff.symm

lemma routesOk_congr (e : x.core = y.core) : RoutesOk x f ans ↔ RoutesOk y f ans := by
  simp only [RoutesOk, core_sta e, core_txPlaces e]

/-- It does not depend on what the routes change. -/
lemma addOk_congr (e : x.core = y.core) : AddOk x f ans ↔ AddOk y f ans :=
  ⟨fun h => ⟨core_tx e ▸ h.tx, core_sta e ▸ core_header e ▸ h.header,
      core_sta e ▸ core_ext e ▸ h.ext, (routesOk_congr e).mp h.routes⟩,
    fun h => ⟨core_tx e ▸ h.tx, core_sta e ▸ core_header e ▸ h.header,
      core_sta e ▸ core_ext e ▸ h.ext, (routesOk_congr e).mpr h.routes⟩⟩

/-- Two states that differ in the routes that are installed. -/
def Installed (a b : WanAt) : Prop :=
  ∃ hdl rules, b = ({ a.1 with wanRouteRuleHdl := hdl }, { a.2 with rules := rules })

lemma Installed.refl (a : WanAt) : Installed a a := ⟨a.1.wanRouteRuleHdl, a.2.rules, rfl⟩

lemma Installed.trans {c : WanAt} (h : Installed a b) (h' : Installed b c) : Installed a c := by
  obtain ⟨hdl, rules, rfl⟩ := h
  obtain ⟨hdl', rules', rfl⟩ := h'
  exact ⟨hdl', rules', rfl⟩

lemma Installed.core (h : Installed a b) : b.1.core = a.1.core := by
  obtain ⟨hdl, rules, rfl⟩ := h
  rfl

lemma Installed.view (h : Installed a b) (f : IpType) : view f b = view f a := by
  obtain ⟨hdl, rules, rfl⟩ := h
  rfl

lemma addRules_spec (ans : RtAns) (ks : List WanRtHdl) (a : WanAt) : Installed a (addRules ans ks a).1 ∧
    ((addRules ans ks a).2 = true ↔ ∀ k ∈ ks, ans.add k = true) := by
  induction ks generalizing a with
  | nil => exact ⟨.refl a, by simp [addRules]⟩
  | cons k ks ih =>
      rw [addRules]
      split_ifs with hk
      · obtain ⟨h1, h2⟩ := ih (addRule k (ans.pick k) a)
        exact ⟨Installed.trans ⟨_, _, rfl⟩ h1, by simp [h2, hk]⟩
      · exact ⟨.refl a, by simp [hk]⟩

lemma deleteRules_spec (ans : RtAns) (ks : List WanRtHdl) (a : WanAt) : Installed a (deleteRules ans ks a).1 ∧
    ((deleteRules ans ks a).2 = true ↔ ∀ k ∈ ks, ans.del k = true) := by
  induction ks generalizing a with
  | nil => exact ⟨.refl a, by simp [deleteRules]⟩
  | cons k ks ih =>
      rw [deleteRules]
      split_ifs with hk
      · obtain ⟨h1, h2⟩ := ih (deleteRule k a)
        exact ⟨Installed.trans ⟨_, _, rfl⟩ h1, by simp [h2, hk]⟩
      · exact ⟨.refl a, by simp [hk]⟩

lemma addRoutes_spec (ans : RtAns) (a : WanAt) : Installed a (addRoutes a f ans).1 ∧
    ((addRoutes a f ans).2 = true ↔ RoutesOk a.1 f ans) := by
  have htx : Installed a (if a.1.isSta then addRules ans (a.1.txPlaces f) a else (a, true)).1 ∧
      ((if a.1.isSta then addRules ans (a.1.txPlaces f) a else (a, true)).2 = true ↔
        (a.1.isSta → ∀ k ∈ a.1.txPlaces f, ans.add k = true)) := by
    split_ifs with hs
    · exact ⟨(addRules_spec ans _ a).1, by simp [(addRules_spec ans _ a).2, hs]⟩
    · exact ⟨.refl a, by simp [hs]⟩
  rw [addRoutes, RoutesOk]
  generalize (if a.1.isSta then addRules ans (a.1.txPlaces f) a else (a, true)) = r at htx ⊢
  obtain ⟨h1, h2⟩ := htx
  rw [← h2]
  split_ifs with hr hd
  · exact ⟨h1, by simp [hr]⟩
  · exact ⟨h1, by simp [hd]⟩
  · obtain ⟨h3, h4⟩ := addRules_spec ans (a5Places f) r.1
    refine ⟨h1.trans h3, ?_⟩
    rw [h4]
    cases f <;> simp_all [a5Places]

lemma view_routeUp (a : WanAt) (f h : IpType) :
    view h (routeUp a f) = if h = f then upView a.1 else view h a := by
  cases f <;> cases h <;> simp [view, routeUp, upView, toldStep]

lemma core_routeUp (a : WanAt) (f : IpType) : (routeUp a f).1.core = a.1.core := by
  cases f <;> rfl

/-- **`handle_route_add_evt`** makes the interface the upstream, or it leaves the views alone and may
let the route wait for its header. -/
lemma handleRouteAddEvt_cases (a : WanAt) (f : IpType) (ans : RtAns) :
    (AddOk a.1 f ans ∧ ∃ b : WanAt, b.1.core = a.1.core ∧ (∀ h, view h b = view h a) ∧
        b.1.headerPartialDefaultWan = a.1.headerPartialDefaultWan ∧
        handleRouteAddEvt a f ans = routeUp b f) ∨
      (¬ AddOk a.1 f ans ∧ (handleRouteAddEvt a f ans).1.core = a.1.core ∧
        (∀ h, view h (handleRouteAddEvt a f ans) = view h a) ∧
        ((handleRouteAddEvt a f ans).1.headerPartialDefaultWan = a.1.headerPartialDefaultWan ∨
          a.1.isSta = true ∧ (handleRouteAddEvt a f ans).1.headerPartialDefaultWan =
            Function.update a.1.headerPartialDefaultWan f true)) := by
  have hpart : ∀ {b : WanAt}, Installed (takeBackhaul a) b →
      b.1.headerPartialDefaultWan = a.1.headerPartialDefaultWan := fun hi => by
    obtain ⟨hdl, rules, rfl⟩ := hi
    rfl
  obtain ⟨hi, hok⟩ := addRoutes_spec ans (f := f) (takeBackhaul a)
  rw [handleRouteAddEvt]
  dsimp only
  split_ifs with ht hw he hr
  · exact Or.inr ⟨fun h => h.tx ht, rfl, fun _ => rfl, Or.inl rfl⟩
  · exact Or.inr ⟨fun h => by simp [h.header hw.1] at hw, rfl, fun _ => rfl, Or.inr ⟨hw.1, rfl⟩⟩
  · exact Or.inr ⟨fun h => h.ext (by simp [WanIface.isSta, he.1]) he.2, rfl, fun _ => rfl,
      Or.inl rfl⟩
  · refine Or.inl ⟨⟨ht, fun hs => ?_, fun hs => ?_, hok.mp hr⟩, _, hi.core, hi.view, hpart hi, rfl⟩
    · simpa [hs] using hw
    · intro hn
      exact he ⟨by simpa [WanIface.isSta] using hs, hn⟩
  · exact Or.inr ⟨fun h => hr (hok.mpr h.routes), hi.core, hi.view, Or.inl (hpart hi)⟩

/-- **`handle_route_add_evt`, as a family sees it.** -/
lemma view_routeAdd (a : WanAt) (f h : IpType) (ans : RtAns) :
    view h (handleRouteAddEvt a f ans) =
      if h = f ∧ AddOk a.1 f ans then upView a.1 else view h a := by
  rcases handleRouteAddEvt_cases a f ans with ⟨hok, b, hcore, hv, -, e⟩ | ⟨hno, -, hv, -⟩
  · rw [e, view_routeUp, hv]
    simp [hok, upView, core_num hcore]
  · rw [hv, if_neg fun h => hno h.2]

lemma core_routeAdd (a : WanAt) (f : IpType) (ans : RtAns) :
    (handleRouteAddEvt a f ans).1.core = a.1.core := by
  rcases handleRouteAddEvt_cases a f ans with ⟨-, b, hcore, -, -, e⟩ | ⟨-, hcore, -⟩
  · rw [e, core_routeUp, hcore]
  · exact hcore

/-! ## Deleting a route -/

/-- The places that are emptied. -/
def WanIface.places (x : WanIface) (f : IpType) : List WanRtHdl :=
  if x.isSta then x.txPlaces f ++ a5Places f else a5Places f

/-- The driver deletes the routes of a family. -/
def DelOk (x : WanIface) (f : IpType) (ans : RtAns) : Prop := ∀ k ∈ x.places f, ans.del k = true

instance : Decidable (DelOk x f ans) := by unfold DelOk; infer_instance

/-- **The functions that delete a route** end with no upstream, or leave the views alone. -/
lemma routeDel_cases (a : WanAt) (f : IpType) (ans : RtAns) (places : List WanRtHdl)
    (htx : a.1.active f = true → a.1.txProp ≠ none) :
    (a.1.active f = true ∧ (∀ k ∈ places, ans.del k = true) ∧ ∃ b : WanAt,
        b.1.core = a.1.core ∧ (∀ h, view h b = view h a) ∧
        b.1.headerPartialDefaultWan = a.1.headerPartialDefaultWan ∧
        routeDel a f ans places = routeDown b f) ∨
      (¬ (a.1.active f = true ∧ ∀ k ∈ places, ans.del k = true) ∧
        (routeDel a f ans places).1.core = a.1.core ∧
        (∀ h, view h (routeDel a f ans places) = view h a) ∧
        (routeDel a f ans places).1.headerPartialDefaultWan = a.1.headerPartialDefaultWan) := by
  have hpart : ∀ {b : WanAt}, Installed (leaveGateway a) b →
      b.1.headerPartialDefaultWan = a.1.headerPartialDefaultWan := fun hi => by
    obtain ⟨hdl, rules, rfl⟩ := hi
    rfl
  obtain ⟨hi, hok⟩ := deleteRules_spec ans places (leaveGateway a)
  rw [routeDel]
  dsimp only
  split_ifs with ht ha hr
  · exact Or.inr ⟨fun h => htx h.1 ht, rfl, fun _ => rfl, rfl⟩
  · exact Or.inr ⟨fun h => by simp [ha] at h, rfl, fun _ => rfl, rfl⟩
  · exact Or.inl ⟨by simpa using ha, hok.mp hr, _, hi.core, hi.view, hpart hi, rfl⟩
  · exact Or.inr ⟨fun h => hr (hok.mpr h.2), hi.core, hi.view, hpart hi⟩

lemma view_routeDown (a : WanAt) (f h : IpType) :
    view h (routeDown a f) = if h = f then downView else view h a := by
  cases f <;> cases h <;> simp [view, routeDown, downView, toldStep]

lemma view_routeDel (a : WanAt) (f h : IpType) (ans : RtAns) (places : List WanRtHdl)
    (htx : a.1.active f = true → a.1.txProp ≠ none) :
    view h (routeDel a f ans places) =
      if h = f ∧ a.1.active f = true ∧ ∀ k ∈ places, ans.del k = true then downView
      else view h a := by
  rcases routeDel_cases a f ans places htx with ⟨ha, hd, b, -, hv, -, e⟩ | ⟨hno, -, hv, -⟩
  · rw [e, view_routeDown, hv]
    by_cases hh : h = f
    · rw [if_pos hh, if_pos ⟨hh, ha, hd⟩]
    · rw [if_neg hh, if_neg fun h => hh h.1]
  · rw [hv, if_neg fun h => hno h.2]

/-- What the functions leave of a record, besides `core`. -/
lemma routeDel_record (a : WanAt) (f : IpType) (ans : RtAns) (places : List WanRtHdl)
    (htx : a.1.active f = true → a.1.txProp ≠ none) :
    (routeDel a f ans places).1.core = a.1.core ∧
      (routeDel a f ans places).1.headerPartialDefaultWan = a.1.headerPartialDefaultWan := by
  rcases routeDel_cases a f ans places htx with ⟨-, -, b, hcore, -, hpart, e⟩ | ⟨-, hcore, -, hpart⟩
  · rw [e]
    exact ⟨hcore, hpart⟩
  · exact ⟨hcore, hpart⟩

lemma routeDelEvt_eq (a : WanAt) (f : IpType) (ans : RtAns) :
    routeDelEvt a f ans = routeDel a f ans (a.1.places f) := by
  rw [routeDelEvt, handleRouteDelEvt, handleRouteDelEvtEx, WanIface.places]
  split_ifs <;> rfl

/-- **A route is deleted, as a family sees it.** -/
lemma view_routeDelEvt (a : WanAt) (f h : IpType) (ans : RtAns)
    (htx : a.1.active f = true → a.1.txProp ≠ none) :
    view h (routeDelEvt a f ans) =
      if h = f ∧ a.1.active f = true ∧ DelOk a.1 f ans then downView else view h a := by
  rw [routeDelEvt_eq, view_routeDel a f h ans _ htx]
  exact if_congr Iff.rfl rfl rfl

/-! ## Headers -/

/-- The search for headers only sets flags for them, and goes on only if none was set. -/
lemma takeHeaders_spec (x : WanIface) (gw : Option (Option WanClient)) (f : IpType) :
    ∃ hs, (takeHeaders x gw f).1 = { x with headerSet := hs } ∧
      ∀ h, x.headerSet h = true → hs h = true := by
  have hset : ∀ (hs : IpType → Bool) (g h : IpType), hs h = true →
      Function.update hs g true h = true := fun hs g h hh => by
    rcases eq_or_ne h g with rfl | hne
    · rw [Function.update_self]
    · rwa [Function.update_of_ne hne]
  unfold takeHeaders
  split
  · exact ⟨x.headerSet, rfl, fun _ h => h⟩
  · exact ⟨x.headerSet, rfl, fun _ h => h⟩
  · dsimp only
    split_ifs
    · exact ⟨x.headerSet, rfl, fun _ h => h⟩
    · exact ⟨_, rfl, fun h hh => hset _ _ _ hh⟩
    · exact ⟨_, rfl, fun h hh => hset _ _ _ (hset _ _ _ hh)⟩

lemma findHeaders_spec (x : WanIface) :
    (∃ hs, (findHeaders x).1 = { x with headerSet := hs } ∧
      ∀ h, x.headerSet h = true → hs h = true) ∧
      ((findHeaders x).2 = true → ∀ h, x.headerSet h = false) := by
  unfold findHeaders
  dsimp only
  obtain ⟨hs, e, hmono⟩ := takeHeaders_spec x (gatewayV4 x) .v4
  split_ifs with h0 h1
  · exact ⟨⟨x.headerSet, rfl, fun _ h => h⟩, nofun⟩
  · exact ⟨⟨hs, e, hmono⟩, fun h => by simp [h1] at h⟩
  · obtain ⟨hs', e', hmono'⟩ := takeHeaders_spec (takeHeaders x (gatewayV4 x) .v4).1
      (gatewayV6 (takeHeaders x (gatewayV4 x) .v4).1) .v6
    refine ⟨⟨hs', by rw [e', e], fun h hh => hmono' h (by rw [e]; exact hmono h hh)⟩, fun _ h => ?_⟩
    cases h <;> simp_all

/-- A route that waits gets its header. -/
def WaitOk (x : WanIface) (h : IpType) (ans : IpType → RtAns) : Prop :=
  (findHeaders x).2 = true ∧ x.headerPartialDefaultWan h = true ∧
    AddOk (findHeaders x).1 h (ans h)

instance (ws : IpType → RtAns) : Decidable (WaitOk x h ws) := by unfold WaitOk; infer_instance

lemma view_addPartial (f h : IpType) (ans : RtAns) (a : WanAt) :
    view h (addPartial f ans a) =
      if h = f ∧ a.1.headerPartialDefaultWan f = true ∧ AddOk a.1 f ans then upView a.1
      else view h a := by
  rw [addPartial]
  split_ifs with hp h1 h1
  · rw [view_routeAdd, if_pos ⟨h1.1, h1.2.2⟩]
  · rw [view_routeAdd, if_neg fun h2 => h1 ⟨h2.1, hp, h2.2⟩]
  · exact absurd h1.2.1 hp
  · rfl

lemma core_addPartial (f : IpType) (ans : RtAns) (a : WanAt) :
    (addPartial f ans a).1.core = a.1.core := by
  rw [addPartial]
  split_ifs
  · exact core_routeAdd a f ans
  · rfl

/-- Another family waits as before. -/
lemma addPartial_other {f h : IpType} (hne : h ≠ f) (ans : RtAns) (a : WanAt) :
    (addPartial f ans a).1.headerPartialDefaultWan h = a.1.headerPartialDefaultWan h := by
  rw [addPartial]
  split_ifs
  · rcases handleRouteAddEvt_cases a f ans with ⟨-, b, -, -, hp, e⟩ | ⟨-, -, -, hp | ⟨-, hp⟩⟩
    · have hup : (routeUp b f).1.headerPartialDefaultWan = b.1.headerPartialDefaultWan := by
        cases f <;> rfl
      rw [e, hup, hp]
    · rw [hp]
    · rw [hp, Function.update_of_ne hne]
  · rfl

/-- **`handle_sta_header_add_evt`, as a family sees it.** -/
lemma view_staHeaderAdd (a : WanAt) (h : IpType) (ans : IpType → RtAns) :
    view h (handleStaHeaderAddEvt a ans) =
      if WaitOk a.1 h ans then upView a.1 else view h a := by
  obtain ⟨⟨hs, e, -⟩, -⟩ := findHeaders_spec a.1
  have hv : ∀ h, view h (((findHeaders a.1).1, a.2) : WanAt) = view h a := fun h => by rw [e]; rfl
  have hup : upView (findHeaders a.1).1 = upView a.1 := by rw [e]; rfl
  have hp : (findHeaders a.1).1.headerPartialDefaultWan = a.1.headerPartialDefaultWan := by rw [e]
  rw [handleStaHeaderAddEvt]
  split_ifs with h1 h2 h2
  · simp [h2.1] at h1
  · exact hv h
  all_goals
    have hcore := core_addPartial .v4 (ans .v4) ((findHeaders a.1).1, a.2)
    have hnum : upView (addPartial .v4 (ans .v4) ((findHeaders a.1).1, a.2)).1 = upView a.1 := by
      rw [← hup, upView, upView, core_num hcore]
    have hother := addPartial_other (h := .v6) (f := .v4) (by decide) (ans .v4)
      ((findHeaders a.1).1, a.2)
    simp only [view_addPartial, addOk_congr hcore, hnum, hother, hp, hv, hup]
  · obtain ⟨-, hw, ho⟩ := h2
    cases h <;> simp [hw, ho]
  · have hno : ∀ f, h = f → ¬ (a.1.headerPartialDefaultWan f = true ∧
        AddOk (findHeaders a.1).1 f (ans f)) := fun f hf h3 => by
      subst hf
      exact h2 ⟨by simpa using h1, h3⟩
    rw [if_neg fun h3 => hno _ h3.1 h3.2, if_neg fun h3 => hno _ h3.1 h3.2]

end Core

end Ipacm.WanRoutes
